import GraphQuery.Equality
import GraphQuery.Workspace.Basic

/-!
# What values hold

Series and rows can be counted, their items can be asked for one at a time or all together, and any
two values can be compared. A position may be any integer that fits into 64 bits; a column is looked
for by what it is equal to, which only a text ever is. A record has none of this, but its sort may
have a text that stands for it and cannot be called.
-/

namespace GraphQuery.Session

/-- Fails if a value is a record whose sort has a text for one of some fields. -/
def expectNoText (fields : List String) (v : Value) : Action Unit := do
  if v.hasTextOf fields then throw (.fault .textCalled)

/-- Fails if a value may change. -/
def expectUnchanging (v : Value) : Action Unit := do
  if let some part := v.changeable? then
    expectNoText ["__hash__"] part
    throw (.changeable ((← get).typeName part))

/-- Whether two values are equal. -/
def areEqual (u v : Value) : Action Bool := Work.ofResult ((u.compare v).mapError .fault)

/-- Which of the given values are equal to which, if each of them can be looked up. -/
def compare (vs : List Value) : Action (List (List Bool)) := do
  vs.forM expectUnchanging
  Work.ofResult ((Value.equalities vs).mapError .fault)

/-- Whether an integer can be a position at all. -/
def isPosition (index : Int) : Bool := -Number.twoPow 63 ≤ index && index < Number.twoPow 63

/-- The item of a series at a position, from the front or from the end. -/
def itemAt (series : Series) (items : List Value) (position : Value) : Action Value := do
  expectNoText ["__index__"] position
  match position.integer? with
  | none => throw (.badIndex series ((← get).typeName position))
  | some index =>
    if isPosition index then Work.ofOption (.outOfRange series) (itemFromEitherEnd? items index)
    else throw .unindexable

/-- The text in a column of a row. -/
def columnOf (r : Row) (column : Value) : Action Value := do
  expectUnchanging column
  let found := match column with
    | .plain (.text name) => r.lookup (.ofString name)
    | .plain (.broken name) => r.lookup name
    | _ => none
  return .codePoints (← Work.ofOption (.noColumn (← Action.display column)) found)

/-- What a sort of objects with an item in brackets stands for. -/
def itemOfTarget (t : Target) (place : Value) : Action Value := do
  match t with
  | .schema s =>
    if (s.ownTexts.lookup "__class_getitem__").isSome then throw (.fault .textCalled)
    else throw (.itemlessType s.name)
  | .row =>
    return .plain (.other "types.GenericAlias" ("dict[" ++ (← Action.displaySort place) ++ "]"))
  | .failing _ => throw (.itemless "function")

/-- The item of a value at a position or in a column. -/
def itemOf (v place : Value) : Action Value := do
  expectNoText ["__getitem__"] v
  match v, v.series? with
  | .row r, _ => columnOf r place
  | .target _ t, _ => itemOfTarget t place
  | _, some (series, items) => itemAt series items place
  | v, none => throw (.itemless ((← get).typeName v))

/-- How many items a value has. -/
def countOf (v : Value) : Action Value := do
  expectNoText ["__len__"] v
  return .count (← Work.ofOption (.uncountable ((← get).typeName v)) v.items?).length

/-- The items of a value. -/
def itemsOf (v : Value) : Action Value := do
  expectNoText ["__iter__", "__getitem__"] v
  return .list (← Work.ofOption (.unlisted ((← get).typeName v)) v.items?)

end GraphQuery.Session
