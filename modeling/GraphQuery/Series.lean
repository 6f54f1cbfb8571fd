/-!
# Series and members

A series is things in a row that are picked by position, from the front or, with a negative
position, from the end. Messages tell the sorts of series apart.

Members are keys and their values in the order in which the keys first appeared. Setting a key that
is there already keeps its place.
-/

namespace GraphQuery

/-- The sorts of series. -/
inductive Series
  | list | tuple | text | bytes
deriving DecidableEq, Repr

namespace Series

/-- A sort of series in messages. -/
def word : Series → String
  | list => "list"
  | tuple => "tuple"
  | text => "string"
  | bytes => "byte"

/-- What is said of a position beyond the ends. -/
def outOfRange : Series → String
  | bytes => "index out of range"
  | s => s.word ++ " index out of range"

/-- What is said of something that is no position. -/
def badIndex (typeName : String) : Series → String
  | text => text.word ++ " indices must be integers, not '" ++ typeName ++ "'"
  | s => s.word ++ " indices must be integers or slices, not " ++ typeName

end Series

/-- The item at a position from the front. -/
def itemFromFront? {α : Type} (items : List α) (position : Int) : Option α :=
  if 0 ≤ position then items[position.toNat]? else none

/-- The item at a position from the front or, if it is negative, from the end. -/
def itemFromEitherEnd? {α : Type} (items : List α) (position : Int) : Option α :=
  itemFromFront? items (if position < 0 then position + (items.length : Int) else position)

/-- Sets a key: in its place if it is there, at the end otherwise. -/
def setMember {κ α : Type} [DecidableEq κ] (key : κ) (value : α) : List (κ × α) → List (κ × α)
  | [] => [(key, value)]
  | m :: ms => if m.1 = key then (key, value) :: ms else m :: setMember key value ms

/-- The keys are the ones from before, and the new one at the end if it was not there. -/
theorem keys_setMember {κ α : Type} [DecidableEq κ] (key : κ) (value : α) (ms : List (κ × α)) :
    (setMember key value ms).map Prod.fst =
      if key ∈ ms.map Prod.fst then ms.map Prod.fst else ms.map Prod.fst ++ [key] := by
  induction ms with
  | nil => simp [setMember]
  | cons m ms ih =>
    by_cases h : m.1 = key
    · simp [setMember, h]
    · have h' : ¬key = m.1 := fun e ↦ h e.symm
      simp only [setMember, h, if_false, List.map_cons, ih, List.mem_cons, h', false_or]
      split <;> simp

end GraphQuery
