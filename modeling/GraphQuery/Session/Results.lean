import GraphQuery.Session.Contents
import GraphQuery.Session.Signatures

/-!
# Calls on result sets

Whatever is passed as a position or as something to turn rows into is taken as it is, and fails
where it is used: a position when it is compared or looked up, a target when it is called with a
row.
-/

namespace GraphQuery.Session

/-- The row at a position from the front, if there is one. A number that is not an integer is found
to be none only where there is a row to look at. -/
def rowAt (rs : ResultSet) (position : Value) : Action Value := do
  expectNoText ["__ge__"] position
  match position.integer?, position with
  | some index, _ => return (rs.row? index).elim .none .row
  | none, .plain (.float x) =>
    if 0.0 ≤ x && x < Float.ofNat rs.count then throw (.badIndex .list "float") else return .none
  | none, _ => throw (.unordered ((← get).typeName position))

/-- Why something that is no row cannot be passed to a target column by column. Its columns would be
asked of it by name, and it may have something else under that name. -/
def expansionFault (w : Workspace) (v target : Value) : Fault :=
  match v with
  | .target _ .row => ⟨.type, "unbound method dict.keys() needs an argument"⟩
  | v =>
    match w.lacking v "keys" with
    | .noAttribute _ _ | .noTypeAttribute _ _ =>
      (Workspace.calleeFault? target).getD
        ⟨.type, w.callee target ++ " argument after ** must be a mapping, not " ++
          Text.clip 200 (w.typeName v)⟩
    | e => ⟨.type, e.message⟩

/-- Turns whatever is taken as a row into what a target asks for. -/
def deserialize (row target : Value) : Action Value := do
  let w ← get
  match row with
  | .row r => Work.ofResult (ResultSet.deserializeRow (w.construct target) r)
  | v =>
    let fault := expansionFault w v target
    if fault.kind = .type then throw (ResultSet.refused (← Action.display v) fault.message)
    else throw (.fault fault)

/-- Calls an operation of a result set. -/
def callResults (rs : ResultSet) (name : String) (args : List Value) : Action Value := do
  checkArguments (resultSignature? name) args
  let w ← get
  match name with
  | "row_count" => return .count rs.count
  | "rows" => return .list (rs.rows.map .row)
  | "column_names" => return .texts rs.columnNames
  | "get_row" => rowAt rs (argument args 0)
  | "is_empty" => return .bool rs.isEmpty
  | "ids" => return .texts rs.ids
  | "first" => Work.ofResult (rs.first (w.construct (argument args 0)))
  | "deserialize_rows" =>
    return .list (← Work.ofResult (rs.deserializeRows (w.construct (argument args 0))))
  | "deserialize_row" => deserialize (argument args 0) (argument args 1)
  | _ => Action.lacks (.results rs) name

end GraphQuery.Session
