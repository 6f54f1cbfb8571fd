import GraphQuery.Error
import GraphQuery.Result.Row
import GraphQuery.Result.Schema
import GraphQuery.Signature

/-!
# Typed records

A row is turned into a record by a constructor, which may refuse it. If the constructor says that it
was called wrongly, the error names the row; any other fault passes through. Several rows are turned
into records in order, and the first that is refused decides the outcome.

The constructor of a sort of record takes the fields by name, and each column of a row names one. A
column with a surrogate by itself names none; in what is said of it U+FFFD stands for the surrogate.
A text that the sort has under a reserved name stands for what records do under this name, and as a
text cannot be called they cannot do it any more.
-/

namespace GraphQuery

namespace ResultSet

/-- The error for what is displayed as `shown` and refused for the given reason. -/
def refused (shown reason : String) : Error :=
  .unserializable ("Failed to deserialize row " ++ shown ++ ": " ++ reason)

/-- Turns one row into a record. -/
def deserializeRow {α : Type} (construct : Row → Except Fault α) (row : Row) : Except Error α :=
  match construct row with
  | .ok a => .ok a
  | .error f => .error (if f.kind = .type then refused row.display f.message else .fault f)

/-- Turns every row into a record. -/
def deserializeRows {α : Type} (construct : Row → Except Fault α) (rs : ResultSet) :
    Except Error (List α) :=
  rs.rows.mapM (deserializeRow construct)

/-- Turns the first row into a record. -/
def first {α : Type} (construct : Row → Except Fault α) (rs : ResultSet) : Except Error α :=
  match rs.rows with
  | [] => .error (.unserializable "No rows returned")
  | row :: _ => deserializeRow construct row

end ResultSet

/-- A record: the name of its sort, its fields in order, and the texts that its sort has for fields
by default. -/
structure Record where
  name : String
  fields : List (String × Plain)
  texts : List (String × String)

/-- The fault of calling a text. -/
def Fault.textCalled : Fault := ⟨.type, (Error.notCallable "str").message⟩

namespace Schema

/-- What the constructor takes. -/
def signature (s : Schema) : Signature :=
  let (needed, others) := s.fields.partition (s.default? · |>.isNone)
  ⟨s.name ++ ".__init__", some s.receiver, needed.map Prod.fst, others.map Prod.fst⟩

/-- What keeps a value from being put into a field. -/
def settingFault? (s : Schema) (field : String) (value : Plain) : Option Fault :=
  if s.hasText "__setattr__" then some .textCalled
  else if s.hasText field then none
  else match field, value with
    | "__class__", .text _ | "__class__", .broken _ =>
      some ⟨.type, "__class__ must be set to a class, not 'str' object"⟩
    | "__class__", _ =>
      some ⟨.type,
        "__class__ assignment only supported for mutable types or ModuleType subclasses"⟩
    | "__weakref__", _ =>
      some ⟨.attribute, "attribute '__weakref__' of '" ++ Text.clip 100 s.name ++
        "' objects is not writable"⟩
    | _, _ => none

/-- Makes a record of a row. -/
def construct (s : Schema) (row : Row) : Except Fault Record := do
  if s.hasText "__new__" || s.hasText "__init__" then throw .textCalled
  let given ← s.signature.bind [] (row.map (Prod.map CodePoints.inText Plain.ofCodePoints))
  let fields := s.fields.map fun f ↦
    (f.1, (given.lookup f.1).getD ((s.default? f).getD .none))
  if let some f := fields.findSome? fun f ↦ s.settingFault? f.1 f.2 then throw f
  if s.hasText "__post_init__" then throw .textCalled
  return ⟨s.name, fields, s.ownTexts⟩

end Schema

namespace Record

/-- Whether the sort of a record has a text for one of some fields. -/
def hasTextOf (r : Record) (fields : List String) : Bool := r.texts.any (·.1 ∈ fields)

/-- Whether a record cannot even be asked for its attributes. -/
def isMute (r : Record) : Bool := r.hasTextOf ["__getattribute__"]

/-- A record as messages show it, unless something stands for the way to show it. -/
def display (r : Record) : Except Fault String :=
  if r.isMute || r.hasTextOf ["__repr__"] then .error .textCalled
  else
    let shown (title : String) : String :=
      title ++ "(" ++ ", ".intercalate (r.fields.map fun f ↦ f.1 ++ "=" ++ f.2.display) ++ ")"
    match r.fields.lookup "__class__" with
    | some (.text _) | some (.broken _) =>
      .error ⟨.attribute, (Error.noAttribute "str" "__qualname__").message⟩
    | some _ => .ok (shown "type")
    | none => .ok (shown r.name)

/-- The qualified name of a record that has a field for it. -/
def calleeName? (r : Record) : Option String :=
  let place := ((r.fields.lookup "__module__").getD (.text "types")).inText
  let before := if place = "builtins" then "" else place ++ "."
  (r.fields.lookup "__qualname__").map fun name ↦ before ++ name.inText ++ "()"

/-- A record inside a composed text, unless something stands for the way to show it there. -/
def inText (r : Record) : Except Fault String :=
  if r.hasTextOf ["__str__"] then .error .textCalled else r.display

end Record

/-- What a row may be turned into. -/
inductive Target
  /-- A record of the given sort. -/
  | schema (schema : Schema)
  /-- The row itself. -/
  | row
  /-- Nothing: every row is refused for the same reason. -/
  | failing (fault : Fault)

/-- What a row was turned into. -/
inductive Instance
  | record (record : Record)
  | row (row : Row)

/-- What keeps a target from being made. -/
def Target.fault? : Target → Option Fault
  | schema s => s.fault?
  | row | failing _ => none

/-- Turns a row into what the target asks for. -/
def Target.construct : Target → Row → Except Fault Instance
  | schema s, r => (s.construct r).map .record
  | row, r => .ok (.row r)
  | failing f, _ => .error f

end GraphQuery
