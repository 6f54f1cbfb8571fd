import GraphQuery.Fault
import GraphQuery.Result.Attribute
import GraphQuery.Text.IdentifierChar
import GraphQuery.Text.NormalForm

/-!
# Sorts of records

A sort of record has a name and fields, and a field may have a text by default. Its constructor
binds the fields by their names in compatible form, so it can be made only if all names are in this
form and none of them is there twice.

What is wrong with a sort is looked for in a fixed order: first at the fields one by one, then at
the sort as a whole, at what fields have by default, at their order, and at last at the names that
the constructor binds.
-/

namespace GraphQuery

/-- A sort of record: a name, and fields that may have a text by default. -/
structure Schema where
  name : String
  fields : List (String × Option String)
deriving DecidableEq, Repr

namespace Schema

/-- Whether a field has a text by default. -/
def hasText (s : Schema) (field : String) : Bool := s.fields.any fun f ↦ f.1 = field && f.2.isSome

/-- The texts that fields have by default, before attributes are looked at. -/
def texts (s : Schema) : List (String × String) := s.fields.filterMap fun f ↦ f.2.map (f.1, ·)

/-- The name of a sort with the place that it comes from. -/
def qualifiedName (s : Schema) : String :=
  match s.texts.lookup "__module__" with
  | some "builtins" => s.name
  | some place => place ++ "." ++ s.name
  | none => "types." ++ s.name

/-- A sort of record as messages show it. -/
def display (s : Schema) : String := "<class '" ++ s.qualifiedName ++ "'>"

/-- Whether something is looked up in a sort for the fields before a given one. -/
def isSearchedBefore (s : Schema) (field : String) : Bool :=
  (s.fields.takeWhile (·.1 ≠ field)).any fun f ↦ !Attribute.isDescription f.1

/-- What a sort of record has under a reserved name. A sort that compares its records in a way of
its own has no way to look them up. -/
def attribute? (s : Schema) (name : String) : Option Attribute :=
  if name = "__hash__" && s.hasText "__eq__" then some (.replaceable .none)
  else Attribute.find? s.name s.display (s.isSearchedBefore name) name

/-- What a field is by default, if it may be left out. -/
def default? (s : Schema) (field : String × Option String) : Option Plain :=
  match s.attribute? field.1, field.2 with
  | some (.fixed value), _ => some value
  | _, some text => some (.text text)
  | some (.replaceable value), none => some value
  | _, none => none

/-- The texts that can be read off a sort of record by the names of its fields. -/
def ownTexts (s : Schema) : List (String × String) :=
  s.texts.filter fun t ↦ !(s.attribute? t.1 matches some (.fixed _))

/-- The words that no field may be called. -/
def reserved : List String := [
  "False", "None", "True", "and", "as", "assert", "async", "await", "break", "class", "continue",
  "def", "del", "elif", "else", "except", "finally", "for", "from", "global", "if", "import", "in",
  "is", "lambda", "nonlocal", "not", "or", "pass", "raise", "return", "try", "while", "with",
  "yield"]

/-- What is wrong with a field, given the ones before it. -/
def fieldFault? (before : List String) (field : String) : Option String :=
  if !Text.isIdentifier field.toList then
    some ("Field names must be valid identifiers: " ++ Text.display field)
  else if field ∈ reserved then
    some ("Field names must not be keywords: " ++ Text.display field)
  else if field ∈ before then some ("Field name duplicated: " ++ Text.display field)
  else none

/-- What is wrong with fields one by one, given the ones before them. -/
def fieldsFault? (before : List String) : List (String × Option String) → Option String
  | [] => none
  | f :: fs => (fieldFault? before f.1).or (fieldsFault? (f.1 :: before) fs)

/-- What is wrong with a sort as a whole: a reserved name stands for something other than a text, or
the name of the sort cannot be used. -/
def wholeFault? (s : Schema) : Option Fault :=
  if s.hasText "__slots__" then some ⟨.type, "'Field' object is not iterable"⟩
  else if '\x00' ∈ s.name.toList then
    some ⟨.value, "type name must not contain null characters"⟩
  else if s.hasText "__qualname__" then
    some ⟨.type, "type __qualname__ must be a str, not Field"⟩
  else if s.hasText "__classcell__" then
    some ⟨.type, "__classcell__ must be a nonlocal cell, not <class 'dataclasses.Field'>"⟩
  else none

/-- What is wrong with what a field is by default: it is something that may change. -/
def changeFault? (s : Schema) : Option String :=
  s.fields.findSome? fun f ↦
    match s.attribute? f.1 with
    | some (.changeable typeName) =>
      some ("mutable default <class '" ++ typeName ++ "'> for field " ++ f.1 ++
        " is not allowed: use default_factory")
    | _ => none

/-- What is wrong with a field that must be given and comes after one that may be left out. -/
def orderFault? (s : Schema) : Option String :=
  ((s.fields.dropWhile (s.default? · |>.isNone)).find? (s.default? · |>.isNone)).map fun f ↦
    "non-default argument " ++ Text.display f.1 ++ " follows default argument"

/-- How the constructor refers to the record that it makes, which no field is called. -/
def receiver (s : Schema) : String :=
  if s.fields.any (·.1 = "self") then "__dataclass_self__" else "self"

/-- The names that the constructor binds to fields. -/
def boundNames (s : Schema) : List String := s.fields.map fun f ↦ Text.compatibleName f.1

/-- The first of some names that is there already. -/
def repeated? : List String → List String → Option String
  | _, [] => none
  | before, n :: ns => if n ∈ before then some n else repeated? (n :: before) ns

/-- What is wrong with the names that the constructor binds. A name is bound to the sort of a field,
in the first line of its definition, and to the field, in the second. -/
def bindingFault? (s : Schema) : Option String :=
  ((repeated? [] s.boundNames).map fun n ↦
    "duplicate argument '_type_" ++ n ++ "' in function definition (<string>, line 1)").or <|
  ((repeated? [] (s.receiver :: s.boundNames)).map fun n ↦
    "duplicate argument '" ++ n ++ "' in function definition (<string>, line 2)").or <|
  if "__debug__" ∈ s.boundNames then some "cannot assign to __debug__ (<string>, line 2)" else none

/-- What is wrong with the form of a field. The constructor is given the field under the name as it
is written, and nothing takes that name unless it is in compatible form. -/
def formFault? (s : Schema) : Option String :=
  (s.fields.find? fun f ↦ Text.compatibleName f.1 ≠ f.1).map fun f ↦
    "__create_fn__() got an unexpected keyword argument '_type_" ++ f.1 ++ "'"

/-- What keeps a sort of record from being made. -/
def fault? (s : Schema) : Option Fault :=
  ((fieldsFault? [] s.fields).map (⟨.type, ·⟩)).or <|
  s.wholeFault?.or <|
  (s.changeFault?.map (⟨.value, ·⟩)).or <|
  (s.orderFault?.map (⟨.type, ·⟩)).or <|
  (s.bindingFault?.map (⟨.grammar, ·⟩)).or <|
  s.formFault?.map (⟨.type, ·⟩)

end Schema

end GraphQuery
