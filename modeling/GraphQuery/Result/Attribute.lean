import GraphQuery.Plain

/-!
# Attributes of record sorts

Every sort of record has attributes under reserved names, whether or not a field is called so. A
field that is called like an attribute and has no text by default takes the value of the attribute
instead, so it may be left out. A few attributes are never replaced by a text, and two of them hold
something that may change, which no field may have by default.
-/

namespace GraphQuery

/-- What a sort of record has under a reserved name. -/
inductive Attribute
  /-- A value that a field has by default unless it has a text. -/
  | replaceable (value : Plain)
  /-- A value that a field has by default even if it has a text. -/
  | fixed (value : Plain)
  /-- Something of the given sort that may change. -/
  | changeable (typeName : String)

namespace Attribute

/-- The operators that every object has. -/
def operators : List String := [
  "__delattr__", "__eq__", "__ge__", "__getattribute__", "__gt__", "__hash__", "__init__",
  "__le__", "__lt__", "__ne__", "__repr__", "__setattr__", "__str__"]

/-- The methods that every object has. -/
def methods : List String := [
  "__dir__", "__format__", "__getstate__", "__reduce__", "__reduce_ex__", "__sizeof__"]

/-- The operators that sorts of objects have themselves. -/
def ownOperators : List String := ["__call__", "__or__", "__ror__"]

/-- The methods that sorts of objects have themselves. -/
def ownMethods : List String := [
  "__init_subclass__", "__instancecheck__", "__new__", "__prepare__", "__subclasscheck__",
  "__subclasses__", "__subclasshook__", "mro"]

/-- What a sort of record says of itself, given its name, how it is shown, and whether anything was
looked up in it before. -/
def descriptions (sort shown : String) (searched : Bool) : List (String × Attribute) := [
  ("__annotations__", .changeable "dict"),
  ("__base__", .fixed (.other "type" "<class 'object'>")),
  ("__bases__", .fixed (.other "tuple" "(<class 'object'>,)")),
  ("__basicsize__", .fixed (.int 24)),
  ("__class__", .fixed (.other "type" "<class 'type'>")),
  ("__dict__", .changeable "mappingproxy"),
  ("__dictoffset__", .fixed (.int (-48))),
  ("__doc__", .replaceable .none),
  ("__flags__", .fixed (.int (if searched then 546320 else 22032))),
  ("__itemsize__", .fixed (.int 0)),
  ("__module__", .replaceable (.text "types")),
  ("__mro__", .fixed (.other "tuple" ("(" ++ shown ++ ", <class 'object'>)"))),
  ("__name__", .fixed (.text sort)),
  ("__qualname__", .replaceable (.text sort)),
  ("__text_signature__", .fixed .none),
  ("__weakrefoffset__", .fixed (.int 16))]

/-- The names that are answered from what a sort says of itself, without a search in it. -/
def isDescription (name : String) : Bool :=
  name = "__abstractmethods__" || ((descriptions "" "" false).lookup name).isSome

/-- What is found in a sort of record, given its name. -/
def entries (sort : String) : List (String × Attribute) := [
  ("__dataclass_params__", .fixed (.other "_DataclassParams"
    ("_DataclassParams(init=True,repr=True,eq=True,order=False,unsafe_hash=False," ++
      "frozen=False)"))),
  ("__weakref__", .replaceable
    (.other "getset_descriptor" ("<attribute '__weakref__' of '" ++ sort ++ "' objects>")))]

/-- The attribute under a reserved name, for a sort of record that has a given name, is shown in a
given way, and in which something was looked up before or not. -/
def find? (sort shown : String) (searched : Bool) (name : String) : Option Attribute :=
  if name ∈ operators then
    some (.replaceable
      (.other "wrapper_descriptor" ("<slot wrapper '" ++ name ++ "' of 'object' objects>")))
  else if name ∈ methods then
    some (.replaceable
      (.other "method_descriptor" ("<method '" ++ name ++ "' of 'object' objects>")))
  else if name ∈ ownOperators then
    some (.replaceable
      (.other "method-wrapper" ("<method-wrapper '" ++ name ++ "' of type object>")))
  else if name ∈ ownMethods then
    some (.replaceable
      (.other "builtin_function_or_method" ("<built-in method " ++ name ++ " of type object>")))
  else ((entries sort).lookup name).or ((descriptions sort shown searched).lookup name)

end Attribute

end GraphQuery
