import GraphQuery.Path

/-!
# Selectors

A selector says which names an argument stands for, and on which axis. Two selectors are equal if
they are of one axis and one form and have the same names; any two selectors whose predicates are
found by a path are equal, whatever the paths.
-/

namespace GraphQuery

/-- A selector of one of the three axes. -/
inductive Selector
  | nodes (choice : Choice)
  | tags (choice : Choice)
  | predicates (predicates : Predicates)
deriving DecidableEq, Repr

namespace Selector

/-- The predicates of a predicate selector. -/
def predicates? : Selector → Option Predicates
  | predicates p => some p
  | _ => none

/-- The choice of a selector on a given axis of plain names. -/
def choice? (axis : Axis) (s : Selector) : Option Choice :=
  match axis, s with
  | .node, nodes choice => some choice
  | .tag, tags choice => some choice
  | .predicate, predicates (.named choice) => some choice
  | _, _ => none

/-- Whether two selectors are equal. -/
def same : Selector → Selector → Bool
  | nodes a, nodes b => a = b
  | tags a, tags b => a = b
  | predicates (.named a), predicates (.named b) => a = b
  | predicates (.found _), predicates (.found _) => true
  | _, _ => false

/-- The names of a list selector. -/
def names? : Selector → Option (List String)
  | nodes (.many names) | tags (.many names) | predicates (.named (.many names)) => some names
  | _ => none

/-- A selector as messages show it. -/
def display : Selector → String
  | nodes choice => choice.display .node
  | tags choice => choice.display .tag
  | predicates p => p.display

/-- The sort of a selector by name. -/
def typeName : Selector → String
  | nodes c => title .node c
  | tags c => title .tag c
  | predicates (.named c) => title .predicate c
  | predicates (.found _) => "FromQuery"
where
  title (axis : Axis) : Choice → String
    | .any => "Any" ++ axis.title
    | .one _ => axis.title
    | .many _ => axis.title ++ "s"

end Selector

end GraphQuery
