import GraphQuery.Text.Display

/-!
# Choices of names

Every argument of a traversal call is drawn from one of three axes, and on its axis it is left out,
is one name or is a list of names. Only the list of names reaches the query text, so a single name
and a list of that name alone are written alike, and so are no choice and an empty list.
-/

namespace GraphQuery

/-- What the names of an argument denote. -/
inductive Axis
  | node | tag | predicate
deriving DecidableEq, Repr

/-- An axis in running text. -/
def Axis.word : Axis → String
  | node => "node"
  | tag => "tag"
  | predicate => "predicate"

/-- An axis in the name of a selector. -/
def Axis.title : Axis → String
  | node => "Node"
  | tag => "Tag"
  | predicate => "Predicate"

/-- The names chosen on an axis. -/
inductive Choice
  /-- The argument is left out. -/
  | any
  /-- Exactly one name. -/
  | one (name : String)
  /-- Several names in order, possibly none. -/
  | many (names : List String)
deriving DecidableEq, Repr

namespace Choice

/-- The chosen names in order. -/
def names : Choice → List String
  | any => []
  | one name => [name]
  | many names => names

@[simp] theorem names_any : any.names = [] := rfl
@[simp] theorem names_one (name : String) : (one name).names = [name] := rfl
@[simp] theorem names_many (ns : List String) : (many ns).names = ns := rfl

/-- A choice as an argument of a call. -/
def text : Choice → String
  | any => ""
  | one name => Text.quote name
  | many names => Text.quoteList names

/-- Only the chosen names are written. -/
theorem text_eq (c : Choice) : c.text = Text.quoteList c.names := by
  cases c <;> simp [text, names]

/-- Whether exactly one name is chosen by itself. -/
def isOne : Choice → Bool
  | one _ => true
  | _ => false

/-- A choice on an axis as messages show it. -/
def display (axis : Axis) : Choice → String
  | any => "Any" ++ axis.title ++ "()"
  | one name => axis.title ++ "(name=" ++ Text.display name ++ ")"
  | many names => axis.title ++ "s(names=" ++ Text.displayTuple (names.map Text.display) ++ ")"

end Choice

/-- Two arguments of a call: the first is held by `null` where only the second is there. -/
def arguments (first second : String) : String :=
  if second = "" then first
  else if first = "" then "null, " ++ second
  else first ++ ", " ++ second

end GraphQuery
