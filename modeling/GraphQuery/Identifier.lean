import GraphQuery.Error

/-!
# Morphism names

A morphism is referred to without quotes, as a variable of the query language, so its name must be
an identifier and must not be a word with a meaning of its own. One line break at the end of a name
is overlooked by the first rule and not by the second.
-/

namespace GraphQuery.Identifier

/-- Whether a character may start an identifier. -/
def isStart (c : Char) : Bool := c.isAlpha || c = '_' || c = '$'

/-- Whether a character may continue an identifier. -/
def isPart (c : Char) : Bool := isStart c || c.isDigit

/-- Whether a text is an identifier. -/
def isIdentifier : List Char → Bool
  | [] => false
  | c :: cs => isStart c && cs.all isPart

/-- A text without one line break at its end. -/
def dropLineBreak (cs : List Char) : List Char :=
  if cs.getLast? = some '\n' then cs.dropLast else cs

/-- The words that would shadow the graph object or that the query language keeps for itself. -/
def reserved : List String := [
  "g", "graph",
  "break", "case", "catch", "class", "const", "continue", "debugger",
  "default", "delete", "do", "else", "export", "extends", "false",
  "finally", "for", "function", "if", "import", "in", "instanceof", "let",
  "new", "null", "return", "super", "switch", "this", "throw", "true",
  "try", "typeof", "var", "void", "while", "with", "yield",
  "undefined", "NaN", "Infinity"]

/-- Accepts a text as the name of a morphism. -/
def check (name : String) : Except Error String :=
  if !isIdentifier (dropLineBreak name.toList) then .error (.badName (Text.display name))
  else if name ∈ reserved then .error (.reservedName name)
  else .ok name

/-- Accepts plain data as the name of a morphism, which only a text can be. -/
def checkPlain : Plain → Except Error String
  | .text name => check name
  | p => .error (if p.isOverlong then .fault .overlong else .badName p.display)

end GraphQuery.Identifier
