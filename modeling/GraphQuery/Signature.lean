import GraphQuery.Fault

/-!
# Signatures

A signature says what a call takes: arguments that must be given, and after them arguments that may
be left out. An argument is given once, by position or by name. What is wrong with the arguments of
a call is looked for in a fixed order: at the names as they come, at the number of arguments given
by position, and at last at what is missing.
-/

namespace GraphQuery

/-- What a call takes. -/
structure Signature where
  /-- The call in messages. -/
  name : String
  /-- What the call names the object that it is made on, which then is its first argument. -/
  receiver : Option String
  /-- The arguments that must be given. -/
  required : List String
  /-- The arguments that may be left out. -/
  optional : List String

namespace Signature

/-- A list of words in running text. -/
def enumerate : List String → String
  | [] => ""
  | [a] => a
  | [a, b] => a ++ " and " ++ b
  | words => ", ".intercalate words.dropLast ++ ", and " ++ words.getLast?.getD ""

/-- The ending of a word of which there are so many. -/
def pluralEnding (count : Nat) : String := if count = 1 then "" else "s"

/-- The arguments that must be there, the receiver among them. -/
def needed (s : Signature) : List String := s.receiver.toList ++ s.required

/-- All arguments in order. -/
def parameters (s : Signature) : List String := s.needed ++ s.optional

/-- What is wrong with an argument given by name, after so many given by position. -/
def nameFault? (s : Signature) (given : Nat) (name : String) : Option String :=
  if name ∈ s.parameters.take given then some ("got multiple values for argument '" ++ name ++ "'")
  else if name ∈ s.parameters then none
  else some ("got an unexpected keyword argument '" ++ name ++ "'")

/-- What is wrong with so many arguments given by position. -/
def surplusFault? (s : Signature) (given : Nat) : Option String :=
  let most := s.parameters.length
  let least := s.needed.length
  let range :=
    if least = most then toString most ++ " positional argument" ++ pluralEnding most
    else "from " ++ toString least ++ " to " ++ toString most ++ " positional arguments"
  if given ≤ most then none
  else some ("takes " ++ range ++ " but " ++ toString given ++
    (if given = 1 then " was given" else " were given"))

/-- The arguments that are given neither by position nor by name. -/
def missing (s : Signature) (given : Nat) (names : List String) : List String :=
  (s.needed.drop given).filter (· ∉ names)

/-- What is wrong with missing arguments. -/
def missingFault? (s : Signature) (given : Nat) (names : List String) : Option String :=
  match s.missing given names with
  | [] => none
  | absent =>
    some ("missing " ++ toString absent.length ++ " required positional argument" ++
      pluralEnding absent.length ++ ": " ++ enumerate (absent.map Text.display))

/-- What is wrong with a call that is given so many arguments by position, beside the receiver, and
others by name. -/
def fault? (s : Signature) (positional : Nat) (names : List String) : Option Fault :=
  let given := s.receiver.toList.length + positional
  (((names.findSome? (s.nameFault? given)).or (s.surplusFault? given)).or
    (s.missingFault? given names)).map fun reason ↦ ⟨.type, s.name ++ "() " ++ reason⟩

/-- The arguments of a call by name. -/
def bind {α : Type} (s : Signature) (positional : List α) (named : List (String × α)) :
    Except Fault (List (String × α)) :=
  match s.fault? positional.length (named.map Prod.fst) with
  | some f => .error f
  | none => .ok ((s.required ++ s.optional).zip positional ++ named)

end Signature

end GraphQuery
