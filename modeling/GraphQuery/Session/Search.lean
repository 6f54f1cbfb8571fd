import GraphQuery.Session.Contents

/-!
# Searches

A text or some bytes can be searched for a part, or bytes for a single one. Where the search begins
and ends may be given as positions, which count from the end if they are negative. The result is the
position of the part, or minus one if it is not there.
-/

namespace GraphQuery.Session

/-- The position of a part in a list. -/
def positionOf? {α : Type} [BEq α] (part : List α) : List α → Option Nat
  | [] => if part.isEmpty then some 0 else none
  | x :: xs =>
    if (x :: xs).take part.length == part then some 0 else (positionOf? part xs).map (· + 1)

/-- The position of a part in a list between two positions, or minus one. -/
def search {α : Type} [BEq α] (part items : List α) (start stop : Nat) : Int :=
  let found := if stop < start then none else positionOf? part ((items.take stop).drop start)
  found.elim (-1) fun n ↦ ((start + n : Nat) : Int)

/-- A position where a search begins or ends, given how many items there are and what is meant if
nothing is said. -/
def bound (count default : Nat) (v : Value) : Action Nat := do
  expectNoText ["__index__"] v
  match v, v.integer? with
  | .plain .none, _ => return default
  | _, some n => return (if n < 0 then n + (count : Int) else n).toNat
  | _, none =>
    throw (.fault
      ⟨.type, "slice indices must be integers or None or have an __index__ method"⟩)

/-- What is wrong with how many arguments a search is given. -/
def searchFault? (given : Nat) : Option Fault :=
  if given = 0 then some ⟨.type, "find() takes at least 1 argument (0 given)"⟩
  else if 3 < given then
    some ⟨.type, "find() takes at most 3 arguments (" ++ toString given ++ " given)"⟩
  else none

/-- The bytes to be searched for. -/
def soughtBytes (v : Value) : Action (List UInt8) := do
  match v with
  | .bytes bs => return bs
  | v =>
    expectNoText ["__index__"] v
    match v.integer? with
    | some n =>
      if 0 ≤ n && n < 256 then return [UInt8.ofNat n.toNat]
      else throw (.fault ⟨.value, "byte must be in range(0, 256)"⟩)
    | none =>
      throw (.fault ⟨.type, "argument should be integer or bytes-like object, not '" ++
        Text.clip 200 ((← get).typeName v) ++ "'"⟩)

/-- The code points to be searched for. -/
def soughtText (v : Value) : Action (List CodePoint) := do
  match v with
  | .plain (.text s) => return (CodePoints.ofString s).toList
  | .plain (.broken t) => return t.toList
  | v => throw (.fault ⟨.type, "must be str, not " ++ Text.clip 100 ((← get).typeName v)⟩)

/-- Searches a list as the arguments ask for it, given how what is sought is read. -/
def searchIn {α : Type} [BEq α] (items : List α) (sought : Value → Action (List α))
    (args : List Value) : Action Value := do
  Work.expectNone (searchFault? args.length)
  let count := items.length
  let start ← bound count 0 (args[1]?.getD .none)
  let stop ← bound count count (args[2]?.getD .none)
  let part ← sought (args[0]?.getD .none)
  return .plain (.int (search part items start (min stop count)))

/-- Searches a value, if it can be searched. -/
def findIn (v : Value) (args : List Value) : Action Value := do
  match v with
  | .plain (.text s) => searchIn (CodePoints.ofString s).toList soughtText args
  | .plain (.broken t) => searchIn t.toList soughtText args
  | .bytes bs => searchIn bs soughtBytes args
  | v => Action.lacks v "find"

end GraphQuery.Session
