import GraphQuery.Traversal

/-!
# Paths

A path is a traversal under construction, together with the morphisms it follows. A morphism is a
path with a name and a record of whether it was saved.

Every builder call ends in `Path.push`: it refuses if the path is finalized, and otherwise replaces
the traversal by one that is a call longer and takes in the morphisms that the call brings along.
So a refused call changes nothing, and a call never shortens the list of followed morphisms.
-/

namespace GraphQuery

/-- The identity of a path among all paths of a workspace. -/
abbrev PathId := Nat

/-- What makes a path a morphism. -/
structure Label where
  /-- The name that other paths refer to. -/
  name : String
  /-- Whether the definition was sent to a store. -/
  saved : Bool
deriving DecidableEq, Repr

/-- A path. -/
structure Path where
  traversal : Traversal
  /-- The morphisms followed here or in nested paths, each once, in order of first appearance. -/
  followed : List PathId
  label : Option Label
deriving DecidableEq, Repr

/-- The predicates of an edge call. -/
inductive Predicates
  /-- They are named. -/
  | named (choice : Choice)
  /-- They are found by a path, as it was when the selector was made. -/
  | found (path : Path)
deriving DecidableEq, Repr

/-- Adds what is not there yet, in order. -/
def absorb (old new : List PathId) : List PathId :=
  new.foldl (fun acc i ↦ if i ∈ acc then acc else acc ++ [i]) old

@[simp] theorem absorb_nil (old : List PathId) : absorb old [] = old := rfl

@[simp] theorem absorb_cons (old : List PathId) (i : PathId) (new : List PathId) :
    absorb old (i :: new) = absorb (if i ∈ old then old else old ++ [i]) new := rfl

/-- What is taken in comes after what was there. -/
theorem prefix_absorb (old new : List PathId) : old <+: absorb old new := by
  induction new generalizing old with
  | nil => exact List.prefix_refl old
  | cons i new ih =>
    rw [absorb_cons]
    split
    · exact ih old
    · exact (List.prefix_append old [i]).trans (ih _)

/-- What is there already is not taken in once more. -/
theorem absorb_of_subset {old new : List PathId} (h : new ⊆ old) : absorb old new = old := by
  induction new with
  | nil => rfl
  | cons i new ih =>
    rw [absorb_cons, if_pos (h List.mem_cons_self)]
    exact ih fun k hk ↦ h (List.mem_cons_of_mem i hk)

namespace Path

/-- A path at the given vertices. -/
def vertices (nodes : Choice) : Path := ⟨.start (.vertices nodes), [], none⟩

/-- A morphism without calls, not saved. -/
def morphism (name : String) : Path := ⟨.start .fragment, [], some ⟨name, false⟩⟩

/-- Whether a terminal call was made. -/
def isFinalized (p : Path) : Bool := p.traversal.isFinalized

/-- Whether a path is a morphism that was saved. -/
def isSaved (p : Path) : Bool := p.label.any Label.saved

/-- A path as messages show it. -/
def display (p : Path) : String := p.traversal.display

/-- The query that the path stands for. -/
def compile (p : Path) : Except Error String := p.traversal.compile

/-- Makes a call, given the traversal after it and the morphisms that it brings along. -/
def push (p : Path) (next : Traversal) (brought : List PathId) : Except Error Path :=
  if p.isFinalized then .error (.finalized (.text next.lastSegment))
  else .ok { p with traversal := next, followed := absorb p.followed brought }

/-- Goes along edges. -/
def edge (p : Path) (kind : Edge) (predicates : Predicates) (second : Choice) :
    Except Error Path :=
  match predicates with
  | .named choice => p.push (p.traversal.call (.edge kind choice second)) []
  | .found inner => p.push (p.traversal.nest (.edge kind second) inner.traversal) inner.followed

/-- Makes a call with names of one axis. -/
def mark (p : Path) (kind : Mark) (names : Choice) : Except Error Path :=
  p.push (p.traversal.call (.mark kind names)) []

/-- Joins another path, which must be a query. -/
def join (p : Path) (kind : Join) (other : Path) : Except Error Path := do
  discard other.compile
  p.push (p.traversal.nest (.join kind) other.traversal) other.followed

/-- Follows the morphism `id`, which is named `name` and itself follows `others`. -/
def follow (p : Path) (direction : Direction) (id : PathId) (name : String)
    (others : List PathId) : Except Error Path :=
  p.push (p.traversal.call (.follow direction name)) (id :: others)

/-- Ends the path. -/
def finish (p : Path) (terminal : Terminal) : Except Error Path :=
  p.push (p.traversal.call (.finish terminal)) []

/-- The path after its definition was sent to a store. -/
def markSaved (p : Path) : Path := { p with label := p.label.map fun l ↦ { l with saved := true } }

/-- The statement that gives the body of a morphism called `own` to the variable `name`. -/
def statement (p : Path) (own name : String) : Except Error String :=
  match p.compile with
  | .ok body => .ok (name ++ " = " ++ body)
  | .error e => .error (.unsavable (.text own) e.message)

theorem push_of_finalized {p : Path} (h : p.isFinalized = true) (next : Traversal)
    (brought : List PathId) :
    p.push next brought = .error (.finalized (.text next.lastSegment)) := by
  simp [push, h]

theorem push_of_not_finalized {p : Path} (h : p.isFinalized = false) (next : Traversal)
    (brought : List PathId) :
    p.push next brought =
      .ok { p with traversal := next, followed := absorb p.followed brought } := by
  simp [push, h]

end Path

namespace Predicates

/-- The predicates as an argument of a call. -/
def text : Predicates → String
  | named choice => choice.text
  | found path => path.traversal.argument

/-- What keeps the nested path from being written, if anything does. -/
def failure? : Predicates → Option Error
  | named _ => none
  | found path =>
    match path.compile with
    | .ok _ => none
    | .error e => some e

/-- Predicates as messages show them. -/
def display : Predicates → String
  | named choice => choice.display .predicate
  | found path => "FromQuery(query=" ++ path.display ++ ")"

end Predicates

end GraphQuery
