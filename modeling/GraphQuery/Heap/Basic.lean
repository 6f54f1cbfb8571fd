import GraphQuery.Workspace.Basic

/-!
# Paths as they are stored

`Path` tells of a path what its calls have said. Stored is less than that: an object with a few
fields, and lists of texts and of paths that calls add to. A list is in a cell, and an object has
the place of the cell. So two objects may share a list, and then what is added to it for one of them
is there for the other one, too. A copy of an object shares all lists with it until they are cloned.

Whatever reads or writes an object or a list does so at once, and what was written before an error
stays written.
-/

namespace GraphQuery

/-- A path as it is stored, with the places of its lists. -/
structure Object where
  /-- Where the segments are, the root first. -/
  segments : Nat
  /-- Where the problems are that keep the path from being a query. -/
  problems : Nat
  /-- Where the morphisms are that are followed. -/
  follows : Nat
  finalized : Bool
  label : Option Label
deriving DecidableEq, Repr

/-- What an object is called. -/
def Object.title (x : Object) : String := if x.label.isSome then "Morphism" else "Vertex"

/-- The lists and the objects that were made, and the log, oldest first. -/
structure Heap where
  texts : Array (List String)
  paths : Array (List PathId)
  objects : Array Object
  log : List LogEntry

namespace Heap

/-- A heap without anything in it. -/
def empty : Heap := ⟨#[], #[], #[], []⟩

/-! ## Lists -/

/-- The texts in a cell. -/
def textsIn (c : Nat) : Work Heap (List String) := do Work.ofOption .noObject (← get).texts[c]?

/-- The paths in a cell. -/
def pathsIn (c : Nat) : Work Heap (List PathId) := do Work.ofOption .noObject (← get).paths[c]?

/-- Adds a text to the list in a cell. -/
def appendText (c : Nat) (s : String) : Work Heap Unit := do
  let l ← textsIn c
  modify fun h ↦ { h with texts := h.texts.setIfInBounds c (l ++ [s]) }

/-- Adds a path to the list in a cell. -/
def appendPath (c : Nat) (i : PathId) : Work Heap Unit := do
  let l ← pathsIn c
  modify fun h ↦ { h with paths := h.paths.setIfInBounds c (l ++ [i]) }

/-- A new cell with a list of texts. -/
def newTexts (l : List String) : Work Heap Nat := do
  let h ← get
  set { h with texts := h.texts.push l }
  return h.texts.size

/-- A new cell with a list of paths. -/
def newPaths (l : List PathId) : Work Heap Nat := do
  let h ← get
  set { h with paths := h.paths.push l }
  return h.paths.size

/-! ## Objects -/

/-- An object by its identity. -/
def object (o : PathId) : Work Heap Object := do Work.ofOption .noObject (← get).objects[o]?

/-- Changes fields of an object. -/
def setFields (o : PathId) (f : Object → Object) : Work Heap Unit := do
  let x ← object o
  modify fun h ↦ { h with objects := h.objects.setIfInBounds o (f x) }

/-- Adds an object. -/
def newObject (x : Object) : Work Heap PathId := do
  let h ← get
  set { h with objects := h.objects.push x }
  return h.objects.size

/-- The segments of a path. -/
def segments (o : PathId) : Work Heap (List String) := do textsIn (← object o).segments

/-- The problems of a path. -/
def problems (o : PathId) : Work Heap (List String) := do textsIn (← object o).problems

/-- The morphisms that a path follows. -/
def follows (o : PathId) : Work Heap (List PathId) := do pathsIn (← object o).follows

/-- Adds a segment to a path. -/
def addSegment (o : PathId) (s : String) : Work Heap Unit := do appendText (← object o).segments s

/-- Adds a problem to a path. -/
def addProblem (o : PathId) (s : String) : Work Heap Unit := do appendText (← object o).problems s

/-- Adds a morphism to those that a path follows. -/
def addFollowed (o : PathId) (i : PathId) : Work Heap Unit := do appendPath (← object o).follows i

/-! ## Messages -/

/-- What a path is called. -/
def title (h : Heap) (o : PathId) : String := (h.objects[o]?.map Object.title).getD ""

/-- A path as messages show it. -/
def displayPath (h : Heap) (o : PathId) : String :=
  (do
    let x ← h.objects[o]?
    let segments ← h.texts[x.segments]?
    some ("<" ++ x.title ++ " " ++ ".".intercalate segments ++ ">")).getD ""

/-- Adds an entry to the log. -/
def note (entry : LogEntry) : Work Heap Unit := modify fun h ↦ { h with log := h.log ++ [entry] }

/-- A value as messages show it. -/
def display (v : Value) : Work Heap String := do
  Work.expectNone v.displayFault?
  return v.display (← get).displayPath

/-- Fails because a value has no such operation. -/
def lacks {α : Type} (v : Value) (operation : String) : Work Heap α := do
  throw (v.lacking (← get).title operation)

end Heap

end GraphQuery
