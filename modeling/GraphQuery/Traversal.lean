import GraphQuery.Error

/-!
# Traversals

A traversal is what a query says: a root and the calls after it, oldest innermost. A call may carry
a whole traversal of its own, which either finds the predicates of an edge call or is joined.

The text of a traversal is the text of its calls joined by dots. Nothing of it is stored: segments,
text, problems and the terminal state are all read off the calls.

* `Traversal.text_eq_intercalate`: the text is the segments joined by dots.
* `Traversal.problems` come from the `Save` calls of the traversal alone, never from inner ones.
-/

namespace GraphQuery

/-- How a traversal starts. -/
inductive Root
  /-- At vertices of the graph. -/
  | vertices (nodes : Choice)
  /-- Nowhere in particular, for use by other traversals. -/
  | fragment
deriving DecidableEq, Repr

/-- The calls that go along edges. -/
inductive Edge
  | out | into | both | has | save
deriving DecidableEq, Repr

/-- The calls that take names of one axis only. -/
inductive Mark
  | keep | tag | name | back
deriving DecidableEq, Repr

/-- The calls that combine two traversals. -/
inductive Join
  | intersection | union
deriving DecidableEq, Repr

/-- The ways a morphism is followed. -/
inductive Direction
  | forward | reverse
deriving DecidableEq, Repr

/-- The calls that end a traversal. -/
inductive Terminal
  | all | limit (count : Nat) | array | value | tagArray | tagValue
deriving DecidableEq, Repr

/-- A call without an inner traversal. -/
inductive Call
  | edge (kind : Edge) (predicates second : Choice)
  | mark (kind : Mark) (names : Choice)
  | follow (direction : Direction) (name : String)
  | finish (terminal : Terminal)
deriving DecidableEq, Repr

/-- A call around an inner traversal. -/
inductive NestCall
  /-- The inner traversal finds the predicates. -/
  | edge (kind : Edge) (second : Choice)
  /-- The inner traversal is joined. -/
  | join (kind : Join)
deriving DecidableEq, Repr

/-- A root followed by calls. -/
inductive Traversal
  | start (root : Root)
  | call (before : Traversal) (call : Call)
  | nest (before : Traversal) (call : NestCall) (inner : Traversal)
deriving DecidableEq, Repr

/-- Why a traversal cannot be written as a query: a `Save` call with an argument that is not exactly
one name. -/
inductive Problem
  | predicates (got : Choice)
  | foundPredicates (inner : Traversal)
  | tags (got : Choice)
deriving DecidableEq, Repr

namespace Root

/-- The segment of a root. -/
def text : Root → String
  | vertices nodes => "g.V(" ++ nodes.text ++ ")"
  | fragment => "g.M()"

/-- What a path with that root is called. -/
def title : Root → String
  | vertices _ => "Vertex"
  | fragment => "Morphism"

end Root

namespace Edge

/-- The name of the call. -/
def word : Edge → String
  | out => "Out"
  | into => "In"
  | both => "Both"
  | has => "Has"
  | save => "Save"

/-- The axis of the second argument. -/
def secondAxis : Edge → Axis
  | has => .node
  | _ => .tag

end Edge

namespace Mark

/-- The name of the call. -/
def word : Mark → String
  | keep => "Is"
  | tag => "Tag"
  | name => "As"
  | back => "Back"

/-- The axis of the argument. -/
def axis : Mark → Axis
  | keep => .node
  | _ => .tag

end Mark

/-- The name of the call. -/
def Join.word : Join → String
  | intersection => "And"
  | union => "Or"

/-- The name of the call. -/
def Direction.word : Direction → String
  | forward => "Follow"
  | reverse => "FollowR"

/-- The segment of a terminal call. -/
def Terminal.text : Terminal → String
  | all => "All()"
  | limit count => "GetLimit(" ++ toString count ++ ")"
  | array => "ToArray()"
  | value => "ToValue()"
  | tagArray => "TagArray()"
  | tagValue => "TagValue()"

namespace Call

/-- The segment of a call. -/
def text : Call → String
  | edge kind predicates second =>
    kind.word ++ "(" ++ arguments predicates.text second.text ++ ")"
  | mark kind names => kind.word ++ "(" ++ names.text ++ ")"
  | follow direction name => direction.word ++ "(" ++ name ++ ")"
  | finish terminal => terminal.text

/-- The problems of a call: `Save` needs exactly one predicate and exactly one tag. -/
def problems : Call → List Problem
  | edge .save predicates second =>
    (if predicates.isOne then [] else [.predicates predicates]) ++
      (if second.isOne then [] else [.tags second])
  | _ => []

/-- Whether a call ends a traversal. -/
def isTerminal : Call → Bool
  | finish _ => true
  | _ => false

end Call

namespace NestCall

/-- The segment of a call around an inner traversal that is written as `inner`. -/
def text (inner : String) : NestCall → String
  | edge kind second => kind.word ++ "(" ++ arguments inner second.text ++ ")"
  | join kind => kind.word ++ "(" ++ inner ++ ")"

/-- The problems of a call: found predicates are never exactly one. -/
def problems (inner : Traversal) : NestCall → List Problem
  | edge .save second =>
    .foundPredicates inner :: (if second.isOne then [] else [.tags second])
  | _ => []

end NestCall

namespace Traversal

/-- The root of a traversal. -/
def root : Traversal → Root
  | start r => r
  | call before _ => before.root
  | nest before _ _ => before.root

/-- The problems of a traversal in the order of its calls. -/
def problems : Traversal → List Problem
  | start _ => []
  | call before c => before.problems ++ c.problems
  | nest before c inner => before.problems ++ c.problems inner

/-- Whether a traversal has a problem and therefore is no query. -/
def isBroken (t : Traversal) : Bool := !t.problems.isEmpty

/-- The text of a traversal, problems or not. An inner traversal with a problem is written as
`undefined`. -/
def text : Traversal → String
  | start r => r.text
  | call before c => before.text ++ "." ++ c.text
  | nest before c inner =>
    before.text ++ "." ++ c.text (if inner.isBroken then "undefined" else inner.text)

/-- The text of a traversal as an argument of a call. -/
def argument (t : Traversal) : String := if t.isBroken then "undefined" else t.text

/-- The segments of a traversal, root first. -/
def segments : Traversal → List String
  | start r => [r.text]
  | call before c => before.segments ++ [c.text]
  | nest before c inner => before.segments ++ [c.text inner.argument]

/-- The segment of the last call, or of the root if there is no call. -/
def lastSegment : Traversal → String
  | start r => r.text
  | call _ c => c.text
  | nest _ c inner => c.text inner.argument

/-- Whether the last call is a terminal one. -/
def isFinalized : Traversal → Bool
  | call _ c => c.isTerminal
  | _ => false

/-- A traversal as messages show it. -/
def display (t : Traversal) : String := "<" ++ t.root.title ++ " " ++ t.text ++ ">"

@[simp] theorem text_start (r : Root) : (start r).text = r.text := rfl

@[simp] theorem text_call (t : Traversal) (c : Call) :
    (t.call c).text = t.text ++ "." ++ c.text := rfl

@[simp] theorem text_nest (t : Traversal) (c : NestCall) (inner : Traversal) :
    (t.nest c inner).text = t.text ++ "." ++ c.text inner.argument := rfl

@[simp] theorem problems_call (t : Traversal) (c : Call) :
    (t.call c).problems = t.problems ++ c.problems := rfl

@[simp] theorem problems_nest (t : Traversal) (c : NestCall) (inner : Traversal) :
    (t.nest c inner).problems = t.problems ++ c.problems inner := rfl

theorem segments_ne_nil (t : Traversal) : t.segments ≠ [] := by
  cases t <;> simp [segments]

/-- The last segment is the last of the segments. -/
theorem getLast?_segments (t : Traversal) : t.segments.getLast? = some t.lastSegment := by
  cases t <;> simp [segments, lastSegment]

/-- The text is the segments joined by dots. -/
theorem text_eq_intercalate (t : Traversal) : t.text = ".".intercalate t.segments := by
  induction t with
  | start r => simp [segments]
  | call before c ih => simp [segments, ih, String.intercalate_append_of_ne_nil, segments_ne_nil]
  | nest before c inner ih _ =>
    simp [segments, ih, String.intercalate_append_of_ne_nil, segments_ne_nil]

end Traversal

namespace Problem

/-- A problem as messages show it. -/
def text : Problem → String
  | predicates got => "Save() needs exactly one predicate, got " ++ got.display .predicate
  | foundPredicates t =>
    "Save() needs exactly one predicate, got FromQuery(query=" ++ t.display ++ ")"
  | tags got => "Save() needs exactly one tag, got " ++ got.display .tag

end Problem

/-- The query that a traversal stands for, if it has no problem. -/
def Traversal.compile (t : Traversal) : Except Error String :=
  if t.isBroken then .error (.compilation ("; ".intercalate (t.problems.map Problem.text)))
  else .ok t.text

end GraphQuery
