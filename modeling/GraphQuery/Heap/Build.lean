import GraphQuery.Heap.Basic
import GraphQuery.Workspace.Build

/-!
# Building paths step by step

A builder call looks at its arguments, writes what is nested in them, refuses if the path is
finalized, and adds its segment; only then it takes in the morphisms that come along, puts down
problems, or ends the path. Each of these steps is done by itself. A call that failed after its
segment was added would leave the segment there.

A selector of predicates that a path finds has a private copy of that path, and stands for
`Value.foundBy` of the copy.
-/

namespace GraphQuery.Heap

/-! ## Steps -/

/-- Adds a segment to a path unless the path is finalized. -/
def add (o : PathId) (segment : String) : Work Heap Unit := do
  if (← object o).finalized then throw (.finalized (.text segment))
  addSegment o segment

/-- Puts a morphism down as followed if it is not yet. -/
def takeIn (o i : PathId) : Work Heap Unit := do
  if i ∉ (← follows o) then addFollowed o i

/-- Takes in the morphisms that another path follows, from a position on. The list is looked up in
each round, as it may be the one that is added to; a list without an end in sight is an error. -/
def absorbFrom (o other : PathId) (position : Nat) : Nat → Work Heap Unit
  | 0 => throw .noObject
  | rounds + 1 => do
    if let some i := (← follows other)[position]? then
      takeIn o i
      absorbFrom o other (position + 1) rounds

/-- Takes in all morphisms that another path follows. The last round finds that the list is over. -/
def absorb (o other : PathId) : Work Heap Unit := do
  absorbFrom o other 0 ((← follows other).length + 1)

/-- The query that a path stands for. -/
def compile (o : PathId) : Work Heap String := do
  let problems ← problems o
  if problems ≠ [] then throw (.compilation ("; ".intercalate problems))
  return ".".intercalate (← segments o)

/-! ## Arguments -/

/-- The names that a value must select on an axis. -/
def expectChoice (axis : Axis) (v : Value) : Work Heap Choice := do
  Work.ofOption (.notSelector axis (← display v)) (v.choice? axis)

/-- The private path inside of a selector. -/
def nested? (h : Heap) : Value → Option PathId
  | .foundBy (.path n) => if n < h.objects.size then some n else none
  | _ => none

/-- Fails unless a value is a selector of predicates. -/
def expectPredicates (v : Value) : Work Heap Unit := do
  match v with
  | .selector (.predicates _) | .foundBy _ => pure ()
  | v => throw (.notSelector .predicate (← display v))

/-- A selector of predicates as an argument of a call. What is nested is compiled, and only a path
can be: an object with a method `compile` of its own, which need not have followed anything either,
is no value. -/
def formatPredicates (v : Value) : Work Heap String := do
  match (← get).nested? v, v with
  | some n, _ =>
    tryCatch (compile n) fun e ↦
      match e with
      | .compilation _ => do
        note ⟨.warning, "Nested query failed to compile, emitting undefined: " ++ e.message⟩
        return "undefined"
      | e => throw e
  | none, .selector (.predicates (.named choice)) => return choice.text
  | none, .foundBy query => lacks query "compile"
  | none, _ => throw .noObject

/-- The path that a value must be. -/
def expectPath (v : Value) : Work Heap PathId := do
  match v with
  | .path n =>
    discard (object n)
    return n
  | v => throw (.notPath (← display v))

/-- The morphism that a value must be, with its label. -/
def expectMorphism (v : Value) : Work Heap (PathId × Label) := do
  match v with
  | .path n =>
    match (← object n).label with
    | some label => return (n, label)
    | none => throw (.notMorphism (← display v))
  | v => throw (.notMorphism (← display v))

/-- The limit that a value must be. -/
def expectLimit (v : Value) : Work Heap Nat := do
  match v with
  | .plain (.int n) =>
    let shown ← display v
    if 0 ≤ n then return n.toNat else throw (.badLimit shown)
  | v => throw (.badLimit (← display v))

/-- The morphism name that a value must be. -/
def expectName (v : Value) : Work Heap String := do
  match v with
  | .plain p => Work.ofResult (Identifier.checkPlain p)
  | v => throw (.badName (← display v))

/-- Only a path that starts at vertices can be ended. -/
def expectEnding (o : PathId) (operation : String) : Work Heap Unit := do
  let x ← object o
  if x.label.isSome then throw (.noAttribute x.title operation)

/-- Warns of a morphism that was not saved. -/
def warnOfMorphism (label : Label) : Work Heap Unit := do
  if !label.saved then
    note ⟨.warning, "Following morphism " ++ Text.display label.name ++
      " which has not been saved yet"⟩

/-! ## Calls -/

/-- Goes along edges. -/
def edge (o : PathId) (word : String) (predicates : Value) (second : Choice) :
    Work Heap Unit := do
  expectPredicates predicates
  let first ← formatPredicates predicates
  add o (word ++ "(" ++ arguments first second.text ++ ")")
  if let some n := (← get).nested? predicates then absorb o n

/-- Whether a value selects exactly one predicate by itself. -/
def isOnePredicate : Value → Bool
  | .selector (.predicates (.named choice)) => choice.isOne
  | _ => false

/-- Puts a problem down unless a value is exactly one name. -/
def expectOne (o : PathId) (what : String) (isOne : Bool) (v : Value) : Work Heap Unit := do
  if !isOne then
    addProblem o ("Save() needs exactly one " ++ what ++ ", got " ++ (← display v))

/-- Puts down what keeps saving along edges from being written as a query. -/
def checkSave (o : PathId) (predicates second : Value) (names : Choice) : Work Heap Unit := do
  expectOne o "predicate" (isOnePredicate predicates) predicates
  expectOne o "tag" names.isOne second

/-- Ends a path. -/
def finish (o : PathId) (segment : String) : Work Heap Unit := do
  add o segment
  setFields o fun x ↦ { x with finalized := true }

/-- Makes a call on a path. -/
def build (o : PathId) : Build → Work Heap Unit
  | .edge kind predicates second => do
    let names ← expectChoice kind.secondAxis second
    edge o kind.word predicates names
    if kind = .save then checkSave o predicates second names
  | .mark kind names => do
    let names ← expectChoice kind.axis names
    add o (kind.word ++ "(" ++ names.text ++ ")")
  | .join kind other => do
    let n ← expectPath other
    let text ← compile n
    add o (kind.word ++ "(" ++ text ++ ")")
    absorb o n
  | .follow direction morphism => do
    let (n, label) ← expectMorphism morphism
    warnOfMorphism label
    add o (direction.word ++ "(" ++ label.name ++ ")")
    takeIn o n
    absorb o n
  | .finish terminal => do
    expectEnding o terminal.operation
    finish o terminal.text
  | .limit count => do
    expectEnding o (Terminal.limit 0).operation
    let n ← expectLimit count
    finish o (Terminal.limit n).text

/-! ## New paths -/

/-- A new path with its root. -/
def newPath (root : String) (label : Option Label) : Work Heap PathId := do
  let segments ← newTexts [root]
  let problems ← newTexts []
  let follows ← newPaths []
  newObject ⟨segments, problems, follows, false, label⟩

/-- Starts a path at the vertices that a value selects. -/
def startVertices (nodes : Value) : Work Heap PathId := do
  let names ← expectChoice .node nodes
  newPath ("g.V(" ++ names.text ++ ")") none

/-- Starts a morphism. -/
def startMorphism (name : Value) : Work Heap PathId := do
  let name ← expectName name
  newPath "g.M()" (some ⟨name, false⟩)

/-- Makes a copy of an object, which first shares all lists with it, and then clones them one after
the other. -/
def copy (o : PathId) : Work Heap PathId := do
  let clone ← newObject (← object o)
  let segments ← newTexts (← segments o)
  setFields clone fun x ↦ { x with segments := segments }
  let problems ← newTexts (← problems o)
  setFields clone fun x ↦ { x with problems := problems }
  let follows ← newPaths (← follows o)
  setFields clone fun x ↦ { x with follows := follows }
  return clone

/-- Records that the definition of a morphism was sent to a store. -/
def markSaved (o : PathId) : Work Heap Unit :=
  setFields o fun x ↦ { x with label := x.label.map fun l ↦ { l with saved := true } }

end GraphQuery.Heap
