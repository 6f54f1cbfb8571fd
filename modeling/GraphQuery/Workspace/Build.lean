import GraphQuery.Workspace.Basic

/-!
# Building paths

A builder call first looks at the sorts of its arguments, the second argument before the predicates,
then warns of what is odd about them, and at last extends the path. The path is written back only if
all of this succeeds, so a failing call leaves every path as it was.
-/

namespace GraphQuery

open Work

/-- A call that extends a path, with its arguments as they were passed. -/
inductive Build
  | edge (kind : Edge) (predicates second : Value)
  | mark (kind : Mark) (names : Value)
  | join (kind : Join) (other : Value)
  | follow (direction : Direction) (morphism : Value)
  | finish (terminal : Terminal)
  | limit (count : Value)

/-- The name of a terminal call among the operations of a path. -/
def Terminal.operation : Terminal → String
  | all => "all"
  | limit _ => "get_limit"
  | array => "to_array"
  | value => "to_value"
  | tagArray => "tag_array"
  | tagValue => "tag_value"

namespace Action

/-- The names that a value must select on an axis. -/
def expectChoice (axis : Axis) (v : Value) : Action Choice := do
  ofOption (.notSelector axis (← display v)) (v.choice? axis)

/-- The predicates that a value must select. Those that are found by something must be found by a
path, as nothing else can be compiled: an object with a method `compile` of its own is no value. -/
def expectPredicates (v : Value) : Action Predicates := do
  match v with
  | .foundBy query => lacks query "compile"
  | v => ofOption (.notSelector .predicate (← display v)) v.predicates?

/-- The path that a value must be. -/
def expectPath (v : Value) : Action Path := do
  match v with
  | .path id => getPath id
  | v => throw (.notPath (← display v))

/-- The morphism that a value must be, with its identity and its label. -/
def expectMorphism (v : Value) : Action (PathId × Label × Path) := do
  match v with
  | .path id =>
    let p ← getPath id
    match p.label with
    | some label => return (id, label, p)
    | none => throw (.notMorphism (← display v))
  | v => throw (.notMorphism (← display v))

/-- The limit that a value must be. Whatever it is, it is written out: as a limit, or as what it is
instead. -/
def expectLimit (v : Value) : Action Nat := do
  match v with
  | .plain (.int n) =>
    let shown ← display v
    if 0 ≤ n then return n.toNat else throw (.badLimit shown)
  | v => throw (.badLimit (← display v))

/-- The morphism name that a value must be. -/
def expectName (v : Value) : Action String := do
  match v with
  | .plain p => ofResult (Identifier.checkPlain p)
  | v => throw (.badName (← display v))

/-- Warns of predicates that are found by a path that is no query. -/
def warnOfPredicates (p : Predicates) : Action Unit := do
  if let some e := p.failure? then
    note ⟨.warning, "Nested query failed to compile, emitting undefined: " ++ e.message⟩

/-- Warns of a morphism that was not saved. -/
def warnOfMorphism (label : Label) : Action Unit := do
  if !label.saved then
    note ⟨.warning, "Following morphism " ++ Text.display label.name ++
      " which has not been saved yet"⟩

/-- Only a path that starts at vertices can be ended. -/
def expectEnding (p : Path) (operation : String) : Action Unit := do
  if p.label.isSome then throw (.noAttribute p.traversal.root.title operation)

/-- The path after a call. -/
def extend (p : Path) : Build → Action Path
  | .edge kind predicates second => do
    let second ← expectChoice kind.secondAxis second
    let predicates ← expectPredicates predicates
    warnOfPredicates predicates
    ofResult (p.edge kind predicates second)
  | .mark kind names => do
    let names ← expectChoice kind.axis names
    ofResult (p.mark kind names)
  | .join kind other => do
    let other ← expectPath other
    ofResult (p.join kind other)
  | .follow direction morphism => do
    let (id, label, q) ← expectMorphism morphism
    warnOfMorphism label
    ofResult (p.follow direction id label.name q.followed)
  | .finish terminal => do
    expectEnding p terminal.operation
    ofResult (p.finish terminal)
  | .limit count => do
    expectEnding p (Terminal.limit 0).operation
    let n ← expectLimit count
    ofResult (p.finish (.limit n))

/-- Makes a call on a path. -/
def build (id : PathId) (call : Build) : Action Unit := do
  let p ← getPath id
  setPath id (← extend p call)

/-- Starts a path at the vertices that a value selects. -/
def startVertices (nodes : Value) : Action PathId := do
  newPath (.vertices (← expectChoice .node nodes))

/-- Starts a morphism. -/
def startMorphism (name : Value) : Action PathId := do
  newPath (.morphism (← expectName name))

/-- Makes a path that is like another one and changes on its own from now on. -/
def copyPath (id : PathId) : Action PathId := do newPath (← getPath id)

/-- The label of a path that must be a morphism for an operation. -/
def expectLabel (id : PathId) (operation : String) : Action Label := do
  let p ← getPath id
  ofOption (.noAttribute p.traversal.root.title operation) p.label

/-- Records that the definition of a morphism was sent to a store. -/
def markSaved (id : PathId) : Action Unit := do setPath id (← getPath id).markSaved

/-- The statement that gives the body of a morphism to the variable that a value names. -/
def statementAs (id : PathId) (label : Label) (name : Value) : Action String := do
  let name ← expectName name
  ofResult ((← getPath id).statement label.name name)

/-- The names that a value selects on either of the axes of nodes and tags, as an argument. -/
def formatNames : Value → Action String
  | .selector (.nodes c) | .selector (.tags c) => return c.text
  | v => do throw (.notNames (← display v))

/-- The predicates that a value selects, as an argument. -/
def formatPredicates (v : Value) : Action String := do
  let p ← expectPredicates v
  warnOfPredicates p
  return p.text

/-- The predicates of one value and the names of another, as arguments. -/
def formatArguments (predicates second : Value) : Action String := do
  let first ← formatPredicates predicates
  return arguments first (← formatNames second)

end Action

end GraphQuery
