import GraphQuery.Heap.Build
import GraphQuery.Session.Call

/-!
# Calls on stored paths

Operations of stored paths are called by name, with the same signatures as those of paths. What a
caller does with stored paths is a list of moves; each has its own outcome, and a failing one does
not end the run.
-/

namespace GraphQuery.Heap

open Session (buildOf? inspectionOf? pathSignature?)

/-- The label of a path that must be a morphism for an operation. -/
def expectLabel (o : PathId) (operation : String) : Work Heap Label := do
  let x ← object o
  Work.ofOption (.noAttribute x.title operation) x.label

/-- The statement that gives the body of a morphism to the variable that a value names. -/
def statementAs (o : PathId) (label : Label) (name : Value) : Work Heap String := do
  let name ← expectName name
  tryCatch (do return name ++ " = " ++ (← compile o)) fun e ↦
    match e with
    | .compilation _ => throw (.unsavable (.text label.name) e.message)
    | e => throw e

/-- The answer of a path. -/
def answer (o : PathId) : Inspection → Work Heap Value
  | .compile => do return .text (← compile o)
  | .segments => do return .textTuple (← segments o)
  | .display => do
    discard (object o)
    return .text ((← get).displayPath o)
  | .isFinalized => do return .bool (← object o).finalized
  | .followed => do return .list ((← follows o).map .path)
  | .name => do return .text (← expectLabel o Inspection.name.operation).name
  | .isSaved => do return .bool (← expectLabel o Inspection.isSaved.operation).saved
  | .statement => do
    let label ← expectLabel o Inspection.statement.operation
    return .text (← statementAs o label (.text label.name))
  | .statementAs target => do
    let label ← expectLabel o (Inspection.statementAs target).operation
    return .text (← statementAs o label target)

/-- Fails if a path has no such operation or the operation does not take such arguments. -/
def expectOperation (o : PathId) (name : String) (args : List Value) : Work Heap Unit := do
  let x ← object o
  if let some (family, signature) := pathSignature? name then
    if !family.admits x.label then lacks (.path o) name
    Work.expectArguments signature args

/-- Calls an operation of a path. -/
def callPath (o : PathId) (name : String) (args : List Value) : Work Heap Value := do
  expectOperation o name args
  match buildOf? name args, inspectionOf? name args, name with
  | some call, _, _ => do
    build o call
    return .path o
  | none, some i, _ => answer o i
  | none, none, "copy" => do return .path (← copy o)
  | none, none, "mark_saved" => do
    discard (expectLabel o "mark_saved")
    markSaved o
    return .none
  | none, none, _ => lacks (.path o) name

/-- What a caller does. -/
inductive Move
  /-- To start a path at vertices. -/
  | startVertices (nodes : Value)
  /-- To start a morphism. -/
  | startMorphism (name : Value)
  /-- To call an operation of a path. -/
  | call (path : PathId) (name : String) (args : List Value)

/-- What is done, as work. -/
def Move.perform : Move → Work Heap Value
  | startVertices nodes => do return .path (← Heap.startVertices nodes)
  | startMorphism name => do return .path (← Heap.startMorphism name)
  | call o name args => callPath o name args

/-- What is done to a heap. -/
def Move.run (m : Move) (h : Heap) : Except Error Value × Heap := m.perform.run h

/-- What is done to a heap one after the other. -/
def Move.runAll : List Move → Heap → List (Except Error Value) × Heap
  | [], h => ([], h)
  | m :: ms, h =>
    let (outcome, h) := m.run h
    let (outcomes, h) := runAll ms h
    (outcome :: outcomes, h)

end GraphQuery.Heap
