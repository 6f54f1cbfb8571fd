import GraphQuery.Workspace.Access

/-!
# Commands

Everything that can be done to a workspace is a command, and a run is a list of commands. Each
command has its own outcome; a failing one does not end the run.
-/

namespace GraphQuery

/-- What can be asked of a path without changing anything. -/
inductive Inspection
  | compile | segments | display | isFinalized | followed
  | name | isSaved | statement | statementAs (name : Value)

/-- What can be done to a workspace. -/
inductive Command
  /-- Starts a path at vertices. -/
  | startVertices (nodes : Value)
  /-- Starts a morphism. -/
  | startMorphism (name : Value)
  /-- Makes a builder call. -/
  | build (path : PathId) (call : Build)
  /-- Copies a path. -/
  | copy (path : PathId)
  /-- Records that a morphism was saved. -/
  | markSaved (path : PathId)
  /-- Asks something of a path. -/
  | inspect (path : PathId) (inspection : Inspection)
  /-- Connects to a store. -/
  | connect (endpoint : Endpoint) (route : Route)
  /-- Executes a path. -/
  | find (store : StoreId) (path : PathId)
  /-- Executes whatever is taken as a query. -/
  | execute (store : StoreId) (query : Value)
  /-- Stores a morphism under its own name. -/
  | save (store : StoreId) (path : PathId)
  /-- Stores a morphism under another name. -/
  | saveAs (store : StoreId) (path : PathId) (name : Value)
  /-- Closes a store. -/
  | closeStore (store : StoreId)
  /-- Enters a block that closes a store when it is left, be it by a fault. -/
  | withStore (store : StoreId) (fault : Option Fault)
  /-- Makes a link. -/
  | connectLink (read : Reader) (address : Plain) (behaviour : Behaviour) (owned : Bool)
  /-- Sends a query over a link. -/
  | send (link : LinkId) (query : Value)
  /-- Closes a link. -/
  | closeLink (link : LinkId)
  /-- Enters a block that closes a link when it is left, be it by a fault. -/
  | withLink (link : LinkId) (fault : Option Fault)

namespace Inspection

/-- The name of an inspection that only a morphism answers. -/
def operation : Inspection → String
  | compile => "compile"
  | segments => "segments"
  | display => "repr"
  | isFinalized => "is_finalized"
  | followed => "followed"
  | name => "name"
  | isSaved => "is_saved"
  | statement => "save_statement"
  | statementAs _ => "save_statement_as"

/-- The answer of a path. -/
def answer (id : PathId) (i : Inspection) : Action Value := do
  let p ← Action.getPath id
  match i with
  | compile => return .text (← Work.ofResult p.compile)
  | segments => return .textTuple p.traversal.segments
  | display => return .text p.display
  | isFinalized => return .bool p.isFinalized
  | followed => return .list (p.followed.map .path)
  | name => return .text (← Action.expectLabel id i.operation).name
  | isSaved => return .bool (← Action.expectLabel id i.operation).saved
  | statement =>
    let label ← Action.expectLabel id i.operation
    return .text (← Action.statementAs id label (.text label.name))
  | statementAs target =>
    return .text (← Action.statementAs id (← Action.expectLabel id i.operation) target)

end Inspection

namespace Command

/-- A block that may be left by a fault. -/
def block : Option Fault → Action Value
  | none => return .bool true
  | some f => throw (.fault f)

/-- Carries out a command. -/
def perform : Command → Action Value
  | startVertices nodes => do return .path (← Action.startVertices nodes)
  | startMorphism name => do return .path (← Action.startMorphism name)
  | build path call => do
    Action.build path call
    return .path path
  | copy path => do return .path (← Action.copyPath path)
  | markSaved path => do
    discard (Action.expectLabel path "mark_saved")
    Action.markSaved path
    return .none
  | inspect path i => i.answer path
  | connect endpoint route => do return .store (← Action.connect endpoint route)
  | find store path => do return .results (← Action.find store path)
  | execute store query => do return .results (← Action.execute store query)
  | save store path => do
    Action.save store path
    return .none
  | saveAs store path name => do
    Action.saveAs store path name
    return .none
  | closeStore store => do
    Action.closeStore store
    return .none
  | withStore store fault => Action.closingAfter (block fault) (Action.closeStore store)
  | connectLink read address behaviour owned => do
    let link ← Work.ofResult (Link.connect read address behaviour owned)
    return .link (← Action.newLink link)
  | send link query => do
    return .bytes (← Action.sendOver link query)
  | closeLink link => do
    Action.closeLink link
    return .none
  | withLink link fault => Action.closingAfter (block fault) (Action.closeLink link)

/-- Carries out a command on a workspace. -/
def run (c : Command) (w : Workspace) : Except Error Value × Workspace := c.perform.run w

/-- Carries out commands one after the other. -/
def runAll : List Command → Workspace → List (Except Error Value) × Workspace
  | [], w => ([], w)
  | c :: cs, w =>
    let (outcome, w) := c.run w
    let (outcomes, w) := runAll cs w
    (outcome :: outcomes, w)

end Command

end GraphQuery
