import GraphQuery.Settings.Basic
import GraphQuery.Workspace.Build

/-!
# Access to stores

A query reaches a store only after everything that can be known to be wrong with it has been looked
at: a path must be finalized, be a query and follow only morphisms that were saved; a morphism must
get a name that may be given, have a body that is a query, and follow only morphisms that were
saved. A morphism counts as saved once the answer to its statement was read.
-/

namespace GraphQuery

open Work

namespace Action

/-- Fails if a path follows a morphism that was not saved. -/
def checkFollowed (p : Path) : Action Unit := do
  if let some name := (← get).unsaved? p then throw (.unsaved (.text name))

/-- Hands a query to a store and reads the answer. What counts as a query is up to the transport. -/
def execute (id : StoreId) (query : Value) : Action ResultSet := do
  let store ← getStore id
  note ⟨.debug, "Executing query: " ++ (← inText query)⟩
  let x := store.transport.send query ((← get).lacking query "encode")
  setStore id { store with transport := x.after, given := store.given ++ [query] }
  x.log.forM note
  ofResult (ResultSet.decode (← ofResult x.outcome))

/-- Executes a path. -/
def find (id : StoreId) (path : PathId) : Action ResultSet := do
  let p ← getPath path
  if !p.isFinalized then
    throw (.notFinalized
      ("apply all(), get_limit() or another terminal operation to " ++ p.display))
  let query ← ofResult p.compile
  checkFollowed p
  execute id (.text query)

/-- Stores a morphism under its own name. -/
def save (id : StoreId) (path : PathId) : Action Unit := do
  let label ← expectLabel path "save_statement"
  let statement ← statementAs path label (.text label.name)
  checkFollowed (← getPath path)
  discard (execute id (.text statement))
  markSaved path
  note ⟨.debug, "Saved morphism " ++ Text.display label.name⟩

/-- Stores a morphism under another name, which does not count as saving it. -/
def saveAs (id : StoreId) (path : PathId) (name : Value) : Action Unit := do
  let label ← expectLabel path "save_statement_as"
  let statement ← statementAs path label name
  checkFollowed (← getPath path)
  discard (execute id (.text statement))
  note ⟨.debug, "Saved morphism " ++ Text.display label.name ++ " as " ++ (← display name)⟩

/-- Closes a store. -/
def closeStore (id : StoreId) : Action Unit := do
  let store ← getStore id
  setStore id { store with transport := store.transport.close }

/-- Sends a query over a link. -/
def sendOver (id : LinkId) (query : Value) : Action (List UInt8) := do
  let link ← getLink id
  let x := link.sendValue query ((← get).lacking query "encode")
  setLink id x.after
  x.log.forM note
  ofResult x.outcome

/-- Closes a link. -/
def closeLink (id : LinkId) : Action Unit := do setLink id (← getLink id).close

/-- Does some work and closes after it, even if the work fails. -/
def closingAfter {α : Type} (work : Action α) (close : Action Unit) : Action α := do
  let outcome ← ExceptT.lift work.run
  close
  ofResult outcome

/-- Connects to a store. -/
def connect (endpoint : Endpoint) (route : Route) : Action StoreId := do
  newStore (← ofResult (Store.connect endpoint route))

end Action

end GraphQuery
