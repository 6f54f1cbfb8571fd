import GraphQuery.Identifier
import GraphQuery.Transport.Basic
import GraphQuery.Value

/-!
# Workspaces

A workspace holds all paths, stores and links that were made, and what was logged. An action works
on it and gives a result or an error; what it has done to the workspace before an error stays done.
-/

namespace GraphQuery

/-! ## Work that may fail -/

/-- Work on a state that may fail. -/
abbrev Work (σ : Type) := ExceptT Error (StateM σ)

namespace Work

variable {σ α : Type}

/-- Goes on with a result, or fails with an error. -/
def ofResult : Except Error α → Work σ α
  | .ok a => pure a
  | .error e => throw e

/-- Goes on with what is there, or fails. -/
def ofOption (e : Error) : Option α → Work σ α
  | some a => pure a
  | none => throw e

/-- Goes on unless there is a fault. -/
def expectNone (fault : Option Fault) : Work σ Unit := fault.forM fun f ↦ throw (.fault f)

/-- Fails if a call is not given what it takes. -/
def expectArguments (s : Signature) (args : List Value) : Work σ Unit :=
  expectNone (s.fault? args.length [])

end Work

open Work

/-! ## Workspaces -/

/-- All objects that were made, how many targets for rows there are, and the log, oldest first. -/
structure Workspace where
  paths : Array Path
  stores : Array Store
  links : Array Link
  targets : Nat
  log : List LogEntry

/-- Work on a workspace. -/
abbrev Action := Work Workspace

namespace Value

/-- Bytes as messages show them: like a text, with the bytes beyond ASCII escaped. -/
def displayBytes (bs : List UInt8) : String :=
  let cs := bs.map fun b ↦ Char.ofNat b.toNat
  let mark := Text.displayMark cs
  String.ofList ('b' :: mark :: (cs.flatMap fun c ↦
    if c.toNat < 0x7f then Text.displayChar mark c else Text.numericEscape c) ++ [mark])

/-- A value as messages show it, given how a path is shown. A record that cannot be shown has no
text of its own. -/
def display (shown : PathId → String) : Value → String
  | plain p => p.display
  | bytes bs => displayBytes bs
  | selector s => s.display
  | path id => shown id
  | store _ => "<Graph>"
  | link _ => "<HttpTransport>"
  | row r => r.display
  | results rs => rs.display
  | target _ (.schema s) => s.display
  | target _ .row => "<class 'dict'>"
  | target _ (.failing _) => "<function>"
  | record _ r => r.display.toOption.getD ""
  | list items => "[" ++ ", ".intercalate (items.map (display shown)) ++ "]"
  | tuple items => Text.displayTuple (items.map (display shown))
  | foundBy query => "FromQuery(query=" ++ display shown query ++ ")"

mutual

/-- What keeps a value from being shown: the first thing in it that cannot be, which is a record or
an integer with too many digits. -/
def displayFault? : Value → Option Fault
  | plain p => if p.isOverlong then some .overlong else Option.none
  | record _ r =>
    match r.display with
    | .ok _ => Option.none
    | .error f => some f
  | list items | tuple items => firstDisplayFault? items
  | foundBy query => displayFault? query
  | _ => Option.none

/-- What keeps values from being shown one by one. -/
def firstDisplayFault? : List Value → Option Fault
  | [] => Option.none
  | v :: vs => (displayFault? v).or (firstDisplayFault? vs)

end

/-- What keeps a value from being put into a composed text. -/
def inTextFault? : Value → Option Fault
  | record _ r =>
    match r.inText with
    | .ok _ => Option.none
    | .error f => some f
  | v => v.displayFault?

/-- The name of the sort of a value, given what a path is called. -/
def typeName (title : PathId → String) : Value → String
  | plain p => p.typeName
  | bytes _ => "bytes"
  | selector s => s.typeName
  | path id => title id
  | store _ => "Graph"
  | link _ => "HttpTransport"
  | row _ => "dict"
  | results _ => "GraphNodes"
  | target _ (.failing _) => "function"
  | target _ _ => "type"
  | record _ r => r.name
  | list _ => "list"
  | tuple _ => "tuple"
  | foundBy _ => "FromQuery"

/-- The error of looking for an operation that a value does not have, given what a path is called.
The value may have something else under that name, which then is called in vain, and so is a text
that stands for looking. -/
def lacking (title : PathId → String) (v : Value) (operation : String) : Error :=
  if v.hasTextOf ["__getattribute__"] then .notCallable "str"
  else match v, v.attributes.lookup operation with
  | _, some a => .notCallable (a.typeName title)
  | target _ (.schema s), Option.none => .noTypeAttribute s.name operation
  | target _ .row, Option.none => .noTypeAttribute "dict" operation
  | v, Option.none =>
    if v.hasTextOf ["__getattr__"] then .notCallable "str"
    else .noAttribute (v.typeName title) operation

end Value

namespace Workspace

/-- A workspace without anything in it. -/
def empty : Workspace := ⟨#[], #[], #[], 0, []⟩

/-- A path as messages show it. -/
def displayPath (w : Workspace) (id : PathId) : String := (w.paths[id]?.map Path.display).getD ""

/-- A value as messages show it. -/
def display (w : Workspace) (v : Value) : String := v.display w.displayPath

/-- A value inside a composed text, where a text stands for itself. -/
def inText (w : Workspace) : Value → String
  | .plain p => p.inText
  | v => w.display v

/-- What a path is called. -/
def pathTitle (w : Workspace) (id : PathId) : String :=
  (w.paths[id]?.map fun p ↦ p.traversal.root.title).getD ""

/-- The name of the sort of a value. -/
def typeName (w : Workspace) (v : Value) : String := v.typeName w.pathTitle

/-- A value as messages show it when it is called. Something that has a qualified name is shown by
it. -/
def callee (w : Workspace) : Value → String
  | .target _ (.schema s) => s.qualifiedName ++ "()"
  | .target _ .row => "dict()"
  | .record i r => r.calleeName?.getD (w.inText (.record i r))
  | v => w.inText v

/-- What keeps a value from being shown when it is called. -/
def calleeFault? : Value → Option Fault
  | .record i r =>
    if r.isMute then some .textCalled
    else if r.calleeName?.isSome then none
    else if r.hasTextOf ["__getattr__"] then some .textCalled
    else (Value.record i r).inTextFault?
  | v => v.inTextFault?

/-- What a value makes of a row when it is called with the columns. -/
def construct (w : Workspace) : Value → Row → Except Fault Value
  | .target id t, row => (t.construct row).map (.ofInstance id)
  | v, _ =>
    .error (if v.hasTextOf ["__call__"] then .textCalled
      else ⟨.type, (Error.notCallable (w.typeName v)).message⟩)

/-- The error of looking for an operation that a value does not have. -/
def lacking (w : Workspace) (v : Value) (operation : String) : Error :=
  v.lacking w.pathTitle operation

/-- The name of the first morphism that a path follows and that was not saved. -/
def unsaved? (w : Workspace) (p : Path) : Option String :=
  p.followed.findSome? fun i ↦
    (w.paths[i]?.bind Path.label).bind fun l ↦ if l.saved then none else some l.name

end Workspace

namespace Action

/-- Adds an entry to the log. -/
def note (entry : LogEntry) : Action Unit := modify fun w ↦ { w with log := w.log ++ [entry] }

/-- A path by its identity. -/
def getPath (id : PathId) : Action Path := do ofOption .noObject (← get).paths[id]?

/-- Puts a path in the place of another. -/
def setPath (id : PathId) (p : Path) : Action Unit :=
  modify fun w ↦ { w with paths := w.paths.setIfInBounds id p }

/-- Adds a path. -/
def newPath (p : Path) : Action PathId := do
  let w ← get
  set { w with paths := w.paths.push p }
  return w.paths.size

/-- A store by its identity. -/
def getStore (id : StoreId) : Action Store := do ofOption .noObject (← get).stores[id]?

/-- Puts a store in the place of another. -/
def setStore (id : StoreId) (s : Store) : Action Unit :=
  modify fun w ↦ { w with stores := w.stores.setIfInBounds id s }

/-- Adds a store. -/
def newStore (s : Store) : Action StoreId := do
  let w ← get
  set { w with stores := w.stores.push s }
  return w.stores.size

/-- A link by its identity. -/
def getLink (id : LinkId) : Action Link := do ofOption .noObject (← get).links[id]?

/-- Puts a link in the place of another. -/
def setLink (id : LinkId) (l : Link) : Action Unit :=
  modify fun w ↦ { w with links := w.links.setIfInBounds id l }

/-- Adds a link. -/
def newLink (l : Link) : Action LinkId := do
  let w ← get
  set { w with links := w.links.push l }
  return w.links.size

/-- The identity of a target for rows that was not there before. -/
def newTarget : Action TargetId := do
  let w ← get
  set { w with targets := w.targets + 1 }
  return w.targets

/-- A value as messages show it. -/
def display (v : Value) : Action String := do
  expectNone v.displayFault?
  return (← get).display v

/-- A value inside brackets after a sort of objects. Sorts of objects are shown by name there. -/
def displaySort (v : Value) : Action String := do
  match v with
  | .target _ (.schema s) => return s.qualifiedName
  | .target _ .row => return "dict"
  | v => display v

/-- A value inside a composed text. -/
def inText (v : Value) : Action String := do
  expectNone v.inTextFault?
  return (← get).inText v

/-- Fails because a value has no such operation. -/
def lacks {α : Type} (v : Value) (operation : String) : Action α := do
  throw ((← get).lacking v operation)

end Action

end GraphQuery
