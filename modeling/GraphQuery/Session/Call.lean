import GraphQuery.Session.Contents
import GraphQuery.Session.Results
import GraphQuery.Session.Search
import GraphQuery.Workspace.Command

/-!
# Calls by name

A session calls an operation of an object by name. A few operations are there for every sort of
objects, though not every object is fit for them. Which others there are depends on the sort of the
object; what is not there fails before any argument is looked at. Arguments that are left out select
nothing in particular.
-/

namespace GraphQuery.Session

/-- The call along edges that an operation makes. -/
def edgeOf? : String → Option Edge
  | "out" => some .out
  | "in_" => some .into
  | "both" => some .both
  | "has" => some .has
  | "save" => some .save
  | _ => none

/-- The call with names of one axis that an operation makes. -/
def markOf? : String → Option Mark
  | "is_" => some .keep
  | "tag" => some .tag
  | "as_" => some .name
  | "back" => some .back
  | _ => none

/-- The call with another path that an operation makes. -/
def joinOf? : String → Option Join
  | "and_" | "intersect" => some .intersection
  | "or_" | "union" => some .union
  | _ => none

/-- The way in which an operation follows a morphism. -/
def directionOf? : String → Option Direction
  | "follow" => some .forward
  | "follow_r" => some .reverse
  | _ => none

/-- The terminal call that an operation makes. -/
def terminalOf? (name : String) : Option Terminal :=
  [.all, .array, .value, .tagArray, .tagValue].find? fun t ↦ Terminal.operation t = name

/-- The builder call that an operation makes. -/
def buildOf? (name : String) (args : List Value) : Option Build :=
  (edgeOf? name).map (fun e ↦
    .edge e (argumentOr args 0 anyPredicate) (argumentOr args 1 (anyOf e.secondAxis))) <|>
  (markOf? name).map (fun m ↦ .mark m (argumentOr args 0 (anyOf m.axis))) <|>
  (joinOf? name).map (fun j ↦ .join j (argument args 0)) <|>
  (directionOf? name).map (fun d ↦ .follow d (argument args 0)) <|>
  (terminalOf? name).map .finish <|>
  if name = "get_limit" then some (.limit (argument args 0)) else none

/-- What an operation asks of a path. -/
def inspectionOf? (name : String) (args : List Value) : Option Inspection :=
  match name with
  | "compile" => some .compile
  | "segments" => some .segments
  | "is_finalized" => some .isFinalized
  | "followed" => some .followed
  | "name" => some .name
  | "is_saved" => some .isSaved
  | "save_statement" => some .statement
  | "save_statement_as" => some (.statementAs (argument args 0))
  | _ => none

/-- Fails if a path has no such operation or the operation does not take such arguments. -/
def expectPathOperation (id : PathId) (name : String) (args : List Value) : Action Unit := do
  let p ← Action.getPath id
  if let some (family, signature) := pathSignature? name then
    if !family.admits p.label then Action.lacks (.path id) name
    Work.expectArguments signature args

/-- Calls an operation of a path. -/
def callPath (id : PathId) (name : String) (args : List Value) : Action Value := do
  expectPathOperation id name args
  match buildOf? name args, inspectionOf? name args, name with
  | some call, _, _ => (Command.build id call).perform
  | none, some i, _ => (Command.inspect id i).perform
  | none, none, "copy" => (Command.copy id).perform
  | none, none, "mark_saved" => (Command.markSaved id).perform
  | none, none, _ => Action.lacks (.path id) name

/-- Calls an operation of a store. -/
def callStore (id : StoreId) (name : String) (args : List Value) : Action Value := do
  checkArguments (storeSignature? name) args
  match name, argument args 0 with
  | "url", _ => return .text (← Action.getStore id).address
  | "find", .path p => (Command.find id p).perform
  | "find", v => Action.lacks v "is_finalized"
  | "exec", query => (Command.execute id query).perform
  | "save", .path p => (Command.save id p).perform
  | "save", v => Action.lacks v "save_statement"
  | "save_as", .path p => (Command.saveAs id p (argument args 1)).perform
  | "save_as", v => Action.lacks v "save_statement_as"
  | "close", _ => (Command.closeStore id).perform
  | _, _ => Action.lacks (.store id) name

/-- Calls an operation of a link. -/
def callLink (id : LinkId) (name : String) (args : List Value) : Action Value := do
  checkArguments (linkSignature? name) args
  match name with
  | "url" => return .text (← Action.getLink id).url.text
  | "send" => (Command.send id (argument args 0)).perform
  | "close" => (Command.closeLink id).perform
  | _ => Action.lacks (.link id) name

/-- The operations that are properties. -/
def properties : List String := ["segments", "name", "url"]

/-- Copies a value that is no path. A row may also be copied by what makes rows. -/
def copyOf (v : Value) (args : List Value) : Action Value := do
  let refuse (reason : String) : Action Value := throw (.fault ⟨.type, reason⟩)
  let copied (r : Value) (args : List Value) : Action Value := do
    if args.isEmpty then return r
    else refuse ((← get).typeName r ++ ".copy() takes no arguments (" ++ toString args.length ++
      " given)")
  match v, args with
  | .target _ .row, [] => refuse "unbound method dict.copy() needs an argument"
  | .target _ .row, .row r :: args => copied (.row r) args
  | .target _ .row, u :: _ =>
    refuse ("descriptor 'copy' for 'dict' objects doesn't apply to a '" ++
      Text.clip 100 ((← get).typeName u) ++ "' object")
  | v, args => if v.isContainer then copied v args else Action.lacks v "copy"

/-- Calls an operation of a value that is no object of the library. -/
def callValue (v : Value) (name : String) (args : List Value) : Action Value := do
  if name = "copy" then copyOf v args
  else if name = "find" then findIn v args
  else match v.attributes.lookup name with
    | some a => if name ∈ properties then return a else Action.lacks v name
    | none => Action.lacks v name

/-- Displays a value. -/
def callDisplay : Value → Action Value
  | .path id => (Command.inspect id .display).perform
  | v => do return .text (← Action.display v)

/-- Enters a block that closes an object when it is left, by a fault if there is an argument. -/
def callBlock (v : Value) (args : List Value) : Action Value := do
  let w ← get
  let fault := args.head?.map fun a ↦ Fault.mk .runtime (w.inText a)
  match v with
  | .store id => (Command.withStore id fault).perform
  | .link id => (Command.withLink id fault).perform
  | v =>
    if !v.hasTextOf ["__enter__"] then throw (.unclosable (w.typeName v))
    else if !v.hasTextOf ["__exit__"] then throw (.unleavable (w.typeName v))
    else throw (.fault .textCalled)

/-- The call of an operation that is there for every sort of objects. -/
def callAny? (v : Value) (name : String) (args : List Value) : Option (Action Value) :=
  let first : Action Value := Work.ofOption (.outOfRange .list) args[0]?
  match name with
  | "repr" => some (callDisplay v)
  | "len" => some (countOf v)
  | "list" => some (itemsOf v)
  | "item" => some (do itemOf v (← first))
  | "eq" => some (do return .bool (← areEqual v (← first)))
  | "with" => some (callBlock v args)
  | _ => none

/-- Calls an operation of an object. -/
def call (receiver : Value) (name : String) (args : List Value) : Action Value := do
  match callAny? receiver name args, receiver with
  | some action, _ => action
  | none, .path id => callPath id name args
  | none, .store id => callStore id name args
  | none, .link id => callLink id name args
  | none, .results rs => callResults rs name args
  | none, v => callValue v name args

/-- Writes arguments as a session asks for it: names, predicates or both. -/
def format (kind : String) (args : List Value) : Action String := do
  Work.expectArguments (formatSignature kind) args
  match kind with
  | "names" => Action.formatNames (argument args 0)
  | "predicates" => Action.formatPredicates (argument args 0)
  | _ => Action.formatArguments (argument args 0) (argument args 1)

end GraphQuery.Session
