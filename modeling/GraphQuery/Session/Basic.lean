import GraphQuery.Session.Call

/-!
# Sessions

A session is a list of steps that share named registers. A step evaluates its arguments from left to
right, makes an object or calls an operation of one, and may keep what it gets in a register. Every
step is reported: its outcome, what was logged, and the state of the object it was about.
-/

namespace GraphQuery

namespace Session

/-- An argument as a session writes it. -/
inductive Argument
  /-- A value. -/
  | value (v : Value)
  /-- Something to turn rows into. -/
  | target (t : Target)
  /-- What a register holds. -/
  | register (name : String)
  /-- A selector of the predicates that a path finds. -/
  | found (path : Argument)
  /-- What calls make of a new path at vertices. -/
  | vertices (nodes : List Argument) (calls : List (String × List Argument))
  /-- What calls make of a new morphism. -/
  | morphism (name : Value) (calls : List (String × List Argument))
deriving Inhabited

/-- Objects by name, in the order in which the names were first used. -/
abbrev Registers := List (String × Value)

mutual

/-- The value of an argument. -/
def evaluate (registers : Registers) : Argument → Action Value
  | .value v => return v
  | .target t => do
    Work.expectNone t.fault?
    return .target (← Action.newTarget) t
  | .register name => Work.ofOption (.noRegister name) (registers.lookup name)
  | .found path => do
    match ← evaluate registers path with
    | .path id => return .selector (.predicates (.found (← Action.getPath id)))
    | v => return .foundBy (← callValue v "copy" [])
  | .vertices nodes calls => do
    let nodes ← evaluateAll registers nodes
    Work.expectArguments startSignature nodes
    let id ← Action.startVertices (argumentOr nodes 0 (anyOf .node))
    evaluateCalls registers (.path id) calls
  | .morphism name calls => do
    let id ← Action.startMorphism name
    evaluateCalls registers (.path id) calls

/-- The values of arguments, from left to right. -/
def evaluateAll (registers : Registers) : List Argument → Action (List Value)
  | [] => return []
  | a :: as => do
    let v ← evaluate registers a
    let vs ← evaluateAll registers as
    return v :: vs

/-- Makes calls one after the other, each on what the one before it gave. -/
def evaluateCalls (registers : Registers) (receiver : Value) :
    List (String × List Argument) → Action Value
  | [] => return receiver
  | c :: cs => do
    let next ← evaluateCall registers receiver c
    evaluateCalls registers next cs

/-- Makes a call on an object. -/
def evaluateCall (registers : Registers) (receiver : Value) : String × List Argument → Action Value
  | (name, args) => do call receiver name (← evaluateAll registers args)

end

/-- A store as a session asks for it. -/
structure StoreRequest where
  /-- Parts of the endpoint by name. -/
  options : List (String × Plain)
  /-- Settings to take the endpoint from. -/
  settings : Option (List (String × Plain))
  route : Route

namespace StoreRequest

/-- What connecting to a store takes. -/
def signature : Signature :=
  ⟨"Graph.__init__", some "self", [],
    ["host", "port", "version", "scheme", "timeout", "transport", "client"]⟩

/-- The options that settings stand for. -/
def settled : List String := ["host", "port", "version", "scheme", "timeout"]

/-- What is wrong with options beside settings. They may name neither what is connected nor the
settings, and nothing that the settings stand for. -/
def settledFault? (names : List String) : Option String :=
  ((names.find? (· ∈ ["cls", "settings"])).map fun name ↦
    "Graph.from_settings() got multiple values for argument '" ++ name ++ "'").or
  ((names.find? (· ∈ settled)).map fun name ↦
    "cayley_sdk.connection.Graph() got multiple values for keyword argument '" ++ name ++ "'")

/-- What is wrong with the options of a store. -/
def optionFault? (r : StoreRequest) : Option Fault :=
  let names := r.options.map Prod.fst
  ((if r.settings.isSome then settledFault? names else none).map (⟨.type, ·⟩)).or
    (signature.fault? 0 names)

/-- The endpoint that is asked for. -/
def endpoint (r : StoreRequest) : Except Error Endpoint := do
  let endpoint ← match r.settings with
    | some given => (Settings.read [] given).map Settings.endpoint
    | none => pure (Endpoint.ofParts r.options)
  match r.optionFault? with
  | some f => throw (.fault f)
  | none => return endpoint

end StoreRequest

/-- What a step does. -/
inductive Deed
  /-- Starts a path at vertices. -/
  | vertices (args : List Argument)
  /-- Starts a morphism. -/
  | morphism (name : Value)
  /-- Evaluates a selector. -/
  | selector (value : Argument)
  /-- Reads a reply. -/
  | decode (source : Source)
  /-- Makes a result set. -/
  | rows (rows : List Row)
  /-- Connects to a store. -/
  | store (request : StoreRequest)
  /-- Makes a link. -/
  | link (read : Reader) (address : Plain) (behaviour : Behaviour) (owned : Bool)
  /-- Calls an operation of the object in a register. -/
  | call (on : String) (name : String) (args : List Argument)

/-- A step of a session. -/
structure Step where
  deed : Deed
  /-- The register that keeps what the step gets. -/
  into : Option String

/-- Registers and the workspace that their objects live in. -/
structure State where
  registers : Registers
  workspace : Workspace

/-- What a step gets. -/
inductive Gain
  /-- A new object. -/
  | created (v : Value)
  /-- A selector. -/
  | selected (v : Value)
  /-- The result of a call on an object. -/
  | returned (receiver v : Value)

/-- What is kept of a gain. -/
def Gain.value : Gain → Value
  | created v | selected v | returned _ v => v

/-- Carries out what a step does. -/
def Deed.perform (registers : Registers) : Deed → Action Gain
  | vertices args => do
    let nodes ← evaluateAll registers args
    Work.expectArguments startSignature nodes
    return .created (← (Command.startVertices (argumentOr nodes 0 (anyOf .node))).perform)
  | morphism name => return .created (← (Command.startMorphism name).perform)
  | selector value => return .selected (← evaluate registers value)
  | decode source => return .returned .none (.results (← Work.ofResult (ResultSet.decode source)))
  | rows given => return .returned .none (.results ⟨given⟩)
  | store request => do
    let endpoint ← Work.ofResult request.endpoint
    return .created (← (Command.connect endpoint request.route).perform)
  | link read address behaviour owned =>
    return .created (← (Command.connectLink read address behaviour owned).perform)
  | call on name args => do
    let receiver ← evaluate registers (.register on)
    let args ← evaluateAll registers args
    return .returned receiver (← Session.call receiver name args)

/-- The register that a step is about. -/
def Step.subject? (s : Step) : Option String :=
  match s.deed with
  | .call on _ _ => some on
  | _ => s.into

/-- Carries out a step, with an empty log at its start. -/
def Step.perform (s : Step) (st : State) : Except Error Gain × State :=
  let (outcome, workspace) := (s.deed.perform st.registers).run { st.workspace with log := [] }
  match outcome, s.into with
  | .ok gain, some name => (.ok gain, ⟨setMember name gain.value st.registers, workspace⟩)
  | outcome, _ => (outcome, ⟨st.registers, workspace⟩)

end Session

end GraphQuery
