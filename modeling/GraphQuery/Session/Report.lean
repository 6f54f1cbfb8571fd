import GraphQuery.Session.Basic

/-!
# Reports of sessions

After each step a session shows what the step got, what was logged, and the state of the object the
step was about: of a path its segments and the morphisms it follows, of a store or a link what was
sent during the step. At the end it shows every register that holds a path.
-/

namespace GraphQuery.Session

/-- What a step got, as it is shown. -/
inductive Answer
  /-- A new object. -/
  | created
  /-- The very object that was called. -/
  | self
  | plain (p : Plain)
  | bytes (bs : List UInt8)
  /-- A path by its text. -/
  | path (shown : String)
  | rows (rows : List Row)
  | row (r : Row)
  | record (r : Record)
  | list (items : List Answer)
deriving Inhabited

/-- A morphism that a path follows: the first register that holds it, its name, and whether it was
saved. -/
structure Follower where
  register : Option String
  name : String
  saved : Bool

/-- What was sent. -/
inductive Traffic
  | queries (queries : List Answer)
  | requests (requests : List Request)

/-- The state of an object. -/
inductive View
  | path (title : String) (count : Nat) (last : String) (finalized : Bool)
      (followed : List Follower) (label : Option Label)
  | carrier (url : String) (closed : Bool) (sent : Option Traffic)

/-- The report of a step. -/
structure Report where
  outcome : Except Error Answer
  log : List LogEntry
  state : Option View

/-- A path at the end of a session. -/
structure FinalPath where
  segments : List String
  query : Except Error String
  followed : List Follower
  finalized : Bool

/-- A value as it is shown. -/
def Answer.ofValue (w : Workspace) : Value → Answer
  | .plain p => .plain p
  | .bytes bs => .bytes bs
  | .path id => .path (w.displayPath id)
  | .row r => .row r
  | .results rs => .rows rs.rows
  | .record _ r => .record r
  | .list items | .tuple items => .list (items.map (Answer.ofValue w))
  | v => .plain (.text (w.display v))

/-- What a step got, as it is shown. -/
def Gain.answer (w : Workspace) : Gain → Answer
  | created _ => .created
  | selected v => .plain (.text (w.display v))
  | returned (.path receiver) (.path id) =>
    if receiver = id then .self else .path (w.displayPath id)
  | returned _ v => .ofValue w v

/-- The first register that holds a given path. -/
def registerOf? (registers : Registers) (id : PathId) : Option String :=
  (registers.find? fun r ↦
    match r.2 with
    | .path i => i = id
    | _ => false).map Prod.fst

/-- The morphisms that a path follows. -/
def followers (st : State) (p : Path) : List Follower :=
  p.followed.filterMap fun id ↦
    (st.workspace.paths[id]?.bind Path.label).map fun l ↦
      ⟨registerOf? st.registers id, l.name, l.saved⟩

/-- How much a link has sent. -/
def sentOverLink (l : Link) : Nat := l.client.sent.length

/-- How much a store was sent. -/
def sentToStore (s : Store) : Nat :=
  match s.transport with
  | .recorder r => r.sent.length
  | .link l => sentOverLink l

/-- What a link has sent after a given point; nothing is known of a client of its own. -/
def linkTraffic (l : Link) (before : Nat) : Option Traffic :=
  if l.owned then none else some (.requests (l.client.sent.drop before))

/-- What a store was sent after a given point. -/
def storeTraffic (w : Workspace) (s : Store) (before : Nat) : Option Traffic :=
  match s.transport with
  | .recorder r => some (.queries ((r.sent.drop before).map (Answer.ofValue w)))
  | .link l => linkTraffic l before

/-- The state of an object after a step, given the workspace before it. -/
def viewOf (before : Workspace) (st : State) : Value → Option View
  | .path id => st.workspace.paths[id]?.map fun p ↦
    .path p.traversal.root.title p.traversal.segments.length p.traversal.lastSegment p.isFinalized
      (followers st p) p.label
  | .store id => st.workspace.stores[id]?.map fun s ↦
    .carrier s.address s.transport.isClosed
      (storeTraffic st.workspace s (before.stores[id]?.elim 0 sentToStore))
  | .link id => st.workspace.links[id]?.map fun l ↦
    .carrier l.url.text l.client.closed (linkTraffic l (before.links[id]?.elim 0 sentOverLink))
  | _ => none

/-- The report of a step, and the state after it. -/
def Step.report (s : Step) (st : State) : Report × State :=
  let (outcome, after) := s.perform st
  let subject := s.subject?.bind fun name ↦ after.registers.lookup name
  (⟨outcome.map (Gain.answer after.workspace), after.workspace.log,
    subject.bind (viewOf st.workspace after)⟩, after)

/-- The reports of steps, and the state after them. -/
def reports : List Step → State → List Report × State
  | [], st => ([], st)
  | s :: ss, st =>
    let (report, st) := s.report st
    let (rest, st) := reports ss st
    (report :: rest, st)

/-- A session without any objects. -/
def State.initial : State := ⟨[], .empty⟩

/-- A path at the end of a session. -/
def finalPath (st : State) (p : Path) : FinalPath :=
  ⟨p.traversal.segments, p.compile, followers st p, p.isFinalized⟩

/-- The paths in the registers at the end of a session. -/
def finalPaths (st : State) : List (String × FinalPath) :=
  st.registers.filterMap fun r ↦
    match r.2 with
    | .path id => st.workspace.paths[id]?.map fun p ↦ (r.1, finalPath st p)
    | _ => none

/-- Plays a session from the beginning to the end. -/
def play (steps : List Step) : List Report × List (String × FinalPath) :=
  let (rs, st) := reports steps .initial
  (rs, finalPaths st)

end GraphQuery.Session
