import GraphQuery.Proofs.Gate
import GraphQuery.Proofs.Transport.Exchange

/-!
# Links in a workspace

A link stands by itself in a workspace or behind a store; either way a caller gets at it by a
`Line`.  What a command does to the link of a line, and what it comes to if it sends something
there, is one of three steps (`Line.Step`, `Line.step_run`).  A link is never moved to another
address or given to someone else, and its client is closed by a command that closes the line, if the
client is the link's own, and by no other.
-/

namespace GraphQuery

open Work

open GraphQuery.Action

/-- A way to a link: by itself, or by the store in front of it. -/
inductive Line
  | link (id : LinkId)
  | store (id : StoreId)
deriving DecidableEq

/-- The link that a transport is. -/
def Transport.link? : Transport → Option Link
  | link l => some l
  | recorder _ => none

namespace Workspace

/-- The link of a line. -/
def line? (w : Workspace) : Line → Option Link
  | .link k => w.links[k]?
  | .store g => w.stores[g]?.bind fun s ↦ s.transport.link?

/-- The part of a workspace that has links in it. -/
def wires (w : Workspace) : Array Store × Array Link := (w.stores, w.links)

variable {w v : Workspace} {x : Line} {l l' : Link} {g : StoreId} {k : LinkId} {s : Store}

theorem line?_of_wires (h : v.wires = w.wires) (x : Line) : v.line? x = w.line? x := by
  have hstores : v.stores = w.stores := congrArg Prod.fst h
  have hlinks : v.links = w.links := congrArg Prod.snd h
  cases x with
  | link k => rw [line?, line?, hlinks]
  | store g => rw [line?, line?, hstores]

theorem exists_of_line?_store (h : w.line? (.store g) = some l) :
    ∃ s, w.stores[g]? = some s ∧ s.transport = .link l := by
  obtain ⟨s, hs, hlink⟩ := Option.bind_eq_some_iff.1 h
  refine ⟨s, hs, ?_⟩
  cases htransport : s.transport with
  | recorder r =>
      rw [htransport] at hlink
      cases hlink
  | link l' =>
      rw [htransport] at hlink
      exact congrArg Transport.link (Option.some.inj hlink)

theorem line?_store (hs : w.stores[g]? = some s) : w.line? (.store g) = s.transport.link? := by
  rw [line?, hs]
  rfl

/-- Another store in the place of one is another link on its line only. -/
theorem line?_setStore (h : v.wires = (w.stores.setIfInBounds g s, w.links)) :
    (∀ s', w.stores[g]? = some s' → v.line? (.store g) = s.transport.link?) ∧
      ∀ x, x ≠ .store g → v.line? x = w.line? x := by
  have hstores : v.stores = w.stores.setIfInBounds g s := congrArg Prod.fst h
  have hlinks : v.links = w.links := congrArg Prod.snd h
  constructor
  · intro s' hs'
    have hg := (Array.getElem?_eq_some_iff.1 hs').1
    rw [line?, hstores, Array.getElem?_setIfInBounds_self_of_lt hg]
    rfl
  · intro x hx
    cases x with
    | link k => rw [line?, line?, hlinks]
    | store g' =>
        have hne : g ≠ g' := fun heq ↦ hx (congrArg Line.store heq.symm)
        rw [line?, line?, hstores, Array.getElem?_setIfInBounds_ne hne]

/-- Another link in the place of one is another link on its line only. -/
theorem line?_setLink (h : v.wires = (w.stores, w.links.setIfInBounds k l)) :
    (∀ l', w.links[k]? = some l' → v.line? (.link k) = some l) ∧
      ∀ x, x ≠ .link k → v.line? x = w.line? x := by
  have hstores : v.stores = w.stores := congrArg Prod.fst h
  have hlinks : v.links = w.links.setIfInBounds k l := congrArg Prod.snd h
  constructor
  · intro l' hl'
    rw [line?, hlinks, Array.getElem?_setIfInBounds_self_of_lt (Array.getElem?_eq_some_iff.1 hl').1]
  · intro x hx
    cases x with
    | link k' =>
        have hne : k ≠ k' := fun heq ↦ hx (congrArg Line.link heq.symm)
        rw [line?, line?, hlinks, Array.getElem?_setIfInBounds_ne hne]
    | store g => rw [line?, line?, hstores]

/-- What is added is beside all lines that were there. -/
theorem line?_pushStore (h : v.wires = (w.stores.push s, w.links)) (hx : w.line? x = some l) :
    v.line? x = some l := by
  have hstores : v.stores = w.stores.push s := congrArg Prod.fst h
  have hlinks : v.links = w.links := congrArg Prod.snd h
  cases x with
  | link k => rwa [line?, hlinks]
  | store g =>
      obtain ⟨s', hs', hlink⟩ := exists_of_line?_store hx
      obtain ⟨hlt, rfl⟩ := Array.getElem?_eq_some_iff.1 hs'
      rw [line?, hstores, Array.getElem?_push_lt hlt, Option.bind_some, hlink, Transport.link?]

theorem line?_pushLink (h : v.wires = (w.stores, w.links.push l')) (hx : w.line? x = some l) :
    v.line? x = some l := by
  have hstores : v.stores = w.stores := congrArg Prod.fst h
  have hlinks : v.links = w.links.push l' := congrArg Prod.snd h
  cases x with
  | link k =>
      obtain ⟨hlt, rfl⟩ := Array.getElem?_eq_some_iff.1 hx
      rw [line?, hlinks, Array.getElem?_push_lt hlt]
  | store g => rwa [line?, hstores]

end Workspace

/-! ## Closing -/

/-- Closes the link of a line. -/
def Line.close : Line → Action Unit
  | .link k => closeLink k
  | .store g => closeStore g

namespace Action

variable {α : Type} {w : Workspace} {x : Line} {l : Link} {g : StoreId} {k : LinkId}

theorem on_getLink_of_some (h : w.links[k]? = some l) : (getLink k).on w = (.ok l, w) := by
  rw [getLink, on_bind_of_ok (on_get w), on_ofOption, h]
  rfl

/-- Closing a line closes its link and nothing else. -/
theorem on_close (hx : w.line? x = some l) : ∃ v, x.close.on w = (.ok (), v) ∧
    v.line? x = some l.close ∧ ∀ y, y ≠ x → v.line? y = w.line? y := by
  cases x with
  | link k =>
      have hclose : (Line.link k).close.on w =
          (.ok (), { w with links := w.links.setIfInBounds k l.close }) :=
        on_bind_of_ok (on_getLink_of_some hx) _
      obtain ⟨hself, hother⟩ := Workspace.line?_setLink (w := w) (k := k) (l := l.close)
        (v := { w with links := w.links.setIfInBounds k l.close }) rfl
      exact ⟨_, hclose, hself l hx, hother⟩
  | store g =>
      obtain ⟨s, hs, htransport⟩ := Workspace.exists_of_line?_store hx
      have hclose : (Line.store g).close.on w = (.ok (), { w with
          stores := w.stores.setIfInBounds g { s with transport := s.transport.close } }) :=
        on_bind_of_ok (on_getStore_of_some hs) _
      obtain ⟨hself, hother⟩ := Workspace.line?_setStore (w := w) (g := g)
        (s := { s with transport := s.transport.close }) (v := { w with
          stores := w.stores.setIfInBounds g { s with transport := s.transport.close } }) rfl
      refine ⟨_, hclose, ?_, hother⟩
      rw [hself s hs, htransport]
      rfl

/-- Work with something to do after it comes to what the work comes to, if that can be done. -/
theorem on_closingAfter (work : Action α) {close : Action Unit} {v : Workspace}
    (hclose : close.on (work.on w).2 = (.ok (), v)) :
    (closingAfter work close).on w = ((work.on w).1, v) := by
  have hwork : on (ExceptT.lift work.run) w = (.ok (work.on w).1, (work.on w).2) := rfl
  rw [closingAfter, on_bind_of_ok hwork, on_bind_of_ok hclose, on_ofResult]

/-- A block that closes a line when it is left is left as its body is, and the line is closed. -/
theorem on_block (work : Action α) (hx : (work.on w).2.line? x = some l) :
    ∃ v, (closingAfter work x.close).on w = ((work.on w).1, v) ∧ v.line? x = some l.close ∧
      ∀ y, y ≠ x → v.line? y = (work.on w).2.line? y := by
  obtain ⟨v, hclose, hself, hother⟩ := on_close hx
  exact ⟨v, on_closingAfter work hclose, hself, hother⟩

end Action

/-! ## What a command does to a line -/

namespace Command

/-- The line that a command closes. -/
def closed? : Command → Option Line
  | closeLink k | withLink k _ => some (.link k)
  | closeStore g | withStore g _ => some (.store g)
  | _ => none

/-- The line that a command may send something over. -/
def sends? : Command → Option Line
  | send k _ => some (.link k)
  | execute g _ | find g _ | save g _ | saveAs g _ _ => some (.store g)
  | _ => none

/-- No command both sends something and closes a line. -/
theorem closed?_eq_none {c : Command} {x : Line} (h : c.sends? = some x) : c.closed? = none := by
  cases c with
  | closeStore g => cases h
  | withStore g fault => cases h
  | closeLink k => cases h
  | withLink k fault => cases h
  | _ => rfl

/-- The query that a command always sends. -/
def query? : Command → Option String
  | send _ (.plain (.text query)) | execute _ (.plain (.text query)) => some query
  | _ => none

/-- What a command comes to, given what comes of the query that it sends: errors come out as they
are, and the bytes of an answer as they are or decoded. -/
def passed (c : Command) (answer : Except Error (List UInt8)) : Except Error Value :=
  match c with
  | send _ _ => answer.map .bytes
  | find _ _ | execute _ _ => (answer.bind fun body ↦ ResultSet.decode (.bytes body)).map .results
  | _ => (answer.bind fun body ↦ ResultSet.decode (.bytes body)).map fun _ ↦ .none

end Command

/-- What a command may do to the link of a line, and what it comes to then. -/
inductive Line.Step (x : Line) (l : Link) (c : Command) : Except Error Value → Link → Prop
  /-- Nothing is done to the link.  A command that was to send something fails then. -/
  | idle {outcome : Except Error Value} : c.closed? ≠ some x →
      (c.sends? = some x → c.query? = none ∧ ∃ e, outcome = .error e) → Step x l c outcome l
  /-- One query is sent, and what comes of it is what the command comes to. -/
  | sent {query : String} : c.sends? = some x → (∀ q, c.query? = some q → q = query) →
      Step x l c (c.passed (l.send query).outcome) (l.send query).after
  | closed {outcome : Except Error Value} : c.closed? = some x → Step x l c outcome l.close

namespace Action

variable {w : Workspace} {x : Line} {l : Link} {g : StoreId} {k : LinkId} {s : Store}

theorem keepsLine_note (x : Line) (entry : LogEntry) :
    Keeps (Workspace.line? · x) (note entry) := fun _ ↦ Workspace.line?_of_wires rfl x

theorem keepsLine_setStore (hx : x ≠ .store g) (s : Store) :
    Keeps (Workspace.line? · x) (setStore g s) := fun _ ↦ (Workspace.line?_setStore rfl).2 x hx

theorem keepsLine_setLink (hx : x ≠ .link k) (l : Link) :
    Keeps (Workspace.line? · x) (setLink k l) := fun _ ↦ (Workspace.line?_setLink rfl).2 x hx

theorem keepsLine_close {y : Line} (hx : x ≠ y) : Keeps (Workspace.line? · x) y.close := by
  cases y with
  | link k => exact Keeps.closeLink (keepsLine_setLink hx)
  | store g => exact Keeps.closeStore (keepsLine_setStore hx)

theorem keepsLine_execute (hx : x ≠ .store g) (query : Value) :
    Keeps (Workspace.line? · x) (execute g query) :=
  Keeps.execute (keepsLine_note x) (keepsLine_setStore hx) query

/-- To send something over a link is to hand it over and to log what is to be logged. -/
theorem on_sendOver (hl : w.links[k]? = some l) (query : Value) :
    let x := l.sendValue query (w.lacking query "encode")
    (sendOver k query).on w = (x.outcome, { w with
      links := w.links.setIfInBounds k x.after
      log := w.log ++ x.log }) := by
  intro x
  have hset : (setLink k x.after).on w =
      (.ok (), { w with links := w.links.setIfInBounds k x.after }) := rfl
  rw [sendOver, on_bind_of_ok (on_getLink_of_some hl), on_bind_of_ok (on_get w),
    on_bind_of_ok hset, on_bind_of_ok (on_forM_note _ _), on_ofResult]

/-- To execute something fails at once, or it is to hand it over and to read the answer. -/
theorem execute_cases (hs : w.stores[g]? = some s) (query : Value) :
    (∃ e, (execute g query).on w = (.error e, w)) ∨ ∃ e v,
      (execute g query).on w = ((s.transport.send query e).outcome.bind ResultSet.decode, v) ∧
      v.wires = (w.stores.setIfInBounds g { s with
        transport := (s.transport.send query e).after, given := s.given ++ [query] }, w.links) := by
  rw [execute, on_bind_of_ok (on_getStore_of_some hs)]
  rcases hshown : (inText query).on w with ⟨e | shown, v⟩
  · rw [on_bind_of_error hshown, (Keeps.inText query).eq_of_on hshown]
    exact .inl ⟨e, rfl⟩
  · obtain rfl := (Keeps.inText query).eq_of_on hshown
    rw [on_bind_of_ok hshown, on_bind_of_ok (on_note _ _), on_bind_of_ok (on_get _),
      on_bind_of_ok (on_setStore _ _ _), on_bind_of_ok (on_forM_note _ _)]
    generalize Workspace.lacking _ query "encode" = e
    have hread : ∀ u : Workspace, ((ofResult (s.transport.send query e).outcome >>= fun source ↦
        ofResult (ResultSet.decode source)).on u) =
          ((s.transport.send query e).outcome.bind ResultSet.decode, u) := by
      intro u
      rw [on_bind, on_ofResult]
      cases (s.transport.send query e).outcome with
      | error e => rfl
      | ok source => exact on_ofResult _ u
    exact .inr ⟨e, _, hread _, rfl⟩

end Action

namespace Errand

variable {w v : Workspace} {g : StoreId} {r : Errand}

/-- What an errand comes to once the answer was read. -/
def answer : Errand → ResultSet → Value
  | find _, rs => .results rs
  | _, _ => .none

/-- An errand that saves under another name gives that name as a text. -/
def NamesText (r : Errand) : Prop := ∀ i name, r = .saveAs i name → ∃ n, name = .text n

/-- What is left to do of an errand once the answer was read does not fail and touches no link. -/
theorem on_conclude (l : Label) (rs : ResultSet) {p : Path} (hp : v.paths[r.path]? = some p)
    (hr : r.NamesText) :
    ∃ u, (r.conclude l rs).on v = (.ok (r.answer rs), u) ∧ u.wires = v.wires := by
  cases r with
  | find i => exact ⟨v, rfl, rfl⟩
  | save i => exact ⟨_, on_bind_of_ok (on_markSaved hp) _, rfl⟩
  | saveAs i name =>
      obtain ⟨n, rfl⟩ := hr i name rfl
      exact ⟨_, rfl, rfl⟩

/-- A store is not consulted, or it is with some text. -/
theorem on_consult_cases (w : Workspace) (g : StoreId) (p : Path) (written : Except Error String) :
    (∃ e, (consult g p written).on w = (.error e, w)) ∨
      ∃ s text, w.stores[g]? = some s ∧ written = .ok text ∧ w.unsaved? p = none := by
  cases written with
  | error e => exact .inl ⟨e, rfl⟩
  | ok text =>
      cases hu : w.unsaved? p with
      | some m => exact .inl ⟨_, on_consult_of_unsaved hu⟩
      | none =>
          cases hs : w.stores[g]? with
          | none => exact .inl ⟨_, on_consult_of_none hs hu⟩
          | some s => exact .inr ⟨s, text, rfl, rfl, rfl⟩

/-- An errand fails and does nothing, or it comes to consulting a store. -/
theorem run_eq_error_or_consult (w : Workspace) (g : StoreId) (r : Errand) :
    (∃ e, (r.command g).run w = (.error e, w)) ∨
      ∃ p l written, w.paths[r.path]? = some p ∧ r.NamesText ∧
        (r.command g).run w = (consult g p written >>= r.conclude l).on w := by
  by_cases hr : r.Addresses w
  case neg =>
    obtain ⟨e, he⟩ := exists_lookup_eq_error hr
    exact .inl ⟨e, run_of_lookup_eq_error he⟩
  cases r with
  | find i =>
      obtain ⟨p, hp⟩ := hr
      cases hf : p.isFinalized with
      | false => exact .inl ⟨_, run_find_of_not_finalized hp hf⟩
      | true => exact .inr ⟨p, ⟨"", false⟩, _, hp, nofun, run_find hp hf _⟩
  | save i =>
      obtain ⟨l, hl⟩ := hr
      obtain ⟨p, hp, hlabel⟩ := Workspace.exists_of_label? hl
      obtain ⟨n, hn, hcheck⟩ | ⟨e, he⟩ := misnames_or_check (w := w) (.text l.name)
      · cases hn
        exact .inr ⟨p, l, _, hp, nofun, run_of_assigns (.own hp hlabel) hcheck⟩
      · refine .inl ⟨e, ?_⟩
        change (Action.save g i >>= fun _ ↦ pure Value.none).on w = _
        rw [save_eq_submit, bind_assoc, on_bind_of_ok (on_expectLabel hp hlabel), bind_assoc,
          submit, bind_assoc]
        exact on_bind_of_error (on_statementAs_of_misnames he i l) _
  | saveAs i name =>
      obtain ⟨l, hl⟩ := hr
      obtain ⟨p, hp, hlabel⟩ := Workspace.exists_of_label? hl
      obtain ⟨n, rfl, hcheck⟩ | ⟨e, he⟩ := misnames_or_check (w := w) name
      · refine .inr ⟨p, l, _, hp, ?_, run_of_assigns (.other hp hlabel hcheck) hcheck⟩
        rintro _ _ ⟨⟩
        exact ⟨n, rfl⟩
      · exact .inl ⟨e, run_saveAs_of_misnames hl he⟩

/-- An errand fails and does nothing, or it hands a text to a store, once, and comes to what is made
of the reply. -/
theorem run_eq_error_or_reply (w : Workspace) (g : StoreId) (r : Errand) :
    (∃ e, (r.command g).run w = (.error e, w)) ∨
      ∃ s text u, w.stores[g]? = some s ∧
        (r.command g).run w = ((s.reply text).map r.answer, u) ∧
        u.wires = (w.stores.setIfInBounds g (s.handed text), w.links) := by
  obtain he | ⟨p, l, written, hp, hr, hrun⟩ := run_eq_error_or_consult w g r
  · exact .inl he
  · obtain ⟨e, he⟩ | ⟨s, text, hs, rfl, hu⟩ := on_consult_cases w g p written
    · exact .inl ⟨e, hrun.trans (on_bind_of_error he _)⟩
    · refine .inr ⟨s, text, ?_⟩
      have hconsult : (consult g p (.ok text)).on w = (s.reply text, w.sending g s text) :=
        on_consult_of_ok hs hu
      rw [hrun]
      cases hreply : s.reply text with
      | error e =>
          rw [hreply] at hconsult
          exact ⟨_, hs, on_bind_of_error hconsult _, rfl⟩
      | ok rs =>
          rw [hreply] at hconsult
          obtain ⟨u, hconclude, hwires⟩ :=
            on_conclude (v := w.sending g s text) l rs hp hr
          exact ⟨u, hs, (on_bind_of_ok hconsult _).trans hconclude, hwires⟩

end Errand

namespace Line

variable {w : Workspace} {x : Line} {l : Link} {g : StoreId} {k : LinkId} {s : Store}

theorem reply_of_link (hs : s.transport = .link l) (text : String) : s.reply text =
    (l.send text).outcome.bind fun body ↦ ResultSet.decode (.bytes body) := by
  rw [Store.reply, Store.exchange, hs]
  change ((l.send text).outcome.map Source.bytes).bind _ = _
  cases (l.send text).outcome <;> rfl

theorem handed_of_link (hs : s.transport = .link l) (text : String) :
    (s.handed text).transport.link? = some (l.send text).after := by
  rw [Store.handed, Store.exchange, hs]
  rfl

/-- What is no text is not sent over a link. -/
theorem sendValue_of_ne_text {query : Value} (h : ∀ q, query ≠ .text q) (e : Error) :
    ∃ f, l.sendValue query e = ⟨.error f, l, []⟩ := by
  cases query with
  | plain p =>
      cases p with
      | text q => exact absurd rfl (h q)
      | _ => exact ⟨_, rfl⟩
  | _ => exact ⟨_, rfl⟩

theorem query?_eq_none {query : Value} (h : ∀ q, query ≠ .text q) :
    (Command.send k query).query? = none ∧ (Command.execute g query).query? = none := by
  cases query with
  | plain p =>
      cases p with
      | text q => exact absurd rfl (h q)
      | _ => exact ⟨rfl, rfl⟩
  | _ => exact ⟨rfl, rfl⟩

/-- What keeps a line leaves it idle. -/
theorem exists_idle {c : Command} (hx : w.line? x = some l)
    (hkeeps : (c.run w).2.line? x = w.line? x) (hclosed : c.closed? ≠ some x)
    (hsends : c.sends? = some x → c.query? = none ∧ ∃ e, (c.run w).1 = .error e) : ∃ l',
      (c.run w).2.line? x = some l' ∧ x.Step l c (c.run w).1 l' :=
  ⟨l, hkeeps.trans hx, .idle hclosed hsends⟩

theorem step_send (hx : w.line? x = some l) (k : LinkId) (query : Value) : ∃ l',
    ((Command.send k query).run w).2.line? x = some l' ∧
      x.Step l (.send k query) ((Command.send k query).run w).1 l' := by
  by_cases hxk : x = .link k
  · subst hxk
    have hrun : (Command.send k query).run w = _ :=
      (on_bind_pure (sendOver k query) Value.bytes w).trans (by rw [on_sendOver hx])
    rw [hrun]
    refine ⟨_, (Workspace.line?_setLink rfl).1 l hx, ?_⟩
    by_cases hquery : ∃ q, query = .text q
    · obtain ⟨q, rfl⟩ := hquery
      exact .sent rfl fun _ h ↦ (Option.some.inj h).symm
    · have hquery : ∀ q, query ≠ .text q := fun q h ↦ hquery ⟨q, h⟩
      obtain ⟨f, hsend⟩ := sendValue_of_ne_text hquery (w.lacking query "encode")
      rw [hsend]
      exact .idle nofun fun _ ↦ ⟨(query?_eq_none (g := 0) hquery).1, _, rfl⟩
  · refine exists_idle hx ?_ nofun ?_
    · exact ((Keeps.sendOver (keepsLine_note x) (keepsLine_setLink hxk) query).bind fun _ ↦
        Keeps.pure _) w
    · rintro ⟨⟩
      exact absurd rfl hxk

theorem step_execute (hx : w.line? x = some l) (g : StoreId) (query : Value) : ∃ l',
    ((Command.execute g query).run w).2.line? x = some l' ∧
      x.Step l (.execute g query) ((Command.execute g query).run w).1 l' := by
  by_cases hxg : x = .store g
  · subst hxg
    obtain ⟨s, hs, hlink⟩ := Workspace.exists_of_line?_store hx
    have hrun : (Command.execute g query).run w =
        (((execute g query).on w).1.map .results, ((execute g query).on w).2) :=
      on_bind_pure (execute g query) Value.results w
    by_cases hquery : ∃ q, query = .text q
    · obtain ⟨q, rfl⟩ := hquery
      rw [hrun, on_execute_text hs, reply_of_link hlink]
      refine ⟨_, ((Workspace.line?_setStore rfl).1 s hs).trans (handed_of_link hlink q), ?_⟩
      exact .sent rfl fun _ h ↦ (Option.some.inj h).symm
    · have hquery : ∀ q, query ≠ .text q := fun q h ↦ hquery ⟨q, h⟩
      have hnone := (query?_eq_none (k := 0) (g := g) hquery).2
      rw [hrun]
      have hclosed : (Command.execute g query).closed? ≠ some (.store g) :=
        (Option.some_ne_none _).symm
      obtain ⟨e, he⟩ | ⟨e, v, hexecute, hwires⟩ := execute_cases hs query
      · rw [he]
        exact ⟨l, hx, .idle hclosed fun _ ↦ ⟨hnone, _, rfl⟩⟩
      · obtain ⟨f, hsend⟩ := sendValue_of_ne_text hquery e
        rw [hlink, Transport.send, hsend] at hexecute hwires
        rw [hexecute]
        exact ⟨l, (Workspace.line?_setStore hwires).1 s hs, .idle hclosed fun _ ↦ ⟨hnone, _, rfl⟩⟩
  · refine exists_idle hx ?_ (Option.some_ne_none x).symm ?_
    · exact ((keepsLine_execute hxg query).bind fun _ ↦ Keeps.pure _) w
    · rintro ⟨⟩
      exact absurd rfl hxg

theorem step_errand (hx : w.line? x = some l) (g : StoreId) (r : Errand) : ∃ l',
    ((r.command g).run w).2.line? x = some l' ∧
      x.Step l (r.command g) ((r.command g).run w).1 l' := by
  have hclosed : (r.command g).closed? ≠ some x := by
    cases r <;> exact nofun
  have hquery : (r.command g).query? = none := by
    cases r <;> rfl
  have hsends : (r.command g).sends? = some (.store g) := by
    cases r <;> rfl
  obtain ⟨e, he⟩ | ⟨s, text, u, hs, hrun, hwires⟩ := Errand.run_eq_error_or_reply w g r
  · exact exists_idle hx (by rw [he]) hclosed fun _ ↦ ⟨hquery, e, by rw [he]⟩
  · by_cases hxg : x = .store g
    · subst hxg
      have hlink : s.transport = .link l := by
        obtain ⟨s', hs', hlink⟩ := Workspace.exists_of_line?_store hx
        rw [hs] at hs'
        rwa [Option.some.inj hs']
      have hpassed : (s.reply text).map r.answer =
          (r.command g).passed (l.send text).outcome := by
        rw [reply_of_link hlink]
        cases r <;> rfl
      rw [hrun, hpassed]
      refine ⟨_, ((Workspace.line?_setStore hwires).1 s hs).trans (handed_of_link hlink text), ?_⟩
      exact .sent hsends fun q hq ↦ by rw [hquery] at hq; cases hq
    · refine exists_idle hx ?_ hclosed fun h ↦ ?_
      · rw [hrun]
        exact (Workspace.line?_setStore hwires).2 x hxg
      · rw [hsends] at h
        exact absurd (Option.some.inj h).symm hxg

/-- A command that closes a line at its end closes the link of that line. -/
theorem step_close (hx : w.line? x = some l) {c : Command} {y : Line} {work : Action Value}
    (hwork : Keeps Workspace.wires work) (hrun : c.run w = (closingAfter work y.close).on w)
    (hclosed : c.closed? = some y) (hsends : c.sends? = none) : ∃ l',
      (c.run w).2.line? x = some l' ∧ x.Step l c (c.run w).1 l' := by
  have hkept := Workspace.line?_of_wires (hwork w)
  by_cases hxy : x = y
  · subst hxy
    obtain ⟨v, hblock, hv, -⟩ := on_block work ((hkept x).trans hx)
    rw [hrun, hblock]
    exact ⟨_, hv, .closed hclosed⟩
  · refine exists_idle hx ?_ ?_ ?_
    · have hwork : Keeps (Workspace.line? · x) work := fun w ↦
        Workspace.line?_of_wires (hwork w) x
      rw [hrun]
      exact hwork.closingAfter (keepsLine_close hxy) w
    · rw [hclosed]
      exact fun h ↦ hxy (Option.some.inj h).symm
    · rw [hsends]
      exact nofun

/-- A command that adds a store or a link, or fails to, does nothing to those that are there. -/
theorem exists_idle_of_push {α : Type} (hx : w.line? x = some l) {c : Command}
    (made : Except Error α) (new : α → Action Value)
    (hrun : c.run w = (ofResult made >>= new).on w)
    (hnew : ∀ a, ((new a).on w).2.line? x = some l) (hclosed : c.closed? = none)
    (hsends : c.sends? = none) : ∃ l',
      (c.run w).2.line? x = some l' ∧ x.Step l c (c.run w).1 l' := by
  refine exists_idle hx ?_ (by rw [hclosed]; exact nofun) (by rw [hsends]; exact nofun)
  rw [hrun, hx]
  cases made with
  | error e => exact hx
  | ok a => exact hnew a

/-- A command does one thing at most to the link of a line, and no more than that. -/
theorem step_run (c : Command) (hx : w.line? x = some l) : ∃ l',
    (c.run w).2.line? x = some l' ∧ x.Step l c (c.run w).1 l' := by
  have hbuilder (hc : c.isBuilder = true) (hclosed : c.closed? = none) (hsends : c.sends? = none) :
      ∃ l', (c.run w).2.line? x = some l' ∧ x.Step l c (c.run w).1 l' := by
    refine exists_idle hx ?_ (by rw [hclosed]; exact nofun) (by rw [hsends]; exact nofun)
    have hkeeps : Keeps Workspace.wires c.perform :=
      Command.keeps_perform_of_isBuilder (fun _ _ ↦ rfl) (fun _ ↦ rfl) hc
    exact Workspace.line?_of_wires (hkeeps w) x
  cases c with
  | connect endpoint route =>
      refine exists_idle_of_push hx (Store.connect endpoint route)
        (fun s ↦ newStore s >>= fun g ↦ pure (Value.store g)) ?_
        (fun s ↦ Workspace.line?_pushStore rfl hx) rfl rfl
      change ((ofResult (Store.connect endpoint route) >>= newStore) >>= _).on w = _
      rw [bind_assoc]
  | connectLink read address behaviour owned =>
      exact exists_idle_of_push hx (Link.connect read address behaviour owned)
        (fun l ↦ newLink l >>= fun k ↦ pure (Value.link k)) rfl
        (fun l ↦ Workspace.line?_pushLink rfl hx) rfl rfl
  | send k query => exact step_send hx k query
  | execute g query => exact step_execute hx g query
  | find g i => exact step_errand hx g (.find i)
  | save g i => exact step_errand hx g (.save i)
  | saveAs g i name => exact step_errand hx g (.saveAs i name)
  | closeStore g =>
      exact step_close hx (y := .store g) (Keeps.pure Value.none) rfl rfl rfl
  | closeLink k =>
      exact step_close hx (y := .link k) (Keeps.pure Value.none) rfl rfl rfl
  | withStore g fault => exact step_close hx (y := .store g) (Keeps.block fault) rfl rfl rfl
  | withLink k fault => exact step_close hx (y := .link k) (Keeps.block fault) rfl rfl rfl
  | _ => exact hbuilder rfl rfl rfl

end Line

end GraphQuery
