import GraphQuery.Proofs.Run

/-!
# Errands to a store

What is asked of a store with a path is an `Errand`: to find what a query is for, or to save a
morphism under its own name or under another one.  All errands are carried out alike.  A text is
written, the followed morphisms are looked at, and the text is handed to the transport of the store
(`Action.consult`); what is left to do after the answer touches no store (`Errand.conclude`).

Nothing is said of what a transport does with a text, so all this holds of every transport.
-/

namespace GraphQuery

open Work

/-! ## Sending -/

/-- A text is sent alike, whatever would be wrong with something that is no text. -/
theorem Transport.send_text (t : Transport) (text : String) (e e' : Error) :
    t.send (.text text) e = t.send (.text text) e' := by
  cases t <;> rfl

namespace Store

variable (s : Store) (text : String)

/-- Handing a text to the transport of a store, once. -/
def exchange : Exchanged Transport Source := s.transport.send (.text text) .noObject

/-- A store after a text was handed to its transport, once. -/
def handed : Store :=
  { s with transport := (s.exchange text).after, given := s.given ++ [.text text] }

/-- What a store makes of a text: its answer is read. -/
def reply : Except Error ResultSet := (s.exchange text).outcome.bind ResultSet.decode

/-- Whatever a transport keeps for itself, it was given the text one more time. -/
@[simp] theorem given_handed : (s.handed text).given = s.given ++ [.text text] := rfl

/-- A recorder that was handed a text has that text, and no other, behind those from before. -/
theorem handed_recorder {r : Recorder} (h : s.transport = .recorder r) :
    (s.handed text).transport =
      .recorder { r with replies := r.replies.tail, sent := r.sent ++ [.text text] } := by
  simp only [handed, exchange, h, Transport.send, Recorder.send]

end Store

/-- What is logged of a text that is about to be sent. -/
def sendingEntry (text : String) : LogEntry := ⟨.debug, "Executing query: " ++ text⟩

/-- The workspace after a text was handed to a store and before the answer is looked at. -/
def Workspace.sending (w : Workspace) (g : StoreId) (s : Store) (text : String) : Workspace :=
  { w with
    stores := w.stores.setIfInBounds g (s.handed text)
    log := w.log ++ sendingEntry text :: (s.exchange text).log }

/-- A command hands a text to a store, once and before anything else: the store is afterwards as
that leaves it, having been given the text once more (`Store.given_handed`), all other stores are as
before, and the log goes on with the text. -/
def Command.Hands (c : Command) (w : Workspace) (g : StoreId) (text : String) : Prop :=
  ∃ s, w.stores[g]? = some s ∧
    (c.run w).2.stores = w.stores.setIfInBounds g (s.handed text) ∧
    w.log ++ [sendingEntry text] <+: (c.run w).2.log

namespace Command

variable {c : Command} {w : Workspace} {g g' : StoreId} {text text' : String}

/-- A command that leaves the log as it was hands nothing over. -/
theorem Hands.log_ne (h : c.Hands w g text) : (c.run w).2.log ≠ w.log := by
  obtain ⟨s, _, _, later, hlog⟩ := h
  rw [← hlog]
  simp

/-- Building paths and asking things of them hands nothing over. -/
theorem not_hands_of_isBuilder (hc : c.isBuilder = true) : ¬c.Hands w g text := by
  rintro ⟨s, _, _, later, hlog⟩
  have hsame : (c.run w).2.unwarned.log = w.unwarned.log :=
    congrArg Prod.snd (dealings_run_of_isBuilder w hc)
  rw [Workspace.unwarned, ← hlog] at hsame
  simp [Workspace.unwarned, sendingEntry] at hsame

/-- A command hands over one text only. -/
theorem Hands.text_eq (h : c.Hands w g text) (h' : c.Hands w g' text') : text = text' := by
  obtain ⟨s, _, _, later, hlog⟩ := h
  obtain ⟨s', _, _, later', hlog'⟩ := h'
  rw [← hlog', List.append_assoc, List.append_assoc, List.append_cancel_left_eq] at hlog
  simpa [sendingEntry] using (List.cons.inj hlog).1

end Command

/-! ## Errands -/

/-- What is asked of a store with a path. -/
inductive Errand
  | find (path : PathId)
  | save (path : PathId)
  | saveAs (path : PathId) (name : Value)

namespace Errand

/-- An errand to a store as a command. -/
def command (g : StoreId) : Errand → Command
  | find i => .find g i
  | save i => .save g i
  | saveAs i name => .saveAs g i name

/-- The path that an errand is about. -/
def path : Errand → PathId
  | find i | save i | saveAs i _ => i

/-- Whether there is what an errand is about: a path, and for saving a morphism. -/
def Addresses (w : Workspace) : Errand → Prop
  | find i => ∃ p, w.paths[i]? = some p
  | save i | saveAs i _ => ∃ l, w.label? i = some l

/-- An errand gives the body of the morphism `p`, which is labelled `l`, the name `n`. -/
inductive Assigns (w : Workspace) : Errand → Path → Label → String → Prop
  | own {i : PathId} {p : Path} {l : Label} : w.paths[i]? = some p → p.label = some l →
      Assigns w (save i) p l l.name
  | other {i : PathId} {p : Path} {l : Label} {n : String} : w.paths[i]? = some p →
      p.label = some l → Identifier.check n = .ok n → Assigns w (saveAs i (.text n)) p l n

/-- The body that is given a name is that of the path that an errand is about. -/
theorem Assigns.getElem? {w : Workspace} {r : Errand} {p : Path} {l : Label} {n : String}
    (h : r.Assigns w p l n) : w.paths[r.path]? = some p := by
  cases h with
  | own hp _ => exact hp
  | other hp _ _ => exact hp

end Errand

/-! ## Carrying out errands -/

namespace Action

variable {w : Workspace} {g : StoreId} {s : Store}

/-- To execute a text is to hand it over and to read the answer. -/
theorem on_execute_text (hg : w.stores[g]? = some s) (text : String) :
    (execute g (.text text)).on w = (s.reply text, w.sending g s text) := by
  have hshown : (inText (.text text)).on w = (.ok text, w) := rfl
  rw [execute, on_bind_of_ok (on_getStore_of_some hg), on_bind_of_ok hshown,
    on_bind_of_ok (on_note _ _), on_bind_of_ok (on_get _), on_bind_of_ok (on_setStore _ _ _),
    on_bind_of_ok (on_forM_note _ _), Transport.send_text _ _ _ .noObject, on_bind, on_ofResult]
  simp only [Store.reply, Workspace.sending, Store.handed, Store.exchange, sendingEntry,
    List.append_assoc, List.singleton_append]
  cases (s.transport.send (.text text) .noObject).outcome with
  | error e => rfl
  | ok source => exact on_ofResult _ _

/-- The morphisms that a path follows are looked at before anything is sent. -/
theorem on_checkFollowed_of_none {p : Path} (h : w.unsaved? p = none) :
    (checkFollowed p).on w = (.ok (), w) := by
  rw [checkFollowed, on_bind_of_ok (on_get w), h]
  rfl

theorem on_checkFollowed_of_some {p : Path} {m : String} (h : w.unsaved? p = some m) :
    (checkFollowed p).on w = (.error (.unsaved (.text m)), w) := by
  rw [checkFollowed, on_bind_of_ok (on_get w), h]
  rfl

/-- What all errands come to when there is something to send: the followed morphisms are looked at,
and the text is executed. -/
def consult (g : StoreId) (p : Path) (written : Except Error String) : Action ResultSet := do
  let text ← ofResult written
  checkFollowed p
  execute g (.text text)

theorem on_consult_of_unsaved {p : Path} {text m : String} (h : w.unsaved? p = some m) :
    (consult g p (.ok text)).on w = (.error (.unsaved (.text m)), w) :=
  on_bind_of_error (on_checkFollowed_of_some h) _

theorem on_consult_of_ok {p : Path} {text : String} (hg : w.stores[g]? = some s)
    (h : w.unsaved? p = none) :
    (consult g p (.ok text)).on w = (s.reply text, w.sending g s text) :=
  (on_bind_of_ok (on_checkFollowed_of_none h) _).trans (on_execute_text hg text)

theorem on_consult_of_none {p : Path} {text : String} (hg : w.stores[g]? = none)
    (h : w.unsaved? p = none) : (consult g p (.ok text)).on w = (.error .noObject, w) :=
  (on_bind_of_ok (on_checkFollowed_of_none h) _).trans (on_bind_of_error (on_getStore_of_none hg) _)

end Action

namespace Errand

open GraphQuery.Action

variable {w : Workspace} {g : StoreId} {s : Store} {p : Path} {l : Label} {n : String}

/-- What is left to do of an errand once the answer was read. -/
def conclude (l : Label) : Errand → ResultSet → Action Value
  | find _, rs => return .results rs
  | save i, _ => do
    markSaved i
    note ⟨.debug, "Saved morphism " ++ Text.display l.name⟩
    return .none
  | saveAs _ name, _ => do
    note ⟨.debug, "Saved morphism " ++ Text.display l.name ++ " as " ++ (← display name)⟩
    return .none

theorem keepsStores_conclude (l : Label) (r : Errand) (rs : ResultSet) :
    Keeps Workspace.stores (r.conclude l rs) := by
  cases r with
  | find i => exact Keeps.pure _
  | save i =>
      refine Keeps.bind ((Keeps.getPath i).bind fun _ _ ↦ rfl) fun _ ↦ ?_
      exact (Keeps.stores_of_quiet (quiet_note _)).bind fun _ ↦ Keeps.pure _
  | saveAs i name =>
      refine (Keeps.display name).bind fun _ ↦ ?_
      exact (Keeps.stores_of_quiet (quiet_note _)).bind fun _ ↦ Keeps.pure _

theorem grows_conclude (l : Label) (r : Errand) (rs : ResultSet) : Grows (r.conclude l rs) := by
  cases r with
  | find i => exact .of_keeps (Keeps.pure _)
  | save i =>
      refine Grows.bind (.of_keeps ((Keeps.getPath i).bind fun _ _ ↦ rfl)) fun _ ↦ ?_
      exact (grows_note _).bind fun _ ↦ .of_keeps (Keeps.pure _)
  | saveAs i name =>
      refine Grows.bind (.of_keeps (Keeps.display name)) fun _ ↦ ?_
      exact (grows_note _).bind fun _ ↦ .of_keeps (Keeps.pure _)

/-- Finding, once the path is known to be finalized. -/
theorem run_find {i : PathId} (hp : w.paths[i]? = some p) (hf : p.isFinalized = true) (l : Label) :
    ((find i).command g).run w = (consult g p p.compile >>= (find i).conclude l).on w := by
  change (Action.find g i >>= fun rs ↦ pure (Value.results rs)).on w = _
  rw [Action.find, bind_assoc, on_bind_of_ok (on_getPath_of_some hp)]
  simp only [hf, Bool.not_true, Bool.false_eq_true, if_false]
  rfl

/-- What is not finalized is not executed. -/
theorem run_find_of_not_finalized {i : PathId} (hp : w.paths[i]? = some p)
    (hf : p.isFinalized = false) : ((find i).command g).run w = (.error (.notFinalized
      ("apply all(), get_limit() or another terminal operation to " ++ p.display)), w) := by
  change (Action.find g i >>= fun rs ↦ pure (Value.results rs)).on w = _
  rw [Action.find, bind_assoc, on_bind_of_ok (on_getPath_of_some hp)]
  simp only [hf, Bool.not_false, if_true]
  rfl

theorem on_statementAs {i : PathId} (hp : w.paths[i]? = some p) (hn : Identifier.check n = .ok n) :
    (statementAs i l (.text n)).on w = (p.statement l.name n, w) := by
  have hname : (expectName (.text n)).on w = (.ok n, w) :=
    (on_ofResult (Identifier.check n) w).trans (by rw [hn])
  rw [statementAs, on_bind_of_ok hname, on_bind_of_ok (on_getPath_of_some hp), on_ofResult]

theorem on_submit {i : PathId} (hp : w.paths[i]? = some p) (hn : Identifier.check n = .ok n) :
    (submit g i l (.text n)).on w =
      (consult g p (p.statement l.name n) >>= fun _ ↦ pure ()).on w := by
  have hstatement := on_statementAs (l := l) hp hn
  rw [submit]
  cases hs : p.statement l.name n with
  | error e =>
      rw [hs] at hstatement
      rw [on_bind_of_error hstatement]
      rfl
  | ok text =>
      rw [hs] at hstatement
      rw [on_bind_of_ok hstatement, on_bind_of_ok (on_getPath_of_some hp), consult, bind_assoc,
        on_bind_of_ok (on_ofResult_ok text w), bind_assoc]
      rfl

theorem on_expectLabel {i : PathId} {operation : String} (hp : w.paths[i]? = some p)
    (hl : p.label = some l) : (expectLabel i operation).on w = (.ok l, w) := by
  rw [expectLabel, on_bind_of_ok (on_getPath_of_some hp), hl]
  rfl

/-- What is no morphism is not saved. -/
theorem exists_on_expectLabel_eq_error {i : PathId} (operation : String)
    (hi : ¬∃ l, w.label? i = some l) : ∃ e, (expectLabel i operation).on w = (.error e, w) := by
  match hl : (expectLabel i operation).on w with
  | (.error e, v) => exact ⟨e, by rw [(Keeps.expectLabel i operation).eq_of_on hl]⟩
  | (.ok l, v) =>
      obtain ⟨⟨p, hp, hlabel⟩, rfl⟩ := expectLabel_eq_ok hl
      exact absurd ⟨l, (Workspace.label?_of_getElem? hp).trans hlabel⟩ hi

/-- What an errand begins with: what it is about is looked up. -/
def lookup : Errand → Action Unit
  | find i => discard (getPath i)
  | save i => discard (expectLabel i "save_statement")
  | saveAs i _ => discard (expectLabel i "save_statement_as")

theorem exists_lookup_eq_error {r : Errand} (hr : ¬r.Addresses w) :
    ∃ e, r.lookup.on w = (.error e, w) := by
  cases r with
  | find i =>
      have hi : w.paths[i]? = none := Option.eq_none_iff_forall_ne_some.2 fun p hp ↦ hr ⟨p, hp⟩
      refine ⟨.noObject, on_bind_of_error ?_ _⟩
      rw [on_getPath, hi]
      rfl
  | save i =>
      obtain ⟨e, he⟩ := exists_on_expectLabel_eq_error "save_statement" hr
      exact ⟨e, on_bind_of_error he _⟩
  | saveAs i name =>
      obtain ⟨e, he⟩ := exists_on_expectLabel_eq_error "save_statement_as" hr
      exact ⟨e, on_bind_of_error he _⟩

/-- An errand that looks for something in vain does nothing else. -/
theorem run_of_lookup_eq_error {r : Errand} {e : Error} (h : r.lookup.on w = (.error e, w)) :
    (r.command g).run w = (.error e, w) := by
  cases r with
  | find i =>
      change (Action.find g i >>= fun rs ↦ pure (Value.results rs)).on w = _
      rw [Action.find, bind_assoc, on_bind_of_error (on_eq_error_of_discard h)]
  | save i =>
      change (Action.save g i >>= fun _ ↦ pure Value.none).on w = _
      rw [save_eq_submit, bind_assoc, on_bind_of_error (on_eq_error_of_discard h)]
  | saveAs i name =>
      change (Action.saveAs g i name >>= fun _ ↦ pure Value.none).on w = _
      rw [saveAs_eq_submit, bind_assoc, on_bind_of_error (on_eq_error_of_discard h)]

theorem on_submit_bind {i : PathId} (hp : w.paths[i]? = some p) (hn : Identifier.check n = .ok n)
    (f : Unit → Action Value) : (submit g i l (.text n) >>= f).on w =
      (consult g p (p.statement l.name n) >>= fun _ ↦ f ()).on w := by
  rw [on_bind, on_submit hp hn, ← on_bind, bind_assoc]
  simp only [pure_bind]

/-- Saving under any name, once the name is accepted. -/
theorem run_of_assigns {r : Errand} (h : r.Assigns w p l n) (hn : Identifier.check n = .ok n) :
    (r.command g).run w = (consult g p (p.statement l.name n) >>= r.conclude l).on w := by
  cases h with
  | @own i _ _ hp hl =>
      change (Action.save g i >>= fun _ ↦ pure Value.none).on w = _
      rw [save_eq_submit, bind_assoc, on_bind_of_ok (on_expectLabel hp hl), bind_assoc,
        on_submit_bind hp hn]
      simp only [bind_assoc]
      rfl
  | @other i _ _ _ hp hl _ =>
      change (Action.saveAs g i (.text n) >>= fun _ ↦ pure Value.none).on w = _
      rw [saveAs_eq_submit, bind_assoc, on_bind_of_ok (on_expectLabel hp hl), bind_assoc,
        on_submit_bind hp hn]
      simp only [bind_assoc]
      rfl

/-- An errand that consults a store with a text hands over that text. -/
theorem hands_of_run {r : Errand} {text : String} (hg : w.stores[g]? = some s)
    (hu : w.unsaved? p = none)
    (hrun : (r.command g).run w = (consult g p (.ok text) >>= r.conclude l).on w) :
    (r.command g).Hands w g text := by
  have hsent : (w.sending g s text).log = w.log ++ [sendingEntry text] ++ (s.exchange text).log :=
    List.append_cons _ _ _
  refine ⟨s, hg, ?_⟩
  rw [hrun, on_bind, on_consult_of_ok hg hu]
  match s.reply text with
  | .error e => exact ⟨rfl, hsent ▸ List.prefix_append _ _⟩
  | .ok rs =>
      refine ⟨keepsStores_conclude l r rs _, ?_⟩
      exact List.IsPrefix.trans (hsent ▸ List.prefix_append _ _) (grows_conclude l r rs _)

end Errand

end GraphQuery
