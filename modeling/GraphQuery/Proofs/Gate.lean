import GraphQuery.Proofs.Errand

/-!
# What reaches a store

An errand is looked at before anything is sent for it.  Two relations say without the code what
comes of it:

* `Workspace.Admits r text`: nothing is wrong with the errand `r`, and `text` is what it is to send;
* `Workspace.Refuses r e`: the first thing that is wrong with the errand `r` is `e`.

In a run one of the two holds of every errand.  An admitted errand hands exactly its text to the
transport, once, and a refused one leaves the workspace as it was, the log included.
-/

namespace GraphQuery

open Work

/-! ## Errands that are admitted and errands that are refused -/

namespace Workspace

variable (w : Workspace)

/-- All morphisms that a path follows count as saved. -/
def AllSaved (p : Path) : Prop := ∀ j ∈ p.followed, w.isSaved j = true

/-- Of the morphisms that a path follows, the first one that is not saved is called `name`. -/
def FirstUnsaved (p : Path) (name : String) : Prop :=
  ∃ before j after, p.followed = before ++ j :: after ∧ (∀ k ∈ before, w.isSaved k = true) ∧
    w.label? j = some ⟨name, false⟩

/-- A value is not accepted as a name, and this is why. -/
inductive Misnames : Value → Error → Prop
  | notIdentifier {n : String} :
      Identifier.isIdentifier (Identifier.dropLineBreak n.toList) = false →
      Misnames (.text n) (.badName (Text.display n))
  | reserved {n : String} :
      Identifier.isIdentifier (Identifier.dropLineBreak n.toList) = true →
      n ∈ Identifier.reserved → Misnames (.text n) (.reservedName n)
  | noText {v : Value} : (∀ n, v ≠ .text n) → v.displayFault? = none →
      Misnames v (.badName (w.display v))
  /-- A record may be such that it cannot even be shown in the message. -/
  | unshowable {v : Value} {f : Fault} : (∀ n, v ≠ .text n) → v.displayFault? = some f →
      Misnames v (.fault f)

/-- Nothing is wrong with an errand, and a text is to be sent for it. -/
inductive Admits : Errand → String → Prop
  | query {i : PathId} {p : Path} {text : String} : w.paths[i]? = some p →
      p.isFinalized = true → p.compile = .ok text → w.AllSaved p → Admits (.find i) text
  | statement {r : Errand} {p : Path} {l : Label} {n body : String} : r.Assigns w p l n →
      p.compile = .ok body → w.AllSaved p → Admits r (n ++ " = " ++ body)

/-- The first thing that is wrong with an errand. -/
inductive Refuses : Errand → Error → Prop
  | unfinished {i : PathId} {p : Path} : w.paths[i]? = some p → p.isFinalized = false →
      Refuses (.find i) (.notFinalized
        ("apply all(), get_limit() or another terminal operation to " ++ p.display))
  | broken {i : PathId} {p : Path} {reason : String} : w.paths[i]? = some p →
      p.isFinalized = true → p.compile = .error (.compilation reason) →
      Refuses (.find i) (.compilation reason)
  | unsavedInQuery {i : PathId} {p : Path} {text m : String} : w.paths[i]? = some p →
      p.isFinalized = true → p.compile = .ok text → w.FirstUnsaved p m →
      Refuses (.find i) (.unsaved (.text m))
  | name {i : PathId} {l : Label} {v : Value} {e : Error} : w.label? i = some l →
      w.Misnames v e → Refuses (.saveAs i v) e
  | unsavable {r : Errand} {p : Path} {l : Label} {n reason : String} : r.Assigns w p l n →
      p.compile = .error (.compilation reason) →
      Refuses r (.unsavable (.text l.name) (Error.compilation reason).message)
  | unsavedInBody {r : Errand} {p : Path} {l : Label} {n body m : String} : r.Assigns w p l n →
      p.compile = .ok body → w.FirstUnsaved p m → Refuses r (.unsaved (.text m))

variable {w} {p : Path}

/-- All that a path follows is saved if something is to be sent for it. -/
theorem Admits.allSaved {r : Errand} {text : String} (h : w.Admits r text) :
    ∃ p, w.paths[r.path]? = some p ∧ w.AllSaved p := by
  cases h with
  | query hp _ _ hs => exact ⟨_, hp, hs⟩
  | statement ha _ hs => exact ⟨_, ha.getElem?, hs⟩

/-- Of a morphism that is not saved its name is told. -/
def unsavedName? (w : Workspace) (j : PathId) : Option String :=
  (w.label? j).bind fun l ↦ if l.saved then none else some l.name

theorem unsaved?_eq_findSome? : w.unsaved? p = p.followed.findSome? w.unsavedName? := rfl

theorem unsavedName?_eq_none {j : PathId} {n : String} (h : w.name? j = some n) :
    w.unsavedName? j = none ↔ w.isSaved j = true := by
  obtain ⟨l, hl, -⟩ := Option.map_eq_some_iff.1 h
  rw [unsavedName?, isSaved, hl]
  cases hs : l.saved <;> simp [hs]

theorem unsavedName?_eq_some {j : PathId} {m : String} :
    w.unsavedName? j = some m ↔ w.label? j = some ⟨m, false⟩ := by
  rw [unsavedName?]
  rcases w.label? j with _ | ⟨n, _ | _⟩ <;> simp

/-- The search for a morphism that is not saved finds nothing if all of them are saved. -/
theorem unsaved?_eq_none (h : ∀ j ∈ p.followed, ∃ n, w.name? j = some n) :
    w.unsaved? p = none ↔ w.AllSaved p := by
  rw [unsaved?_eq_findSome?, List.findSome?_eq_none_iff]
  refine forall₂_congr fun j hj ↦ ?_
  obtain ⟨n, hn⟩ := h j hj
  exact unsavedName?_eq_none hn

/-- Otherwise it finds the first one that is not. -/
theorem unsaved?_eq_some (h : ∀ j ∈ p.followed, ∃ n, w.name? j = some n) {m : String} :
    w.unsaved? p = some m ↔ w.FirstUnsaved p m := by
  rw [unsaved?_eq_findSome?, List.findSome?_eq_some_iff]
  refine exists_congr fun before ↦ exists_congr fun j ↦ exists_congr fun after ↦ ?_
  refine and_congr_right fun hsplit ↦ ?_
  rw [unsavedName?_eq_some, and_comm]
  refine and_congr_left fun _ ↦ forall₂_congr fun k hk ↦ ?_
  obtain ⟨n, hn⟩ := h k (by rw [hsplit]; exact List.mem_append_left _ hk)
  exact unsavedName?_eq_none hn

end Workspace

namespace Action

variable {w : Workspace}

/-- What is no text is no name, and the message shows what it is instead. -/
theorem expectName_of_ne_text {v : Value} (h : ∀ n, v ≠ .text n) :
    (expectName v).on w = (do throw (.badName (← display v)) : Action String).on w := by
  cases v with
  | plain p =>
      have hcheck : Identifier.checkPlain p =
          .error (if p.isOverlong then .fault .overlong else .badName p.display) := by
        cases p with
        | text n => exact absurd rfl (h n)
        | _ => rfl
      have hname : (expectName (.plain p)).on w = (Identifier.checkPlain p, w) := on_ofResult _ w
      rw [hname, hcheck]
      cases hlong : p.isOverlong with
      | true =>
          rw [on_bind_of_error (on_display_of_some (Value.displayFault?_of_isOverlong hlong))]
          rfl
      | false =>
          rw [on_bind_of_ok (on_display_of_none (Value.displayFault?_plain hlong)),
            Workspace.display, Value.display]
          rfl
  | _ => rfl

/-- A value that is no name is refused as such. -/
theorem on_expectName_of_misnames {v : Value} {e : Error} (h : w.Misnames v e) :
    (expectName v).on w = (.error e, w) := by
  cases h with
  | @notIdentifier n hn =>
      have hcheck : Identifier.check n = .error (.badName (Text.display n)) := by
        simp [Identifier.check, hn]
      exact (on_ofResult (Identifier.check n) w).trans (by rw [hcheck])
  | @reserved n hn hreserved =>
      have hcheck : Identifier.check n = .error (.reservedName n) := by
        simp [Identifier.check, hn, hreserved]
      exact (on_ofResult (Identifier.check n) w).trans (by rw [hcheck])
  | noText hv hf => rw [expectName_of_ne_text hv, on_bind_of_ok (on_display_of_none hf), on_throw]
  | unshowable hv hf => rw [expectName_of_ne_text hv, on_bind_of_error (on_display_of_some hf)]

/-- A statement is not written under what is no name. -/
theorem on_statementAs_of_misnames {v : Value} {e : Error} (h : w.Misnames v e) (i : PathId)
    (l : Label) : (statementAs i l v).on w = (.error e, w) :=
  on_bind_of_error (on_expectName_of_misnames h) _

/-- Nothing is stored under what is no name. -/
theorem run_saveAs_of_misnames {g : StoreId} {i : PathId} {l : Label} {v : Value} {e : Error}
    (hl : w.label? i = some l) (h : w.Misnames v e) :
    (Command.saveAs g i v).run w = (.error e, w) := by
  obtain ⟨p, hp, hlabel⟩ := Workspace.exists_of_label? hl
  change (Action.saveAs g i v >>= fun _ ↦ pure Value.none).on w = _
  rw [saveAs_eq_submit, bind_assoc, on_bind_of_ok (Errand.on_expectLabel hp hlabel), bind_assoc,
    submit, bind_assoc]
  exact on_bind_of_error (on_statementAs_of_misnames h i l) _

/-- Every value is a name or is refused as one. -/
theorem misnames_or_check (v : Value) :
    (∃ n, v = .text n ∧ Identifier.check n = .ok n) ∨ ∃ e, w.Misnames v e := by
  by_cases hv : ∃ n, v = .text n
  · obtain ⟨n, rfl⟩ := hv
    cases hn : Identifier.isIdentifier (Identifier.dropLineBreak n.toList)
    · exact .inr ⟨_, .notIdentifier hn⟩
    · by_cases hreserved : n ∈ Identifier.reserved
      · exact .inr ⟨_, .reserved hn hreserved⟩
      · exact .inl ⟨n, rfl, by simp [Identifier.check, hn, hreserved]⟩
  · have hv : ∀ n, v ≠ .text n := fun n h ↦ hv ⟨n, h⟩
    cases hf : v.displayFault?
    · exact .inr ⟨_, .noText hv hf⟩
    · exact .inr ⟨_, .unshowable hv hf⟩

end Action

theorem Path.statement_of_compile_eq_ok {p : Path} {body : String} (h : p.compile = .ok body)
    (own n : String) : p.statement own n = .ok (n ++ " = " ++ body) := by
  rw [statement, h]

theorem Path.statement_of_compile_eq_error {p : Path} {e : Error} (h : p.compile = .error e)
    (own n : String) : p.statement own n = .error (.unsavable (.text own) e.message) := by
  rw [statement, h]

/-- The only thing that can be wrong with the body of a path is told as such. -/
theorem Path.compile_eq_error {p : Path} {e : Error} (h : p.compile = .error e) :
    ∃ reason, e = .compilation reason := by
  unfold compile Traversal.compile at h
  split at h
  · exact ⟨_, (Except.error.inj h).symm⟩
  · cases h

/-! ## The gate -/

namespace Run

open GraphQuery.Action

variable {es : List Event} {w : Workspace} {g : StoreId} {s : Store} {r : Errand}

/-- The name under which a morphism is stored was accepted as a name. -/
theorem check_of_assigns (h : Run es w) {p : Path} {l : Label} {n : String}
    (hr : r.Assigns w p l n) : Identifier.check n = .ok n := by
  cases hr with
  | own hp hl => exact h.check_name (seen_of_getElem? hp) hl
  | other _ _ hn => exact hn

theorem unsaved?_eq_none (h : Run es w) {i : PathId} {p : Path} (hp : w.paths[i]? = some p) :
    w.unsaved? p = none ↔ w.AllSaved p :=
  Workspace.unsaved?_eq_none fun _ ↦ h.exists_name?_of_mem_followed (seen_of_getElem? hp)

theorem unsaved?_eq_some (h : Run es w) {i : PathId} {p : Path} (hp : w.paths[i]? = some p)
    {m : String} : w.unsaved? p = some m ↔ w.FirstUnsaved p m :=
  Workspace.unsaved?_eq_some fun _ ↦ h.exists_name?_of_mem_followed (seen_of_getElem? hp)

/-- What comes of an errand that nothing is wrong with. -/
theorem run_of_admits (h : Run es w) (g : StoreId) {text : String} (hr : w.Admits r text) :
    ∃ p l, w.unsaved? p = none ∧
      (r.command g).run w = (consult g p (.ok text) >>= r.conclude l).on w := by
  cases hr with
  | @query i p _ hp hf hc hs =>
      refine ⟨p, ⟨"", false⟩, (h.unsaved?_eq_none hp).2 hs, ?_⟩
      rw [Errand.run_find hp hf, hc]
  | @statement _ p l n body ha hc hs =>
      refine ⟨p, l, (h.unsaved?_eq_none ha.getElem?).2 hs, ?_⟩
      rw [Errand.run_of_assigns ha (h.check_of_assigns ha), Path.statement_of_compile_eq_ok hc]

/-- An errand that nothing is wrong with hands over its text. -/
theorem hands_of_admits (h : Run es w) (hg : w.stores[g]? = some s) {text : String}
    (hr : w.Admits r text) : (r.command g).Hands w g text := by
  obtain ⟨p, l, hu, hrun⟩ := h.run_of_admits g hr
  exact Errand.hands_of_run hg hu hrun

/-- An errand that something is wrong with fails with the first such thing and does nothing. -/
theorem run_of_refuses (h : Run es w) {e : Error} (hr : w.Refuses r e) :
    (r.command g).run w = (.error e, w) := by
  cases hr with
  | unfinished hp hf => exact Errand.run_find_of_not_finalized hp hf
  | @broken i p reason hp hf hc =>
      rw [Errand.run_find hp hf ⟨"", false⟩, hc]
      rfl
  | @unsavedInQuery i p text m hp hf hc hm =>
      rw [Errand.run_find hp hf ⟨"", false⟩, hc]
      exact on_bind_of_error (on_consult_of_unsaved ((h.unsaved?_eq_some hp).2 hm)) _
  | name hl hv => exact run_saveAs_of_misnames hl hv
  | @unsavable _ p l n reason ha hc =>
      rw [Errand.run_of_assigns ha (h.check_of_assigns ha), Path.statement_of_compile_eq_error hc]
      rfl
  | @unsavedInBody _ p l n body m ha hc hm =>
      rw [Errand.run_of_assigns ha (h.check_of_assigns ha), Path.statement_of_compile_eq_ok hc]
      exact on_bind_of_error (on_consult_of_unsaved ((h.unsaved?_eq_some ha.getElem?).2 hm)) _

/-- What is to be sent for a morphism, or what is wrong with it, once its new name is accepted. -/
theorem admits_or_refuses_of_assigns (h : Run es w) {p : Path} {l : Label} {n : String}
    (hr : r.Assigns w p l n) : (∃ text, w.Admits r text) ∨ ∃ e, w.Refuses r e := by
  match hc : p.compile with
  | .error e =>
      obtain ⟨reason, rfl⟩ := Path.compile_eq_error hc
      exact .inr ⟨_, .unsavable hr hc⟩
  | .ok body =>
      match hu : w.unsaved? p with
      | none => exact .inl ⟨_, .statement hr hc ((h.unsaved?_eq_none hr.getElem?).1 hu)⟩
      | some m => exact .inr ⟨_, .unsavedInBody hr hc ((h.unsaved?_eq_some hr.getElem?).1 hu)⟩

/-- There is always something to send or something wrong. -/
theorem admits_or_refuses (h : Run es w) (hr : r.Addresses w) :
    (∃ text, w.Admits r text) ∨ ∃ e, w.Refuses r e := by
  cases r with
  | find i =>
      obtain ⟨p, hp⟩ := hr
      match hf : p.isFinalized, hc : p.compile with
      | false, _ => exact .inr ⟨_, .unfinished hp hf⟩
      | true, .error e =>
          obtain ⟨reason, rfl⟩ := Path.compile_eq_error hc
          exact .inr ⟨_, .broken hp hf hc⟩
      | true, .ok text =>
          match hu : w.unsaved? p with
          | none => exact .inl ⟨_, .query hp hf hc ((h.unsaved?_eq_none hp).1 hu)⟩
          | some m => exact .inr ⟨_, .unsavedInQuery hp hf hc ((h.unsaved?_eq_some hp).1 hu)⟩
  | save i =>
      obtain ⟨l, hl⟩ := hr
      obtain ⟨p, hp, hlabel⟩ := Workspace.exists_of_label? hl
      exact h.admits_or_refuses_of_assigns (.own hp hlabel)
  | saveAs i v =>
      obtain ⟨l, hl⟩ := hr
      obtain ⟨p, hp, hlabel⟩ := Workspace.exists_of_label? hl
      obtain ⟨n, rfl, hn⟩ | ⟨e, he⟩ := misnames_or_check (w := w) v
      · exact h.admits_or_refuses_of_assigns (.other hp hlabel hn)
      · exact .inr ⟨e, .name hl he⟩

/-- Without what it is about an errand fails and does nothing. -/
theorem run_of_not_addresses (hr : ¬r.Addresses w) : ∃ e, (r.command g).run w = (.error e, w) := by
  obtain ⟨e, he⟩ := Errand.exists_lookup_eq_error hr
  exact ⟨e, Errand.run_of_lookup_eq_error he⟩

/-- An errand has something to send, or it fails and does nothing. -/
theorem admits_or_run_eq_error (h : Run es w) (g : StoreId) (r : Errand) :
    (∃ text, w.Admits r text) ∨ ∃ e, (r.command g).run w = (.error e, w) := by
  by_cases hr : r.Addresses w
  · rcases h.admits_or_refuses hr with hadmits | ⟨e, hrefuses⟩
    · exact .inl hadmits
    · exact .inr ⟨e, h.run_of_refuses hrefuses⟩
  · exact .inr (run_of_not_addresses hr)

/-- A text that is handed over is that of an errand that nothing is wrong with. -/
theorem admits_of_hands (h : Run es w) {text : String} (hr : (r.command g).Hands w g text) :
    w.Admits r text := by
  rcases h.admits_or_run_eq_error g r with ⟨text', hadmits⟩ | ⟨e, he⟩
  · obtain ⟨s, hg, _⟩ := id hr
    obtain rfl := hr.text_eq (h.hands_of_admits hg hadmits)
    exact hadmits
  · exact absurd (by rw [he]) hr.log_ne

/-- An errand that ends well has handed over its text. -/
theorem exists_hands_of_ok (h : Run es w) {v : Value} (hok : ((r.command g).run w).1 = .ok v) :
    ∃ text, w.Admits r text ∧ (r.command g).Hands w g text := by
  rcases h.admits_or_run_eq_error g r with ⟨text, hadmits⟩ | ⟨e, he⟩
  · cases hg : w.stores[g]? with
    | some s => exact ⟨text, hadmits, h.hands_of_admits hg hadmits⟩
    | none =>
        obtain ⟨p, l, hu, hrun⟩ := h.run_of_admits g hadmits
        rw [hrun, on_bind_of_error (on_consult_of_none hg hu)] at hok
        cases hok
  · rw [he] at hok
    cases hok

/-- The gate of a store.  What nothing is wrong with is sent, once and nothing else; what something
is wrong with fails with the first such thing and is neither sent nor logged; there is no third
case; and building paths sends nothing. -/
theorem send_iff_admits (h : Run es w) (hg : w.stores[g]? = some s) :
    (∀ r text, (r.command g).Hands w g text ↔ w.Admits r text) ∧
    (∀ r e, w.Refuses r e → (r.command g).run w = (.error e, w)) ∧
    (∀ r, r.Addresses w → (∃ text, w.Admits r text) ∨ ∃ e, w.Refuses r e) ∧
    ∀ c : Command, c.isBuilder = true →
      (c.run w).2.stores = w.stores ∧ ∀ g' text, ¬c.Hands w g' text := by
  refine ⟨fun r text ↦ ⟨h.admits_of_hands, h.hands_of_admits hg⟩, fun r e ↦ h.run_of_refuses,
    fun r ↦ h.admits_or_refuses, ?_⟩
  intro c hc
  constructor
  · exact congrArg Prod.fst (Command.dealings_run_of_isBuilder w hc)
  · exact fun g' text ↦ Command.not_hands_of_isBuilder hc

/-- A query for all vertices is sent as it is written. -/
theorem send_iff_admits_of_all :
    let w := (Command.runAll [.connect .default (.recorder [] true),
      .startVertices (.selector (.nodes .any)), .build 0 (.finish .all)] .empty).2
    (∃ s, w.stores[0]? = some s) ∧ (Command.find 0 0).Hands w 0 "g.V().All()" := by
  have hrun := Run.start.append_history [.connect .default (.recorder [] true),
    .startVertices (.selector (.nodes .any)), .build 0 (.finish .all)]
    (by simp [Command.snapshot?, Build.snapshot?])
  refine ⟨⟨_, rfl⟩, ((send_iff_admits hrun rfl).1 (.find 0) _).2 ?_⟩
  refine .query rfl rfl rfl ?_
  intro j hj
  cases hj

end Run

end GraphQuery
