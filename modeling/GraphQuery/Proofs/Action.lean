import GraphQuery.Workspace.Command

/-!
# How actions run

Work takes a state to an outcome and the state after it.  This file says how the sequencing of work
and the primitives of actions run, and what they leave alone:

* `on_bind_eq_ok` opens a sequence that came to a result;
* `Keeps view x` says that `x` does not change what `view` sees of a workspace, and it holds of a
  sequence as soon as it holds of its parts;
* `Matches R Q x y` says that `x` and `y`, on states of two sorts, go the same way side by side;
* an action is `Quiet` if it changes nothing but the log, and it `OnlyWarns` if all that it adds to
  the log are warnings.

All that builder calls do before they write their path back is to warn.
-/

namespace GraphQuery

/-! ## Work -/

namespace Work

variable {σ α β γ : Type}

/-- What work makes of a state. -/
def on (x : Work σ α) (w : σ) : Except Error α × σ := x.run w

@[simp] theorem on_pure (a : α) (w : σ) : (pure a : Work σ α).on w = (.ok a, w) := rfl

@[simp] theorem on_throw (e : Error) (w : σ) :
    (throw e : Work σ α).on w = (.error e, w) := rfl

@[simp] theorem on_get (w : σ) : (get : Work σ σ).on w = (.ok w, w) := rfl

/-- A sequence runs its first part, and the second one only on a result of the first. -/
theorem on_bind (x : Work σ α) (f : α → Work σ β) (w : σ) :
    (x >>= f).on w = match x.on w with
      | (.ok a, v) => (f a).on v
      | (.error e, v) => (.error e, v) := by
  change (match x.run w with | (outcome, v) => ExceptT.bindCont f outcome v) = _
  unfold on
  obtain ⟨a | a, v⟩ := x.run w <;> rfl

theorem on_bind_of_ok {x : Work σ α} {w v : σ} {a : α} (h : x.on w = (.ok a, v))
    (f : α → Work σ β) : (x >>= f).on w = (f a).on v := by
  rw [on_bind, h]

theorem on_bind_of_error {x : Work σ α} {w v : σ} {e : Error} (h : x.on w = (.error e, v))
    (f : α → Work σ β) : (x >>= f).on w = (.error e, v) := by
  rw [on_bind, h]

/-- A sequence comes to a result if both of its parts do. -/
theorem on_bind_eq_ok {x : Work σ α} {f : α → Work σ β} {w v : σ} {b : β} :
    (x >>= f).on w = (.ok b, v) ↔ ∃ a u, x.on w = (.ok a, u) ∧ (f a).on u = (.ok b, v) := by
  rw [on_bind]
  constructor
  · intro h
    match hx : x.on w with
    | (.ok a, u) => exact ⟨a, u, rfl, by simpa only [hx] using h⟩
    | (.error e, u) => simp [hx] at h
  · rintro ⟨a, u, hx, hf⟩
    rw [hx]
    exact hf

/-- Whatever holds after the first part fails, and after the second part otherwise, holds after a
sequence. -/
theorem after_bind {x : Work σ α} {f : α → Work σ β} {w : σ} {P : σ → Prop}
    (herror : ∀ e v, x.on w = (.error e, v) → P v)
    (hok : ∀ a v, x.on w = (.ok a, v) → P ((f a).on v).2) : P ((x >>= f).on w).2 := by
  rw [on_bind]
  match h : x.on w with
  | (.ok a, v) => exact hok a v h
  | (.error e, v) => exact herror e v h

/-- Handing a result on changes nothing else. -/
theorem on_bind_pure (x : Work σ α) (f : α → β) (w : σ) :
    (x >>= fun a ↦ pure (f a)).on w = ((x.on w).1.map f, (x.on w).2) := by
  rw [on_bind]
  match x.on w with
  | (.ok _, _) => rfl
  | (.error _, _) => rfl

theorem after_bind_pure (x : Work σ α) (f : α → β) (w : σ) :
    ((x >>= fun a ↦ pure (f a)).on w).2 = (x.on w).2 :=
  congrArg Prod.snd (on_bind_pure x f w)

/-- What fails with its result dropped fails as it is. -/
theorem on_eq_error_of_discard {x : Work σ α} {w v : σ} {e : Error}
    (h : (discard x).on w = (.error e, v)) : x.on w = (.error e, v) := by
  change (x >>= fun _ ↦ pure ()).on w = _ at h
  rw [on_bind] at h
  match hx : x.on w with
  | (.ok a, u) =>
      rw [hx] at h
      cases h
  | (.error e', u) =>
      rw [hx] at h
      cases h
      rfl

@[simp] theorem on_ofResult_ok (a : α) (w : σ) :
    (ofResult (.ok a) : Work σ α).on w = (.ok a, w) := rfl

theorem on_ofResult (r : Except Error α) (w : σ) : (ofResult r : Work σ α).on w = (r, w) := by
  cases r <;> rfl

theorem on_ofOption (e : Error) (r : Option α) (w : σ) :
    (ofOption e r : Work σ α).on w = (r.elim (.error e) .ok, w) := by
  cases r <;> rfl

/-- An option that must be there comes to a result only if it is there. -/
theorem on_ofOption_eq_ok {e : Error} {r : Option α} {w v : σ} {a : α} :
    (ofOption e r).on w = (.ok a, v) ↔ r = some a ∧ v = w := by
  cases r <;> simp [on_ofOption, eq_comm]

/-- An error is handed to what handles it, with the state that it left. -/
theorem on_tryCatch (x : Work σ α) (f : Error → Work σ α) (w : σ) :
    (tryCatch x f).on w = match x.on w with
      | (.ok a, v) => (.ok a, v)
      | (.error e, v) => (f e).on v := by
  have hon : x w = x.on w := rfl
  change (ExceptT.tryCatch x f : StateM σ (Except Error α)) w = _
  unfold ExceptT.tryCatch ExceptT.mk
  simp only [bind, StateT.bind, hon]
  match x.on w with
  | (.ok a, v) => rfl
  | (.error e, v) => rfl

/-! ### What work leaves alone -/

/-- Work does not change what a view sees of a state. -/
def Keeps (view : σ → γ) (x : Work σ α) : Prop := ∀ w, view (x.on w).2 = view w

namespace Keeps

variable {view : σ → γ}

theorem pure (a : α) : Keeps view (Pure.pure a : Work σ α) := fun _ ↦ rfl

theorem throw (e : Error) : Keeps view (MonadExcept.throw e : Work σ α) := fun _ ↦ rfl

theorem get : Keeps view (MonadState.get : Work σ σ) := fun _ ↦ rfl

theorem bind {x : Work σ α} {f : α → Work σ β} (hx : Keeps view x) (hf : ∀ a, Keeps view (f a)) :
    Keeps view (x >>= f) := by
  intro w
  have hw := hx w
  rw [on_bind]
  match h : x.on w with
  | (.ok a, v) =>
      rw [h] at hw
      exact (hf a v).trans hw
  | (.error e, v) =>
      rw [h] at hw
      exact hw

theorem tryCatch {x : Work σ α} {f : Error → Work σ α} (hx : Keeps view x)
    (hf : ∀ e, Keeps view (f e)) : Keeps view (MonadExcept.tryCatch x f) := by
  intro w
  have hw := hx w
  rw [on_tryCatch]
  match h : x.on w with
  | (.ok a, v) =>
      rw [h] at hw
      exact hw
  | (.error e, v) =>
      rw [h] at hw
      exact (hf e v).trans hw

theorem ofResult (r : Except Error α) : Keeps view (Work.ofResult r : Work σ α) := by
  cases r
  · exact throw _
  · exact pure _

theorem ofOption (e : Error) (r : Option α) : Keeps view (Work.ofOption e r : Work σ α) := by
  cases r
  · exact throw _
  · exact pure _

theorem expectNone (fault : Option Fault) : Keeps view (Work.expectNone fault : Work σ Unit) := by
  cases fault
  · exact pure _
  · exact throw _

theorem expectArguments (s : Signature) (args : List Value) :
    Keeps view (Work.expectArguments s args : Work σ Unit) := expectNone _

theorem forM {x : β → Work σ Unit} (hx : ∀ b, Keeps view (x b)) (l : List β) :
    Keeps view (l.forM x) := by
  induction l with
  | nil => exact pure _
  | cons b l ih =>
      exact (hx b).bind fun _ ↦ ih

end Keeps

theorem Keeps.state_eq {view : σ → γ} {x : Work σ α} (hx : Keeps view x) {w v : σ}
    {r : Except Error α} (h : x.on w = (r, v)) : view v = view w := by
  have hw := hx w
  rwa [h] at hw

theorem Keeps.eq_of_on {x : Work σ α} (hx : Keeps id x) {w v : σ} {r : Except Error α}
    (h : x.on w = (r, v)) : v = w := hx.state_eq h

/-- Work that keeps a part of the state keeps every view that sees that part only. -/
theorem Keeps.of_part {part : σ → σ} {x : Work σ α} (hx : Keeps part x)
    {view : σ → γ} (hview : ∀ w, view (part w) = view w) : Keeps view x := by
  intro w
  rw [← hview (x.on w).2, hx w, hview]

/-! ### Work that cannot fail -/

/-- Work comes to a result, whatever the state. -/
def Succeeds (x : Work σ α) : Prop := ∀ w, ∃ a v, x.on w = (.ok a, v)

theorem succeeds_pure (a : α) : Succeeds (pure a : Work σ α) := fun w ↦ ⟨a, w, rfl⟩

/-! ### Work on two states -/

variable {τ : Type}

/-- Two outcomes are the same error, or results that have to do with each other. -/
inductive Ends (Q : α → β → Prop) : Except Error α → Except Error β → Prop
  | ok {a : α} {b : β} : Q a b → Ends Q (.ok a) (.ok b)
  | error (e : Error) : Ends Q (.error e) (.error e)

theorem Ends.eq {r r' : Except Error α} (h : Ends Eq r r') : r = r' := by
  cases h with
  | ok h => rw [h]
  | error e => rfl

theorem Ends.of_eq {Q : α → α → Prop} {r : Except Error α} (h : ∀ a, Q a a) : Ends Q r r := by
  cases r with
  | ok a => exact .ok (h a)
  | error e => exact .error e

/-- From states that have to do with each other in one way, two pieces of work come to outcomes that
have to do with each other, and to states that do so in another way. -/
def Leads (R R' : σ → τ → Prop) (Q : α → β → Prop) (x : Work σ α) (y : Work τ β) : Prop :=
  ∀ s t, R s t → Ends Q (x.on s).1 (y.on t).1 ∧ R' (x.on s).2 (y.on t).2

/-- From states that have to do with each other, two pieces of work come to outcomes that do so, and
so do the states after them. -/
def Matches (R : σ → τ → Prop) : (α → β → Prop) → Work σ α → Work τ β → Prop := Leads R R

namespace Leads

variable {δ : Type} {R R' : σ → τ → Prop} {Q : α → β → Prop} {P : γ → δ → Prop}
  {x : Work σ α} {y : Work τ β}

/-- What is done at first keeps the states as they are, whatever comes of it. -/
theorem bind {f : α → Work σ γ} {g : β → Work τ δ} (h : ∀ s t, R s t → R' s t)
    (hx : Matches R Q x y) (hf : ∀ a b, Q a b → Leads R R' P (f a) (g b)) :
    Leads R R' P (x >>= f) (y >>= g) := by
  intro s t hst
  obtain ⟨hends, hafter⟩ := hx s t hst
  match hs : x.on s, ht : y.on t with
  | (r, s'), (r', t') =>
      rw [hs, ht] at hends hafter
      cases hends with
      | ok hab =>
          rw [on_bind_of_ok hs, on_bind_of_ok ht]
          exact hf _ _ hab s' t' hafter
      | error e =>
          rw [on_bind_of_error hs, on_bind_of_error ht]
          exact ⟨.error e, h _ _ hafter⟩

/-- A result is handed on at last. -/
theorem bind_pure (hx : Leads R R' Q x y) {f : α → γ} {g : β → δ}
    (hfg : ∀ a b, Q a b → P (f a) (g b)) :
    Leads R R' P (x >>= fun a ↦ pure (f a)) (y >>= fun b ↦ pure (g b)) := by
  intro s t hst
  obtain ⟨hends, hafter⟩ := hx s t hst
  rw [on_bind_pure, on_bind_pure]
  refine ⟨?_, hafter⟩
  generalize (x.on s).1 = r, (y.on t).1 = r' at hends
  cases hends with
  | ok hab => exact .ok (hfg _ _ hab)
  | error e => exact .error e

theorem of_matches (h : ∀ s t, R s t → R' s t) (hxy : Matches R Q x y) : Leads R R' Q x y :=
  fun s t hst ↦ ⟨(hxy s t hst).1, h _ _ (hxy s t hst).2⟩

end Leads

namespace Matches

variable {δ : Type} {R : σ → τ → Prop} {Q Q' : α → β → Prop} {P : γ → δ → Prop}

theorem mono {x : Work σ α} {y : Work τ β} (hxy : Matches R Q x y) (h : ∀ a b, Q a b → Q' a b) :
    Matches R Q' x y := by
  intro s t hst
  obtain ⟨hends, hafter⟩ := hxy s t hst
  refine ⟨?_, hafter⟩
  generalize (x.on s).1 = r, (y.on t).1 = r' at hends
  cases hends with
  | ok hab => exact .ok (h _ _ hab)
  | error e => exact .error e

theorem pure {a : α} {b : β} (h : Q a b) :
    Matches R Q (Pure.pure a : Work σ α) (Pure.pure b : Work τ β) :=
  fun _ _ hst ↦ ⟨.ok h, hst⟩

theorem throw (e : Error) :
    Matches R Q (MonadExcept.throw e : Work σ α) (MonadExcept.throw e : Work τ β) :=
  fun _ _ hst ↦ ⟨.error e, hst⟩

theorem bind {x : Work σ α} {y : Work τ β} {f : α → Work σ γ} {g : β → Work τ δ}
    (hx : Matches R Q x y) (hf : ∀ a b, Q a b → Matches R P (f a) (g b)) :
    Matches R P (x >>= f) (y >>= g) := Leads.bind (fun _ _ hst ↦ hst) hx hf

/-- A sequence whose first parts come to the same. -/
theorem bind_eq {x : Work σ α} {y : Work τ α} {f : α → Work σ γ} {g : α → Work τ δ}
    (hx : Matches R Eq x y) (hf : ∀ a, Matches R P (f a) (g a)) :
    Matches R P (x >>= f) (y >>= g) := by
  refine hx.bind fun a b hab ↦ ?_
  subst hab
  exact hf a

theorem get_bind {f : σ → Work σ α} {g : τ → Work τ β}
    (hf : ∀ s t, R s t → Matches R Q (f s) (g t)) :
    Matches R Q (MonadState.get >>= f) (MonadState.get >>= g) :=
  fun s t hst ↦ hf s t hst s t hst

theorem tryCatch {x : Work σ α} {y : Work τ β} {f : Error → Work σ α} {g : Error → Work τ β}
    (hx : Matches R Q x y) (hf : ∀ e, Matches R Q (f e) (g e)) :
    Matches R Q (MonadExcept.tryCatch x f) (MonadExcept.tryCatch y g) := by
  intro s t hst
  obtain ⟨hends, hafter⟩ := hx s t hst
  rw [on_tryCatch, on_tryCatch]
  match hs : x.on s, ht : y.on t with
  | (r, s'), (r', t') =>
      rw [hs, ht] at hends hafter
      cases hends with
      | ok hab => exact ⟨.ok hab, hafter⟩
      | error e => exact hf e s' t' hafter

theorem ofResult (r : Except Error α) :
    Matches R Eq (Work.ofResult r : Work σ α) (Work.ofResult r : Work τ α) := by
  cases r
  · exact throw _
  · exact pure rfl

theorem ofOption (e : Error) (r : Option α) :
    Matches R Eq (Work.ofOption e r : Work σ α) (Work.ofOption e r : Work τ α) := by
  cases r
  · exact throw _
  · exact pure rfl

theorem expectNone (fault : Option Fault) :
    Matches R Eq (Work.expectNone fault : Work σ Unit) (Work.expectNone fault : Work τ Unit) := by
  cases fault
  · exact pure rfl
  · exact throw _

theorem expectArguments (s : Signature) (args : List Value) :
    Matches R Eq (Work.expectArguments s args : Work σ Unit)
      (Work.expectArguments s args : Work τ Unit) := expectNone _

end Matches

end Work

open Work

/-! ## Actions -/

/-- A workspace without its log. -/
def Workspace.silent (w : Workspace) : Workspace := { w with log := [] }

/-- A workspace without the warnings in its log. -/
def Workspace.unwarned (w : Workspace) : Workspace :=
  { w with log := w.log.filter fun entry ↦ entry.level ≠ .warning }

/-- What a workspace tells of its stores: how they are, and what was logged of them. -/
def Workspace.dealings (w : Workspace) : Array Store × List LogEntry := (w.stores, w.unwarned.log)

theorem Workspace.dealings_unwarned (w : Workspace) : w.unwarned.dealings = w.dealings := by
  simp [dealings, unwarned]

namespace Value

/-- Plain data can be shown unless there is an integer with too many digits in it. -/
theorem displayFault?_plain {p : Plain} (h : p.isOverlong = false) :
    (plain p).displayFault? = Option.none := by
  rw [displayFault?, h]
  rfl

theorem displayFault?_of_isOverlong {p : Plain} (h : p.isOverlong = true) :
    (plain p).displayFault? = some .overlong := by
  rw [displayFault?, h]
  rfl

theorem isOverlong_eq_false {p : Plain} (h : (plain p).displayFault? = Option.none) :
    p.isOverlong = false := by
  cases hlong : p.isOverlong with
  | false => rfl
  | true => cases (displayFault?_of_isOverlong hlong).symm.trans h

end Value

namespace Action

variable {α β γ : Type}

@[simp] theorem on_note (entry : LogEntry) (w : Workspace) :
    (note entry).on w = (.ok (), { w with log := w.log ++ [entry] }) := rfl

@[simp] theorem on_setPath (i : PathId) (p : Path) (w : Workspace) :
    (setPath i p).on w = (.ok (), { w with paths := w.paths.setIfInBounds i p }) := rfl

@[simp] theorem on_setStore (i : StoreId) (s : Store) (w : Workspace) :
    (setStore i s).on w = (.ok (), { w with stores := w.stores.setIfInBounds i s }) := rfl

theorem on_getPath (i : PathId) (w : Workspace) :
    (getPath i).on w = (w.paths[i]?.elim (.error .noObject) .ok, w) := by
  rw [getPath, on_bind, on_get]
  exact on_ofOption _ _ _

theorem on_getPath_of_some {i : PathId} {w : Workspace} {p : Path} (h : w.paths[i]? = some p) :
    (getPath i).on w = (.ok p, w) := by
  rw [on_getPath, h]
  rfl

theorem on_getPath_eq_ok {i : PathId} {w v : Workspace} {p : Path} :
    (getPath i).on w = (.ok p, v) ↔ w.paths[i]? = some p ∧ v = w := by
  rw [on_getPath]
  cases w.paths[i]? <;> simp [eq_comm]

theorem on_getStore_of_some {i : StoreId} {w : Workspace} {s : Store} (h : w.stores[i]? = some s) :
    (getStore i).on w = (.ok s, w) := by
  rw [getStore, on_bind, on_get]
  exact (on_ofOption _ _ _).trans (by rw [h]; rfl)

theorem on_getStore_of_none {i : StoreId} {w : Workspace} (h : w.stores[i]? = none) :
    (getStore i).on w = (.error .noObject, w) := by
  rw [getStore, on_bind_of_ok (on_get w), h]
  rfl

theorem on_display_of_none {w : Workspace} {v : Value} (h : v.displayFault? = none) :
    (display v).on w = (.ok (w.display v), w) := by
  rw [display, h]
  rfl

theorem on_display_of_some {w : Workspace} {v : Value} {f : Fault}
    (h : v.displayFault? = some f) :
    (display v).on w = (.error (.fault f), w) := by
  rw [display, h]
  rfl

theorem displayFault?_eq_none {w u : Workspace} {v : Value} {shown : String}
    (h : (display v).on w = (.ok shown, u)) : v.displayFault? = none := by
  cases hf : v.displayFault? with
  | none => rfl
  | some f =>
      rw [on_display_of_some hf] at h
      cases h

/-- Notes are taken one after the other. -/
theorem on_forM_note (entries : List LogEntry) (w : Workspace) :
    (entries.forM note).on w = (.ok (), { w with log := w.log ++ entries }) := by
  induction entries generalizing w with
  | nil => simp
  | cons entry entries ih =>
      change (note entry >>= fun _ ↦ entries.forM note).on w = _
      rw [on_bind_of_ok (on_note entry w), ih]
      simp

end Action

open GraphQuery.Action

/-! ### What actions leave alone -/

namespace Work.Keeps

variable {α γ : Type} {view : Workspace → γ}

theorem getPath (i : PathId) : Keeps view (Action.getPath i) := get.bind fun _ ↦ ofOption _ _

theorem getStore (i : StoreId) : Keeps view (Action.getStore i) := get.bind fun _ ↦ ofOption _ _

theorem getLink (i : LinkId) : Keeps view (Action.getLink i) := get.bind fun _ ↦ ofOption _ _

theorem display (v : Value) : Keeps view (Action.display v) :=
  (expectNone _).bind fun _ ↦ get.bind fun _ ↦ pure _

theorem inText (v : Value) : Keeps view (Action.inText v) :=
  (expectNone _).bind fun _ ↦ get.bind fun _ ↦ pure _

theorem lacks (v : Value) (operation : String) : Keeps view (Action.lacks v operation : Action α) :=
  get.bind fun _ ↦ throw _

/-- Work with something to do after it keeps a view if both do. -/
theorem closingAfter {work : Action α} {close : Action Unit} (hwork : Keeps view work)
    (hclose : Keeps view close) : Keeps view (Action.closingAfter work close) := by
  have hlift : Keeps view (ExceptT.lift work.run : Action (Except Error α)) := hwork
  exact hlift.bind fun outcome ↦ hclose.bind fun _ ↦ ofResult outcome

end Work.Keeps

namespace Action

variable {α β : Type}

/-- An action changes nothing but the log. -/
abbrev Quiet (x : Action α) : Prop := Keeps Workspace.silent x

/-- An action changes nothing, but it may warn. -/
abbrev OnlyWarns (x : Action α) : Prop := Keeps Workspace.unwarned x

theorem quiet_note (entry : LogEntry) : Quiet (note entry) := fun _ ↦ rfl

theorem onlyWarns_note (text : String) : OnlyWarns (note ⟨.warning, text⟩) := by
  intro w
  simp [Workspace.unwarned]

theorem succeeds_note (entry : LogEntry) : Succeeds (note entry) := fun _ ↦ ⟨_, _, rfl⟩

/-! ### What is logged stays logged -/

/-- An action never takes anything out of the log. -/
def Grows (x : Action α) : Prop := ∀ w, w.log <+: (x.on w).2.log

theorem Grows.of_keeps {x : Action α} (h : Keeps Workspace.log x) : Grows x :=
  fun w ↦ (h w).symm ▸ List.prefix_refl _

theorem grows_note (entry : LogEntry) : Grows (note entry) := fun _ ↦ List.prefix_append _ _

theorem Grows.bind {x : Action α} {f : α → Action β} (hx : Grows x)
    (hf : ∀ a, Grows (f a)) : Grows (x >>= f) := by
  intro w
  have hw := hx w
  rw [on_bind]
  match h : x.on w with
  | (.ok a, v) =>
      rw [h] at hw
      exact hw.trans (hf a v)
  | (.error e, v) =>
      rw [h] at hw
      exact hw

end Action

end GraphQuery
