import GraphQuery.Proofs.Effect
import GraphQuery.Session.Call

/-!
# Calls that fail

A builder call looks at its arguments, writes an inner path, warns, and only then extends the path,
and it can fail anywhere on the way.  An action is `Atomic` if it leaves the paths alone whenever it
fails.  A sequence is atomic if all that comes before an atomic part leaves the paths alone, and if
all that comes after one cannot fail; every command is such a sequence
(`Command.paths_run_of_error`), saving included, which may fail when its statement was already sent.

The same then holds of every operation of a path that is called by name, with any arguments of any
number (`Session.paths_of_callPath_eq_error`).
-/

namespace GraphQuery

open Work

namespace Action

open Workspace (paths)

variable {α β : Type}

/-- An action that fails has left all paths alone. -/
def Atomic (x : Action α) : Prop :=
  ∀ (w v : Workspace) (e : Error), x.on w = (.error e, v) → v.paths = w.paths

theorem Atomic.of_keeps {x : Action α} (hx : Keeps paths x) : Atomic x :=
  fun _ _ _ h ↦ hx.state_eq h

theorem Atomic.of_succeeds {x : Action α} (hx : Succeeds x) : Atomic x := by
  intro w v e h
  obtain ⟨a, u, hok⟩ := hx w
  rw [hok] at h
  cases h

/-- Before an atomic part anything may happen that leaves the paths alone. -/
theorem Atomic.bind {x : Action α} {f : α → Action β} (hx : Keeps paths x)
    (hf : ∀ a, Atomic (f a)) : Atomic (x >>= f) := by
  intro w v e h
  match hw : x.on w with
  | (.ok a, u) =>
      rw [on_bind_of_ok hw] at h
      exact (hf a u v e h).trans (hx.state_eq hw)
  | (.error e', u) =>
      rw [on_bind_of_error hw] at h
      cases h
      exact hx.state_eq hw

/-- After an atomic part anything may happen that cannot fail. -/
theorem Atomic.bind_succeeds {x : Action α} {f : α → Action β} (hx : Atomic x)
    (hf : ∀ a, Succeeds (f a)) : Atomic (x >>= f) := by
  intro w v e h
  match hw : x.on w with
  | (.ok a, u) =>
      obtain ⟨b, t, hok⟩ := hf a u
      rw [on_bind_of_ok hw, hok] at h
      cases h
  | (.error e', u) =>
      rw [on_bind_of_error hw] at h
      cases h
      exact hx w v e hw

theorem succeeds_setPath (i : PathId) (p : Path) : Succeeds (setPath i p) := fun _ ↦ ⟨_, _, rfl⟩

theorem succeeds_newPath (p : Path) : Succeeds (newPath p) := fun _ ↦ ⟨_, _, rfl⟩

theorem atomic_build (i : PathId) (call : Build) : Atomic (build i call) :=
  .bind (Keeps.getPath i) fun p ↦ .bind (keepsPaths_extend p call) fun q ↦
    .of_succeeds (succeeds_setPath i q)

theorem atomic_markSaved (i : PathId) : Atomic (markSaved i) :=
  .bind (Keeps.getPath i) fun _ ↦ .of_succeeds (succeeds_setPath i _)

/-- A morphism is marked only once nothing can go wrong any more. -/
theorem atomic_save (g : StoreId) (i : PathId) : Atomic (save g i) := by
  rw [save_eq_submit]
  apply Atomic.bind (Keeps.expectLabel i _)
  intro l
  apply Atomic.bind (keepsPaths_submit g i l _)
  intro _
  exact (atomic_markSaved i).bind_succeeds fun _ ↦ succeeds_note _

end Action

namespace Command

open GraphQuery.Action

theorem atomic_perform (c : Command) : Atomic c.perform := by
  cases c with
  | startVertices nodes =>
      apply Atomic.bind_succeeds (.bind (Keeps.expectChoice _ _) fun _ ↦ ?_) fun _ ↦ succeeds_pure _
      exact .of_succeeds (succeeds_newPath _)
  | startMorphism name =>
      apply Atomic.bind_succeeds (.bind (Keeps.expectName _) fun _ ↦ ?_) fun _ ↦ succeeds_pure _
      exact .of_succeeds (succeeds_newPath _)
  | build i call => exact (atomic_build i call).bind_succeeds fun _ ↦ succeeds_pure _
  | copy i =>
      apply Atomic.bind_succeeds (.bind (Keeps.getPath i) fun _ ↦ ?_) fun _ ↦ succeeds_pure _
      exact .of_succeeds (succeeds_newPath _)
  | markSaved i =>
      apply Atomic.bind ((Keeps.expectLabel i _).bind fun _ ↦ Keeps.pure _)
      intro _
      exact (atomic_markSaved i).bind_succeeds fun _ ↦ succeeds_pure _
  | save g i => exact (atomic_save g i).bind_succeeds fun _ ↦ succeeds_pure _
  | _ => exact .of_keeps (keepsPaths_perform rfl)

/-- A command that fails leaves every path as it was. -/
theorem paths_run_of_error {c : Command} {w : Workspace} {e : Error}
    (h : (c.run w).1 = .error e) : (c.run w).2.paths = w.paths :=
  atomic_perform c w _ e (Prod.ext h rfl)

end Command

namespace Session

open GraphQuery.Action

theorem keeps_expectPathOperation {γ : Type} {view : Workspace → γ} (i : PathId) (name : String)
    (args : List Value) : Keeps view (expectPathOperation i name args) := by
  apply (Keeps.getPath i).bind
  intro p
  split
  · rename_i family signature _
    cases family.admits p.label
    · exact (Keeps.lacks _ _).bind fun _ ↦ Keeps.expectArguments _ _
    · exact Keeps.expectArguments _ _
  · exact Keeps.pure _

theorem atomic_callPath (i : PathId) (name : String) (args : List Value) :
    Atomic (callPath i name args) := by
  apply Atomic.bind (keeps_expectPathOperation i name args)
  intro _
  split
  · exact Command.atomic_perform _
  · exact Command.atomic_perform _
  · exact Command.atomic_perform _
  · exact Command.atomic_perform _
  · exact .of_keeps (Keeps.lacks _ _)

/-- Whatever operation of a path is called and whatever it is given, if the call fails, then this
path and all others are as they were before. -/
theorem paths_of_callPath_eq_error {w v : Workspace} {i : PathId} {name : String}
    {args : List Value} {e : Error} (h : (callPath i name args).on w = (.error e, v)) :
    v.paths = w.paths := atomic_callPath i name args w v e h

end Session

end GraphQuery
