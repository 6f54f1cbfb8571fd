import GraphQuery.Proofs.Heap.CallTree
import GraphQuery.Proofs.Heap.Independence

/-!
# The life of a stored path

The segments of a stored path, its problems, what it follows and whether it is finalized are in
places of their own, and a call writes them one after the other.  They agree all the same, at any
time: the path is finalized exactly if its last segment is written like a terminal call
(`Heap.View.IsOrderly`).  A move puts one segment at the end of a path or leaves it as it was
(`Heap.Passes`), so segments are there to stay, and so is all of a path once it is finalized
(`Heap.life_of_view?`).
-/

namespace GraphQuery

open Work
open Session (buildOf?)

/-- How the segments of a stored path and its flag are at any time. -/
structure View.IsOrderly (v : View) : Prop where
  /-- There are segments, and the first of them is that of a root. -/
  root : ∃ root : Root, v.segments.head? = some root.text
  /-- A path is finalized exactly if its last segment is written like a terminal call. -/
  finalized_iff : v.finalized = true ↔ ∃ s, v.segments.getLast? = some s ∧ IsTerminalText s
  /-- No other segment is written like a terminal call. -/
  inner : ∀ s ∈ v.segments.dropLast, ¬IsTerminalText s
  /-- A morphism is never finalized. -/
  morphism : v.label.isSome = true → v.finalized = false

namespace Heap

variable {h : Heap} {o : PathId} {v v' : View} {m : Move} {ms : List Move}

/-- What is stored is in order, for so are the calls that it stands for. -/
theorem isOrderly_of_view? (hms : ∀ m ∈ ms, m.IsProper)
    (hv : (Move.runAll ms .empty).2.view? o = some v) : v.IsOrderly := by
  obtain ⟨_, _, p, hrun, hp, rfl, -⟩ := exists_path_of_view? hms hv
  have horderly := hrun.isOrderly (Run.seen_of_getElem? hp)
  exact ⟨⟨_, horderly.root⟩, horderly.finalized_iff, horderly.inner, horderly.morphism⟩

/-! ## One move -/

/-- A move is a builder call on a path. -/
def Move.Builds (m : Move) (o : PathId) : Prop :=
  ∃ name args call, m = .call o name args ∧ buildOf? name args = some call

/-- What a move that comes to an outcome makes of a path. -/
inductive Passes (m : Move) (o : PathId) (outcome : Except Error Value) (v : View) : View → Prop
  /-- A builder call that succeeds puts one segment at the end of the path that it is on. -/
  | grows {a : Value} {v' : View} : m.Builds o → outcome = .ok a → v.Grows v' →
      Passes m o outcome v v'
  /-- All else leaves the path as it was. -/
  | stays : (m.Builds o → ∃ e, outcome = .error e) → Passes m o outcome v v
  /-- But for a morphism that is marked. -/
  | marked : ¬m.Builds o → v.label.isSome = true → Passes m o outcome v v.markSaved

theorem Move.not_builds_of_ne {i : PathId} {name : String} {args : List Value} (hi : i ≠ o) :
    ¬(Move.call i name args).Builds o := by
  rintro ⟨_, _, _, hcall, -⟩
  exact hi (Move.call.inj hcall).1

/-- What asks something of a path is no builder call. -/
theorem buildOf?_of_inspectionOf? {name : String} {args : List Value} {question : Inspection}
    (h : Session.inspectionOf? name args = some question) : buildOf? name args = none := by
  unfold Session.inspectionOf? at h
  split at h <;> first | rfl | cases h

/-- Every move passes for every path. -/
theorem exists_passes (hs : h.Sound) (hv : h.view? o = some v) (m : Move) :
    ∃ v', (m.run h).2.view? o = some v' ∧ Passes m o (m.run h).1 v v' := by
  have hlt := lt_of_view? hv
  have heffect := effect_run hs m
  generalize m.run h = r at heffect
  cases heffect with
  | failed hsilent =>
      exact ⟨v, (congrFun (view?_of_silent hsilent) o).trans hv, .stays fun _ ↦ ⟨_, rfl⟩⟩
  | vertices _ =>
      refine ⟨v, (view?_adding hs _ (Nat.ne_of_lt hlt)).trans hv, .stays ?_⟩
      rintro ⟨_, _, _, hcall, -⟩
      cases hcall
  | morphism _ =>
      refine ⟨v, (view?_adding hs _ (Nat.ne_of_lt hlt)).trans hv, .stays ?_⟩
      rintro ⟨_, _, _, hcall, -⟩
      cases hcall
  | @built i _ _ _ _ _ u u' hcall hsilent hu hbecomes hgrows =>
      by_cases hi : i = o
      · subst hi
        obtain rfl := Option.some.inj (hv.symm.trans hu)
        exact ⟨u', hbecomes.here, .grows ⟨_, _, _, rfl, hcall⟩ rfl hgrows⟩
      · refine ⟨v, ?_, .stays fun hbuilds ↦ absurd hbuilds (Move.not_builds_of_ne hi)⟩
        exact (hbecomes.elsewhere o (Ne.symm hi)).trans
          ((congrFun (view?_of_silent hsilent) o).trans hv)
  | asked hquestion =>
      refine ⟨v, hv, .stays ?_⟩
      rintro ⟨_, _, _, hcall, hbuild⟩
      cases hcall
      rw [buildOf?_of_inspectionOf? hquestion] at hbuild
      cases hbuild
  | copied _ =>
      refine ⟨v, (view?_adding hs _ (Nat.ne_of_lt hlt)).trans hv, .stays ?_⟩
      rintro ⟨_, _, _, hcall, hbuild⟩
      cases hcall
      cases hbuild
  | @marked i _ _ u hu hlabel hbecomes =>
      by_cases hi : i = o
      · subst hi
        obtain rfl := Option.some.inj (hv.symm.trans hu)
        refine ⟨_, hbecomes.here, .marked ?_ hlabel⟩
        rintro ⟨_, _, _, hcall, hbuild⟩
        cases hcall
        cases hbuild
      · exact ⟨v, (hbecomes.elsewhere o (Ne.symm hi)).trans hv,
          .stays fun hbuilds ↦ absurd hbuilds (Move.not_builds_of_ne hi)⟩

namespace Passes

variable {outcome : Except Error Value}

theorem prefix_segments (hp : Passes m o outcome v v') : v.segments <+: v'.segments := by
  cases hp with
  | grows _ _ hgrows =>
      obtain ⟨s, hs⟩ := hgrows.segments
      exact hs ▸ List.prefix_append _ _
  | stays _ => exact List.prefix_refl _
  | marked _ _ => exact List.prefix_refl _

/-- A query that is finalized stays as it is, and it refuses every builder call. -/
theorem of_finalized (hp : Passes m o outcome v v') (hfinal : v.finalized = true)
    (hquery : v.label.isSome = false) :
    v' = v ∧ (m.Builds o → ∃ e, outcome = .error e) := by
  cases hp with
  | grows _ _ hgrows =>
      rw [hgrows.isOpen] at hfinal
      cases hfinal
  | stays hfails => exact ⟨rfl, hfails⟩
  | marked _ hlabel =>
      rw [hlabel] at hquery
      cases hquery

end Passes

/-! ## All moves -/

/-- Segments are there to stay, and a finalized query is. -/
theorem exists_later_view? (hs : h.Sound) (hv : h.view? o = some v) (ms : List Move) :
    ∃ v', (Move.runAll ms h).2.view? o = some v' ∧ v.segments <+: v'.segments ∧
      (v.finalized = true → v.label.isSome = false → v' = v) := by
  induction ms generalizing h v with
  | nil => exact ⟨v, hv, List.prefix_refl _, fun _ _ ↦ rfl⟩
  | cons m ms ih =>
      obtain ⟨u, hu, hpasses⟩ := exists_passes hs hv m
      obtain ⟨v', hv', hprefix, hstays⟩ := ih ((effect_run hs m).sound hs) hu
      refine ⟨v', hv', hpasses.prefix_segments.trans hprefix, fun hfinal hquery ↦ ?_⟩
      obtain ⟨rfl, -⟩ := hpasses.of_finalized hfinal hquery
      exact hstays hfinal hquery

/-- The life of a stored path.  At any time it is in order; whatever move comes next passes for it;
whatever moves come later, its segments stay; and once it is finalized all of it does, it refuses
every builder call, and a copy of it is finalized too. -/
theorem life_of_view? (hms : ∀ m ∈ ms, m.IsProper)
    (hv : (Move.runAll ms .empty).2.view? o = some v) :
    let h := (Move.runAll ms .empty).2
    v.IsOrderly ∧
    (∀ m : Move, ∃ v', (m.run h).2.view? o = some v' ∧ Passes m o (m.run h).1 v v') ∧
    (∀ ms', ∃ v', (Move.runAll ms' h).2.view? o = some v' ∧ v.segments <+: v'.segments ∧
      (v.finalized = true → v' = v)) ∧
    (v.finalized = true → ∀ m : Move, m.Builds o → ∃ e, (m.run h).1 = .error e) ∧
    ∃ n, ((callPath o "copy" []).on h).1 = .ok (.path n) ∧
      ((callPath o "copy" []).on h).2.view? n = some v := by
  intro h
  have hs : h.Sound := sound_empty.runAll ms
  have horderly := isOrderly_of_view? hms hv
  have hquery (hfinal : v.finalized = true) : v.label.isSome = false := by
    by_contra hlabel
    rw [horderly.morphism (eq_true_of_ne_false hlabel)] at hfinal
    cases hfinal
  refine ⟨horderly, exists_passes hs hv, fun ms' ↦ ?_, fun hfinal m hbuilds ↦ ?_, ?_⟩
  · obtain ⟨v', hv', hprefix, hstays⟩ := exists_later_view? hs hv ms'
    exact ⟨v', hv', hprefix, fun hfinal ↦ hstays hfinal (hquery hfinal)⟩
  · obtain ⟨v', _, hpasses⟩ := exists_passes hs hv m
    exact (hpasses.of_finalized hfinal (hquery hfinal)).2 hbuilds
  · have hcopied := on_callPath_copy hs hv
    rw [hcopied]
    exact ⟨_, rfl, view?_adding_size h v⟩

end Heap

end GraphQuery
