import Mathlib.Logic.Relation
import GraphQuery.Proofs.Gate

/-!
# What is behind the morphisms that a path follows

A path takes in what a morphism follows at the moment when it follows the morphism, and the gate of
a store looks at that list only.  The list is complete as long as no morphism is extended after it
was followed (`Run.followedBy_subset`).  A morphism that is extended late hides what it follows from
then on, and this is the only way in which a query can get past a morphism that was not saved:

* `Run.behind_unsaved_iff`: what is sent has an unsaved morphism behind it exactly if it follows a
  morphism that was extended late and has an unsaved one behind it;
* `Run.not_forall_behind_saved`: this does happen.
-/

namespace GraphQuery

namespace Workspace

/-- One or more steps from a path to the morphisms that it follows, those that these follow, and so
on, all at this moment. -/
def Behind (w : Workspace) : PathId → PathId → Prop :=
  Relation.TransGen fun i j ↦ j ∈ w.followedBy i

/-- Some path follows the morphism. -/
def IsFollowed (w : Workspace) (m : PathId) : Prop :=
  ∃ (i : PathId) (p : Path), w.paths[i]? = some p ∧ m ∈ p.followed

end Workspace

/-- What a morphism follows was changed when some path followed it already. -/
def ExtendedLate (es : List Event) (m : PathId) : Prop :=
  ∃ e ∈ es, e.before.IsFollowed m ∧ e.after.followedBy m ≠ e.before.followedBy m

theorem ExtendedLate.append_left {es : List Event} {m : PathId} (h : ExtendedLate es m)
    (es' : List Event) : ExtendedLate (es ++ es') m := by
  obtain ⟨e, he, hfollowed, hne⟩ := h
  exact ⟨e, List.mem_append_left _ he, hfollowed, hne⟩

theorem subset_absorb_left (old new : List PathId) : old ⊆ absorb old new :=
  fun _ h ↦ mem_absorb.2 (.inl h)

theorem subset_absorb_right (old new : List PathId) : new ⊆ absorb old new :=
  fun _ h ↦ mem_absorb.2 (.inr h)

namespace Command

variable {w : Workspace} {c : Command} {i : PathId} {p q : Path}

/-- No command makes a path follow less. -/
theorem Origin.followed_subset (h : Origin w c i q) (hp : w.paths[i]? = some p) :
    p.followed ⊆ q.followed := by
  rcases h.of_getElem? hp with rfl | ⟨_, _, _, _, _, _, rfl⟩ | ⟨_, _, _, rfl⟩
  · exact List.Subset.refl _
  · exact subset_absorb_left _ _
  · exact List.Subset.refl _

/-- A path that follows a morphism takes in all that the morphism follows, itself included if it is
the morphism. -/
theorem followedBy_subset_of_follow {j : PathId} {other : Path} {direction : Direction}
    {next : Traversal} {old : List PathId} {label : Option Label}
    (hc : c = .build i (.follow direction (.path j)))
    (hi : (c.run w).2.paths[i]? = some ⟨next, absorb old (j :: other.followed), label⟩)
    (hj : w.paths[j]? = some other) :
    (c.run w).2.followedBy j ⊆ absorb old (j :: other.followed) := by
  by_cases hself : j = i
  · subst hself
    rw [Workspace.followedBy_of_getElem? hi]
    exact List.Subset.refl _
  · obtain ⟨r, hr, horigin⟩ := exists_of_getElem? (c := c) hj
    have hsame : r.followed = other.followed := by
      rcases horigin.of_getElem? hj with rfl | ⟨_, _, _, hcall, _⟩ | ⟨_, _, _, rfl⟩
      · rfl
      · rw [hc, Command.build.injEq] at hcall
        exact absurd hcall.1.symm hself
      · rfl
    rw [Workspace.followedBy_of_getElem? hr, hsame]
    exact fun k hk ↦ mem_absorb.2 (.inr (List.mem_cons_of_mem _ hk))

/-- What is followed stays followed. -/
theorem isFollowed_run {m : PathId} (h : w.IsFollowed m) : (c.run w).2.IsFollowed m := by
  obtain ⟨i, p, hp, hm⟩ := h
  obtain ⟨q, hq, horigin⟩ := exists_of_getElem? (c := c) hp
  exact ⟨i, q, hq, horigin.followed_subset hp hm⟩

end Command

namespace Run

variable {es : List Event} {w : Workspace} {p : Path} {m : PathId}

/-- What a snapshot follows is also followed by a path that is still there. -/
theorem isFollowed_of_seen (h : Run es w) (hp : Seen es w p) (hm : m ∈ p.followed) :
    w.IsFollowed m := by
  induction h generalizing p with
  | start => simp [Seen, Workspace.empty] at hp
  | @step es w c _ _ ih =>
      rcases hp with ⟨i, hi⟩ | ⟨e, he, i, hi⟩
      · exact ⟨i, p, hi, hm⟩
      · rcases List.mem_append.1 he with he | he
        · exact Command.isFollowed_run (ih (.inr ⟨e, he, i, hi⟩) hm)
        · obtain rfl := List.mem_singleton.1 he
          exact Command.isFollowed_run ⟨i, p, hi, hm⟩

/-- A path follows all that a morphism follows which it follows, unless the morphism was extended
late. -/
theorem followedBy_subset (h : Run es w) (hp : Seen es w p) (hm : m ∈ p.followed)
    (hlate : ¬ExtendedLate es m) : w.followedBy m ⊆ p.followed := by
  induction h generalizing p m with
  | start => simp [Seen, Workspace.empty] at hp
  | @step es w c hrun hsnapshot ih =>
      have hearlier : ¬ExtendedLate es m := fun hm ↦ hlate (hm.append_left _)
      -- Nothing changes for a path of the workspace before the command, and none for a snapshot.
      have hkept {q : Path} (hq : Seen es w q) (hm : m ∈ q.followed) :
          (c.run w).2.followedBy m ⊆ q.followed := by
        have hsame : (c.run w).2.followedBy m = w.followedBy m := by
          refine Classical.byContradiction fun hne ↦ ?_
          exact hlate ⟨⟨w, c⟩, List.mem_append_right _ List.mem_cons_self,
            hrun.isFollowed_of_seen hq hm, hne⟩
        rw [hsame]
        exact ih hq hm hearlier
      rcases hp with ⟨i, hi⟩ | ⟨e, he, i, hi⟩
      · cases Command.origin_run hi with
        | old hq => exact hkept (seen_of_getElem? hq) hm
        | vertices _ => cases hm
        | morphism _ _ => cases hm
        | copied _ _ hq => exact hkept (seen_of_getElem? hq) hm
        | @marked q _ hq _ _ => exact hkept (q := q) (seen_of_getElem? hq) hm
        | @built q call next brought hc hq hopen hadds =>
            rcases mem_absorb.1 hm with hold | hnew
            · exact List.Subset.trans (hkept (seen_of_getElem? hq) hold) (subset_absorb_left _ _)
            · cases hadds with
              | @found _ _ _ inner _ hs _ =>
                  have hinner : Seen es w inner :=
                    hsnapshot _ (by simp [hc, Command.snapshot?, Build.snapshot?, hs])
                  exact List.Subset.trans (hkept hinner hnew) (subset_absorb_right _ _)
              | join ho _ =>
                  exact List.Subset.trans (hkept (seen_of_getElem? ho) hnew)
                    (subset_absorb_right _ _)
              | @follow _ j other l hother _ =>
                  rcases List.mem_cons.1 hnew with rfl | hnew
                  · exact Command.followedBy_subset_of_follow hc hi hother
                  · refine List.Subset.trans (hkept (seen_of_getElem? hother) hnew) ?_
                    exact fun k hk ↦ mem_absorb.2 (.inr (List.mem_cons_of_mem _ hk))
              | _ => cases hnew
      · rcases List.mem_append.1 he with he | he
        · exact hkept (.inr ⟨e, he, i, hi⟩) hm
        · obtain rfl := List.mem_singleton.1 he
          exact hkept (seen_of_getElem? hi) hm

/-- From a followed morphism to an unsaved one behind it the way leads past a morphism that was
extended late. -/
theorem exists_extendedLate_of_behind (h : Run es w) (hp : Seen es w p)
    (hsaved : w.AllSaved p) {i : PathId} (hi : w.Behind m i) (hunsaved : w.isSaved i = false)
    (hm : m ∈ p.followed) : ∃ k ∈ p.followed, ExtendedLate es k ∧ w.Behind k i := by
  induction hi using Relation.TransGen.head_induction_on with
  | @single k hstep =>
      by_cases hlate : ExtendedLate es k
      · exact ⟨k, hm, hlate, .single hstep⟩
      · have hthere := hsaved i (h.followedBy_subset hp hm hlate hstep)
        rw [hunsaved] at hthere
        cases hthere
  | @head k j hstep hrest ih =>
      by_cases hlate : ExtendedLate es k
      · exact ⟨k, hm, hlate, .head hstep hrest⟩
      · exact ih (h.followedBy_subset hp hm hlate hstep)

/-- What a store is sent has an unsaved morphism behind it exactly if it follows a morphism that was
extended late and has an unsaved one behind it. -/
theorem behind_unsaved_iff (h : Run es w) {r : Errand} {g : StoreId} {text : String}
    (hsent : (r.command g).Hands w g text) :
    (∃ i, w.Behind r.path i ∧ w.isSaved i = false) ↔
      ∃ m ∈ w.followedBy r.path, ExtendedLate es m ∧ ∃ i, w.Behind m i ∧ w.isSaved i = false := by
  obtain ⟨p, hp, hsaved⟩ := (h.admits_of_hands hsent).allSaved
  rw [Workspace.followedBy_of_getElem? hp]
  constructor
  · rintro ⟨i, hi, hunsaved⟩
    obtain ⟨m, hm, hrest⟩ := Relation.TransGen.head'_iff.1 hi
    rw [Workspace.followedBy_of_getElem? hp] at hm
    rcases Relation.reflTransGen_iff_eq_or_transGen.1 hrest with rfl | hrest
    · rw [hsaved i hm] at hunsaved
      cases hunsaved
    · obtain ⟨k, hk, hlate, hki⟩ :=
        h.exists_extendedLate_of_behind (seen_of_getElem? hp) hsaved hrest hunsaved hm
      exact ⟨k, hk, hlate, i, hki, hunsaved⟩
  · rintro ⟨m, hm, -, i, hi, hunsaved⟩
    rw [← Workspace.followedBy_of_getElem? hp] at hm
    exact ⟨i, .head hm hi, hunsaved⟩

/-- A query follows the morphism `outer`, which then follows the unsaved morphism `inner` and is
marked as saved. -/
def lateExtension : List Command := [
  .connect .default (.recorder [] true),
  .startMorphism (.text "inner"),
  .build 0 (.edge .out (.selector (.predicates (.named (.one "follows"))))
    (.selector (.tags .any))),
  .startMorphism (.text "outer"),
  .startVertices (.selector (.nodes (.one "C"))),
  .build 2 (.follow .forward (.path 1)),
  .build 1 (.follow .forward (.path 0)),
  .markSaved 1,
  .build 2 (.finish .all)]

theorem run_lateExtension :
    Run (Command.history lateExtension .empty) (Command.runAll lateExtension .empty).2 := by
  refine Run.start.append_history lateExtension ?_
  simp [lateExtension, Command.snapshot?, Build.snapshot?, Value.predicates?,
    Selector.predicates?]

theorem hands_lateExtension : (Command.find 0 2).Hands (Command.runAll lateExtension .empty).2 0
    "g.V(\"C\").Follow(outer).All()" := by
  refine run_lateExtension.hands_of_admits (r := .find 2) rfl (.query rfl rfl rfl ?_)
  intro j hj
  cases List.mem_singleton.1 hj
  rfl

theorem behind_lateExtension : (Command.runAll lateExtension .empty).2.Behind 2 0 := by
  refine .head (b := 1) ?_ (.single ?_)
  · exact List.mem_cons_self
  · exact List.mem_cons_self

/-- What is sent may have an unsaved morphism behind it. -/
theorem not_forall_behind_saved :
    ¬∀ es w g (r : Errand) text, Run es w → (r.command g).Hands w g text →
      ∀ i, w.Behind r.path i → w.isSaved i = true := by
  intro hall
  have hsaved := hall _ _ 0 (.find 2) _ run_lateExtension hands_lateExtension 0 behind_lateExtension
  cases hsaved

/-- In that query it is `outer` that was extended late. -/
theorem extendedLate_of_lateExtension :
    let w := (Command.runAll lateExtension .empty).2
    ∃ m ∈ w.followedBy 2, ExtendedLate (Command.history lateExtension .empty) m ∧
      ∃ i, w.Behind m i ∧ w.isSaved i = false :=
  (behind_unsaved_iff run_lateExtension (r := .find 2) hands_lateExtension).1
    ⟨0, behind_lateExtension, rfl⟩

end Run

end GraphQuery
