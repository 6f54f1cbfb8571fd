import GraphQuery.Proofs.Run
import GraphQuery.Proofs.Script.Parser

/-!
# The queries of a run

What a path of a run refers to by name are morphisms that it follows, and their names are words.  So
the text of a path of a run can be read back, and two paths, be they of one run or of two, compile
to the same query exactly if they say the same (`Run.compile_eq_iff`).
-/

namespace GraphQuery

theorem Traversal.mem_references_of_inner {t : Traversal} {n : String}
    (h : n ∈ t.innerReading.references) : n ∈ t.reading.references := by
  unfold innerReading at h
  split at h
  · cases h
  · exact h

namespace Run

variable {es : List Event} {w : Workspace} {p : Path} {n : String}

/-- A morphism that a path refers to is one that it follows. -/
theorem exists_followed_of_mem_references (h : Run es w) (hp : Seen es w p)
    (hn : n ∈ p.traversal.reading.references) : ∃ j ∈ p.followed, w.name? j = some n := by
  refine h.forall_seen (P := fun w p ↦ ∀ n ∈ p.traversal.reading.references,
    ∃ j ∈ p.followed, w.name? j = some n) ?_ ?_ ?_ ?_ ?_ p hp n hn
  · intro w c p hp n hn
    obtain ⟨j, hj, hname⟩ := hp n hn
    exact ⟨j, hj, Workspace.name?_run c hname⟩
  · intro _ _ n hn
    cases hn
  · intro _ _ _ n hn
    cases hn
  · exact fun _ _ hp ↦ hp
  · intro w p call next brought hthere hsnapshot hp _ hadds n hn
    have hold (hn : n ∈ p.traversal.reading.references) :
        ∃ j ∈ absorb p.followed brought, w.name? j = some n := by
      obtain ⟨j, hj, hname⟩ := hp n hn
      exact ⟨j, mem_absorb.2 (.inl hj), hname⟩
    have hnew {q : Path} (hq : ∀ j ∈ q.followed, j ∈ brought)
        (hrefers : ∃ j ∈ q.followed, w.name? j = some n) :
        ∃ j ∈ absorb p.followed brought, w.name? j = some n := by
      obtain ⟨j, hj, hname⟩ := hrefers
      exact ⟨j, mem_absorb.2 (.inr (hq j hj)), hname⟩
    cases hadds with
    | @found _ _ _ inner _ hs _ =>
        rcases List.mem_append.1 hn with hn | hn
        · exact hold hn
        · have hinner := hsnapshot inner (by simp [Build.snapshot?, hs])
          exact hnew (fun _ hj ↦ hj) (hinner n (Traversal.mem_references_of_inner hn))
    | @join _ i other ho _ =>
        rcases List.mem_append.1 hn with hn | hn
        · exact hold hn
        · exact hnew (fun _ hj ↦ hj) (hthere i other ho n (Traversal.mem_references_of_inner hn))
    | @follow _ i q l hq hl =>
        rcases List.mem_append.1 hn with hn | hn
        · exact hold hn
        · obtain rfl := List.mem_singleton.1 hn
          refine ⟨i, mem_absorb.2 (.inr List.mem_cons_self), ?_⟩
          rw [Workspace.name?, Workspace.label?_of_getElem? hq, hl]
          rfl
    | _ => exact hold hn

/-- The names that a path refers to were accepted as names. -/
theorem check_of_mem_references (h : Run es w) (hp : Seen es w p)
    (hn : n ∈ p.traversal.reading.references) : Identifier.check n = .ok n := by
  obtain ⟨j, _, hname⟩ := h.exists_followed_of_mem_references hp hn
  obtain ⟨q, l, hq, hl, rfl⟩ := Workspace.exists_of_name? hname
  exact h.check_name (seen_of_getElem? hq) hl

theorem isWord_of_mem_references (h : Run es w) (hp : Seen es w p) :
    ∀ n ∈ p.traversal.reading.references, Script.IsWord n.toList :=
  fun _ hn ↦ Script.isWord_of_check (h.check_of_mem_references hp hn)

/-- Two paths compile to the same query exactly if they say the same. -/
theorem compile_eq_iff {es' : List Event} {w' : Workspace} {q : Path} {s t : String}
    (h : Run es w) (h' : Run es' w') (hp : Seen es w p) (hq : Seen es' w' q)
    (hs : p.compile = .ok s) (ht : q.compile = .ok t) :
    s = t ↔ p.traversal.reading = q.traversal.reading := by
  obtain ⟨_, rfl⟩ := Traversal.isBroken_of_compile_eq_ok hs
  obtain ⟨_, rfl⟩ := Traversal.isBroken_of_compile_eq_ok ht
  exact Traversal.text_eq_iff (h.isWord_of_mem_references hp) (h'.isWord_of_mem_references hq)

end Run

end GraphQuery
