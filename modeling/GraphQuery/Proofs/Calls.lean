import Mathlib.Data.List.Induction
import GraphQuery.Proofs.Segments

/-!
# The calls that made a path

A path is what its builder calls have made of it, those that failed left out, and those that its
original had got when it was copied included.  `callsOf` reads these calls off the events of a run,
and `Grown calls p` says that they made the path `p`, each from the path that the calls before it
had made.  Every path of a run is grown by its own calls (`Run.grown`), so what is to be said of a
path as a whole can be said call by call.
-/

namespace GraphQuery

open Work

/-! ## The calls of a run -/

/-- The calls of a path after an event, given those of all paths before it: a builder call that
succeeds is one call more, and a copy has the calls of its original. -/
def Event.record (e : Event) (calls : PathId → List Event) (i : PathId) : List Event :=
  match e.command, e.outcome with
  | .build k _, .ok _ => if i = k then calls k ++ [e] else calls i
  | .copy k, .ok (.path j) => if i = j then calls k else calls i
  | _, _ => calls i

/-- The calls that made a path, oldest first. -/
def callsOf (es : List Event) : PathId → List Event :=
  es.foldl (fun calls e ↦ e.record calls) fun _ ↦ []

theorem callsOf_concat (es : List Event) (e : Event) :
    callsOf (es ++ [e]) = e.record (callsOf es) := by
  rw [callsOf, List.foldl_append]
  rfl

namespace Event

variable {e : Event} (calls : PathId → List Event)

theorem record_of_error {error : Error} (h : e.outcome = .error error) :
    e.record calls = calls := by
  funext i
  unfold record
  split <;> simp_all

theorem record_of_build {k : PathId} {call : Build} {v : Value} (hc : e.command = .build k call)
    (h : e.outcome = .ok v) (i : PathId) :
    e.record calls i = if i = k then calls k ++ [e] else calls i := by
  rw [record, hc, h]

theorem record_of_copy {k j : PathId} (hc : e.command = .copy k) (h : e.outcome = .ok (.path j))
    (i : PathId) : e.record calls i = if i = j then calls k else calls i := by
  rw [record, hc, h]

theorem record_of_ne (hbuild : ∀ k call, e.command ≠ .build k call)
    (hcopy : ∀ k, e.command ≠ .copy k) : e.record calls = calls := by
  funext i
  unfold record
  split
  · exact absurd ‹_› (hbuild _ _)
  · exact absurd ‹_› (hcopy _)
  · rfl

/-- What an event records is itself, if it is a builder call that succeeds, and nothing else. -/
theorem mem_record {d : Event} {i : PathId} (h : d ∈ e.record calls i) :
    (∃ k, d ∈ calls k) ∨ d = e ∧ ∃ k call v, e.command = .build k call ∧ e.outcome = .ok v := by
  unfold record at h
  split at h
  · rename_i hcommand hok
    split at h
    · rcases List.mem_append.1 h with h | h
      · exact .inl ⟨_, h⟩
      · exact .inr ⟨List.mem_singleton.1 h, _, _, _, hcommand, hok⟩
    · exact .inl ⟨_, h⟩
  · split at h
    · exact .inl ⟨_, h⟩
    · exact .inl ⟨_, h⟩
  · exact .inl ⟨_, h⟩

end Event

/-- The calls that made a path are builder calls of the run that succeeded. -/
theorem exists_of_mem_callsOf {es : List Event} {i : PathId} {e : Event} (h : e ∈ callsOf es i) :
    e ∈ es ∧ ∃ k call v, e.command = .build k call ∧ e.outcome = .ok v := by
  induction es using List.reverseRecOn generalizing i with
  | nil => cases h
  | append_singleton es d ih =>
      rw [callsOf_concat] at h
      rcases Event.mem_record _ h with ⟨k, h⟩ | ⟨rfl, hcall⟩
      · exact (ih h).imp_left (List.mem_append_left _)
      · exact ⟨List.mem_append_right _ List.mem_cons_self, hcall⟩

/-- Only what is there is copied. -/
theorem Command.exists_of_copy_eq_ok {w : Workspace} {k : PathId} {v : Value}
    (h : ((copy k).run w).1 = .ok v) : ∃ p, w.paths[k]? = some p := by
  have hrun : (Action.copyPath k >>= fun i ↦ pure (Value.path i)).on w =
      (.ok v, ((copy k).run w).2) := Prod.ext h rfl
  obtain ⟨_, _, hcopy, _⟩ := on_bind_eq_ok.1 hrun
  obtain ⟨p, _, hp, _⟩ := on_bind_eq_ok.1 hcopy
  exact ⟨p, (Action.on_getPath_eq_ok.1 hp).1⟩

/-! ## Paths that are made by calls -/

/-- Calls, each of which succeeded, made a path. -/
inductive Grown : List Event → Path → Prop
  | vertices {choice : Choice} : Grown [] (.vertices choice)
  | morphism {n : String} : Grown [] (.morphism n)
  | marked {calls : List Event} {p : Path} : Grown calls p → Grown calls p.markSaved
  | added {calls : List Event} {p : Path} {e : Event} {k : PathId} {call : Build}
      {next : Traversal} {brought : List PathId} : Grown calls p → e.command = .build k call →
      e.before.paths[k]? = some p → call.Adds e.before p next brought →
      e.after.paths[k]? = some { p with traversal := next, followed := absorb p.followed brought } →
      Grown (calls ++ [e]) { p with traversal := next, followed := absorb p.followed brought }

/-- All paths of a workspace are made by their calls, and what is no path has no calls. -/
structure Recorded (calls : PathId → List Event) (w : Workspace) : Prop where
  grown : ∀ (i : PathId) p, w.paths[i]? = some p → Grown (calls i) p
  empty : ∀ i : PathId, w.paths[i]? = none → calls i = []

namespace Recorded

variable {calls : PathId → List Event} {w : Workspace}

theorem of_paths_eq {v : Workspace} (h : Recorded calls w) (hpaths : v.paths = w.paths) :
    Recorded calls v := ⟨hpaths ▸ h.grown, hpaths ▸ h.empty⟩

/-- A builder call makes its path and no other. -/
theorem build (h : Recorded calls w) {k : PathId} {call : Build} {v : Value}
    (hok : ((Command.build k call).run w).1 = .ok v) :
    Recorded (Event.record ⟨w, .build k call⟩ calls) ((Command.build k call).run w).2 := by
  obtain ⟨p, next, brought, hp, _, hadds, hpaths⟩ := Command.exists_adds_of_build_eq_ok hok
  have hrecord := Event.record_of_build (e := ⟨w, .build k call⟩) calls rfl hok
  have hafter := Command.getElem?_setIfInBounds_of_some hp
    { p with traversal := next, followed := absorb p.followed brought }
  constructor
  · intro i q hq
    by_cases hi : i = k
    · subst hi
      rw [hpaths, hafter] at hq
      obtain rfl := Option.some.inj hq
      rw [hrecord, if_pos rfl]
      exact .added (h.grown i p hp) rfl hp hadds (hpaths ▸ hafter)
    · rw [hpaths, Array.getElem?_setIfInBounds_ne (Ne.symm hi)] at hq
      rw [hrecord, if_neg hi]
      exact h.grown i q hq
  · intro i hi
    rw [hpaths, Array.getElem?_eq_none_iff, Array.size_setIfInBounds] at hi
    have hnone : w.paths[i]? = none := Array.getElem?_eq_none_iff.2 hi
    have hne : i ≠ k := by
      rintro rfl
      rw [hp] at hnone
      cases hnone
    rw [hrecord, if_neg hne]
    exact h.empty i hnone

/-- A copy is made by the calls of its original. -/
theorem copy (h : Recorded calls w) {k : PathId} {p : Path} (hp : w.paths[k]? = some p) :
    Recorded (Event.record ⟨w, .copy k⟩ calls) ((Command.copy k).run w).2 := by
  have hrun := Command.run_copy hp
  have hok : (⟨w, .copy k⟩ : Event).outcome = .ok (.path w.paths.size) := congrArg Prod.fst hrun
  have hrecord := Event.record_of_copy calls rfl hok
  rw [hrun]
  constructor
  · intro i q hq
    rcases Command.getElem?_push_eq_some hq with ⟨rfl, rfl⟩ | hq
    · rw [hrecord, if_pos rfl]
      exact h.grown k _ hp
    · have hne : i ≠ w.paths.size := fun hi ↦ by simp [hi] at hq
      rw [hrecord, if_neg hne]
      exact h.grown i q hq
  · intro i hi
    rw [Array.getElem?_eq_none_iff, Array.size_push] at hi
    rw [hrecord, if_neg (Nat.ne_of_gt hi)]
    exact h.empty i (Array.getElem?_eq_none_iff.2 (Nat.le_of_lt hi))

/-- What is neither a builder call nor a copy makes no path but an empty one. -/
theorem other (h : Recorded calls w) {c : Command} (hbuild : ∀ k call, c ≠ .build k call)
    (hcopy : ∀ k, c ≠ .copy k) : Recorded calls (c.run w).2 := by
  have hnew {i : PathId} (hi : i = w.paths.size) : calls i = [] := h.empty i (by simp [hi])
  constructor
  · intro i q hq
    cases Command.origin_run hq with
    | old hq => exact h.grown i q hq
    | vertices hi => exact hnew hi ▸ .vertices
    | morphism hi _ => exact hnew hi ▸ .morphism
    | copied _ hc _ => exact absurd hc (hcopy _)
    | built hc _ _ _ => exact absurd hc (hbuild _ _)
    | marked hp _ _ => exact .marked (h.grown i _ hp)
  · intro i hi
    refine h.empty i (Option.eq_none_iff_forall_ne_some.2 fun p hp ↦ ?_)
    obtain ⟨q, hq, _⟩ := Command.exists_of_getElem? (c := c) hp
    rw [hi] at hq
    cases hq

theorem step (h : Recorded calls w) (c : Command) :
    Recorded (Event.record ⟨w, c⟩ calls) (c.run w).2 := by
  match hok : (c.run w).1 with
  | .error e =>
      rw [Event.record_of_error (e := ⟨w, c⟩) calls hok]
      exact h.of_paths_eq (Command.paths_run_of_error hok)
  | .ok v =>
      by_cases hbuild : ∃ k call, c = .build k call
      · obtain ⟨k, call, rfl⟩ := hbuild
        exact h.build hok
      by_cases hcopy : ∃ k, c = .copy k
      · obtain ⟨k, rfl⟩ := hcopy
        obtain ⟨p, hp⟩ := Command.exists_of_copy_eq_ok hok
        exact h.copy hp
      rw [Event.record_of_ne calls (by simpa using hbuild) (by simpa using hcopy)]
      exact h.other (by simpa using hbuild) (by simpa using hcopy)

end Recorded

namespace Run

variable {es : List Event} {w : Workspace} {i : PathId} {p : Path}

theorem recorded (h : Run es w) : Recorded (callsOf es) w := by
  induction h with
  | start => exact ⟨fun i p hp ↦ by simp [Workspace.empty] at hp, fun _ _ ↦ rfl⟩
  | @step es w c _ _ ih =>
      rw [callsOf_concat]
      exact ih.step c

/-- Every path of a run is made by its calls. -/
theorem grown (h : Run es w) (hp : w.paths[i]? = some p) : Grown (callsOf es i) p :=
  h.recorded.grown i p hp

end Run

end GraphQuery
