import GraphQuery.Proofs.Failure
import GraphQuery.Session.Basic

/-!
# Operations of a path by name

What is called on a path by a name comes down to an operation, and this to a command on the path, or
else nothing is done (`Session.callPath_cases`).  A builder call that has something to add to its
path adds it, or is refused because the path is finalized.
-/

namespace GraphQuery

open Work

variable {w u : Workspace} {i : PathId} {p : Path}

namespace Command

open GraphQuery.Action

theorem run_build_of_ok {call : Build} {q : Path} (hp : w.paths[i]? = some p)
    (h : (extend p call).on w = (.ok q, u)) : (build i call).run w =
      (.ok (.path i), { u with paths := u.paths.setIfInBounds i q }) := by
  change (Action.build i call >>= fun _ ↦ pure (Value.path i)).on w = _
  rw [Action.build, bind_assoc, on_bind_of_ok (on_getPath_of_some hp), bind_assoc, on_bind_of_ok h]
  rfl

theorem run_build_of_error {call : Build} {e : Error} (hp : w.paths[i]? = some p)
    (h : (extend p call).on w = (.error e, u)) : (build i call).run w = (.error e, u) := by
  change (Action.build i call >>= fun _ ↦ pure (Value.path i)).on w = _
  rw [Action.build, bind_assoc, on_bind_of_ok (on_getPath_of_some hp), bind_assoc,
    on_bind_of_error h]

section Adds

variable {call : Build} {next : Traversal} {brought : List PathId}

/-- A path that is not finalized is replaced by what a builder call has to make of it. -/
theorem exists_run_build_of_open (hp : w.paths[i]? = some p) (hopen : p.isFinalized = false)
    (h : call.Adds w p next brought) :
    ∃ v : Workspace, (build i call).run w = (.ok (.path i), { v with
      paths := w.paths.setIfInBounds i
        { p with traversal := next, followed := absorb p.followed brought } }) := by
  obtain ⟨v, hv⟩ := exists_extend_of_adds hopen h
  have hpaths := (keepsPaths_extend p call).state_eq hv
  refine ⟨v, ?_⟩
  rw [run_build_of_ok hp hv, hpaths]

/-- A finalized path refuses a builder call with the segment that it would add. -/
theorem exists_run_build_of_finalized (hp : w.paths[i]? = some p) (hfinal : p.isFinalized = true)
    (h : call.Adds w p next brought) : ∃ v : Workspace, v.paths = w.paths ∧
      (build i call).run w = (.error (.finalized (.text next.lastSegment)), v) := by
  obtain ⟨v, hv⟩ := exists_extend_eq_push h
  refine ⟨v, (keepsPaths_extend p call).state_eq hv, ?_⟩
  rw [Path.push_of_finalized hfinal] at hv
  exact run_build_of_error hp hv

end Adds

end Command

/-! ## Operations by name -/

/-- What an operation of a path comes down to, whichever path it is. -/
inductive Operation
  | build (call : Build)
  | inspect (question : Inspection)
  | copy
  | markSaved

namespace Operation

/-- An operation of a path as a command. -/
def command (i : PathId) : Operation → Command
  | build call => .build i call
  | inspect question => .inspect i question
  | copy => .copy i
  | markSaved => .markSaved i

end Operation

namespace Session

open GraphQuery.Action

/-- The operation of a path that is called by a name. -/
def operationOf? (name : String) (args : List Value) : Option Operation :=
  match buildOf? name args, inspectionOf? name args with
  | some call, _ => some (.build call)
  | none, some question => some (.inspect question)
  | none, none =>
    if name = "copy" then some .copy
    else if name = "mark_saved" then some .markSaved
    else none

theorem callPath_eq (i : PathId) (name : String) (args : List Value) : callPath i name args = (do
    expectPathOperation i name args
    match operationOf? name args with
    | some o => (o.command i).perform
    | none => lacks (.path i) name) := by
  refine congrArg (expectPathOperation i name args >>= ·) (funext fun _ ↦ ?_)
  unfold operationOf?
  cases buildOf? name args with
  | some call => rfl
  | none =>
      cases inspectionOf? name args with
      | some question => rfl
      | none =>
          by_cases hcopy : name = "copy"
          · subst hcopy
            rfl
          by_cases hsaved : name = "mark_saved"
          · subst hsaved
            rfl
          simp only [if_neg hcopy, if_neg hsaved]

/-- What is called by name is an operation, or it fails and nothing is done. -/
theorem callPath_cases (w : Workspace) (i : PathId) (name : String) (args : List Value) :
    (∃ e, (callPath i name args).on w = (.error e, w)) ∨
      ∃ o, operationOf? name args = some o ∧ (callPath i name args).on w = (o.command i).run w := by
  rw [callPath_eq]
  match hcheck : (expectPathOperation i name args).on w with
  | (.error e, v) =>
      rw [on_bind_of_error hcheck]
      obtain rfl := (keeps_expectPathOperation i name args).eq_of_on hcheck
      exact .inl ⟨e, rfl⟩
  | (.ok _, v) =>
      obtain rfl := (keeps_expectPathOperation i name args).eq_of_on hcheck
      rw [on_bind_of_ok hcheck]
      match operationOf? name args with
      | some o => exact .inr ⟨o, rfl, rfl⟩
      | none => exact .inl ⟨_, rfl⟩

/-- A builder call that is called by a name. -/
theorem buildOf?_of_operationOf? {name : String} {args : List Value} {call : Build}
    (h : operationOf? name args = some (.build call)) : buildOf? name args = some call := by
  unfold operationOf? at h
  split at h
  · rename_i hcall
    cases h
    exact hcall
  · cases h
  · split at h
    · cases h
    · split at h <;> cases h

end Session

/-! ## Selectors that hold paths -/

open GraphQuery.Action

namespace Session

/-- A selector by a path holds the path as it is when the selector is made. -/
theorem evaluate_found_of_path {registers : Registers} {a : Argument} {u : Workspace}
    (ha : (evaluate registers a).on w = (.ok (.path i), u)) (hp : u.paths[i]? = some p) :
    (evaluate registers (.found a)).on w = (.ok (.selector (.predicates (.found p))), u) := by
  rw [evaluate, on_bind_of_ok ha, on_bind_of_ok (on_getPath_of_some hp)]
  rfl

end Session

end GraphQuery
