import GraphQuery.Proofs.Effect

/-!
# Runs

A run starts in an empty workspace and carries out one command after the other, failing ones
included.  The only thing that a run may not do is to make things up: a path inside a selector is a
snapshot, so it must be one of the paths of the run as it is at that moment or as it was earlier.

`Run.forall_seen` is the induction that all invariants of paths go through: a property of paths that
holds of new ones, that calls, marking and other commands keep, holds of every path and of every
snapshot of every run.
-/

namespace GraphQuery

/-- The path inside the predicates of a builder call. -/
def Build.snapshot? : Build → Option Path
  | .edge _ predicates _ =>
    match predicates.predicates? with
    | some (.found p) => some p
    | _ => none
  | _ => none

/-- The path inside a selector of a command. -/
def Command.snapshot? : Command → Option Path
  | .build _ call => call.snapshot?
  | _ => none

/-- A command of a run and the workspace that it was carried out on. -/
structure Event where
  before : Workspace
  command : Command

namespace Event

/-- The outcome of the command. -/
def outcome (e : Event) : Except Error Value := (e.command.run e.before).1

/-- The workspace after the command. -/
def after (e : Event) : Workspace := (e.command.run e.before).2

end Event

/-- The events of commands that are carried out one after the other. -/
def Command.history : List Command → Workspace → List Event
  | [], _ => []
  | c :: cs, w => ⟨w, c⟩ :: history cs (c.run w).2

/-- A path is there, or was there before one of the events. -/
def Seen (es : List Event) (w : Workspace) (p : Path) : Prop :=
  (∃ i : PathId, w.paths[i]? = some p) ∨ ∃ e ∈ es, ∃ i : PathId, e.before.paths[i]? = some p

/-- The events of a run, oldest first, and the workspace after them. -/
inductive Run : List Event → Workspace → Prop
  | start : Run [] .empty
  | step {es : List Event} {w : Workspace} {c : Command} : Run es w →
      (∀ p, c.snapshot? = some p → Seen es w p) → Run (es ++ [⟨w, c⟩]) (c.run w).2

namespace Workspace

/-- The label of a path that is a morphism. -/
def label? (w : Workspace) (i : PathId) : Option Label := w.paths[i]?.bind Path.label

/-- The name of a path that is a morphism. -/
def name? (w : Workspace) (i : PathId) : Option String := (w.label? i).map Label.name

/-- Whether a path is a morphism that counts as saved. -/
def isSaved (w : Workspace) (i : PathId) : Bool := (w.label? i).any Label.saved

/-- The morphisms that a path follows at this moment. -/
def followedBy (w : Workspace) (i : PathId) : List PathId := (w.paths[i]?.map Path.followed).getD []

variable {w : Workspace} {i : PathId} {p : Path}

theorem label?_of_getElem? (h : w.paths[i]? = some p) : w.label? i = p.label := by
  rw [label?, h]
  rfl

theorem followedBy_of_getElem? (h : w.paths[i]? = some p) : w.followedBy i = p.followed := by
  rw [followedBy, h]
  rfl

theorem exists_of_label? {l : Label} (h : w.label? i = some l) :
    ∃ p, w.paths[i]? = some p ∧ p.label = some l := Option.bind_eq_some_iff.1 h

theorem exists_of_name? {n : String} (h : w.name? i = some n) :
    ∃ p l, w.paths[i]? = some p ∧ p.label = some l ∧ l.name = n := by
  obtain ⟨l, hl, hn⟩ := Option.map_eq_some_iff.1 h
  obtain ⟨p, hp, hl⟩ := exists_of_label? hl
  exact ⟨p, l, hp, hl, hn⟩

/-- No command renames a morphism. -/
theorem name?_run {n : String} (c : Command) (h : w.name? i = some n) :
    (c.run w).2.name? i = some n := by
  obtain ⟨p, l, hp, hl, rfl⟩ := exists_of_name? h
  obtain ⟨q, hq, horigin⟩ := Command.exists_of_getElem? (c := c) hp
  rw [name?, label?_of_getElem? hq]
  rcases horigin.of_getElem? hp with rfl | ⟨_, _, _, _, _, _, rfl⟩ | ⟨_, _, _, rfl⟩ <;>
    simp [Path.markSaved, hl]

end Workspace

/-- What is taken in is what was there and what is new. -/
@[simp] theorem mem_absorb {i : PathId} {old new : List PathId} :
    i ∈ absorb old new ↔ i ∈ old ∨ i ∈ new := by
  induction new generalizing old with
  | nil => simp
  | cons k new ih =>
      rw [absorb_cons, ih]
      split
      · rename_i hk
        constructor
        · rintro (h | h)
          · exact .inl h
          · exact .inr (List.mem_cons_of_mem _ h)
        · rintro (h | h)
          · exact .inl h
          · rcases List.mem_cons.1 h with rfl | h
            · exact .inl hk
            · exact .inr h
      · simp only [List.mem_append, List.mem_cons, List.not_mem_nil, or_false, or_assoc]

theorem Identifier.eq_of_check {s n : String} (h : check s = .ok n) : n = s := by
  unfold check at h
  split at h
  · cases h
  · split at h <;> cases h
    rfl

namespace Run

variable {es before after : List Event} {e : Event} {w : Workspace} {p : Path}

theorem seen_of_getElem? {i : PathId} (h : w.paths[i]? = some p) : Seen es w p := .inl ⟨i, h⟩

/-- The last event of a run begins where a run ends, ends where the run ends, and has no snapshot
but one of a path that was seen. -/
theorem of_concat (h : Run (es ++ [e]) w) : Run es e.before ∧ w = e.after ∧
    ∀ p, e.command.snapshot? = some p → Seen es e.before p := by
  generalize hes : es ++ [e] = l at h
  cases h with
  | start => simp at hes
  | step hrun hseen =>
      obtain ⟨rfl, he⟩ := List.append_inj' hes rfl
      obtain rfl := (List.cons.inj he).1
      exact ⟨hrun, rfl, hseen⟩

theorem eq_empty (h : Run [] w) : w = .empty := by
  generalize hes : ([] : List Event) = es at h
  cases h with
  | start => rfl
  | step => simp at hes

/-- The events of a run say where it ends. -/
theorem workspace_eq {u : Workspace} (h : Run es u) (h' : Run es w) : u = w := by
  rcases List.eq_nil_or_concat es with rfl | ⟨es, e, rfl⟩
  · rw [h.eq_empty, h'.eq_empty]
  · rw [List.concat_eq_append] at h h'
    rw [h.of_concat.2.1, h'.of_concat.2.1]

/-- The events up to an event of a run are a run that ends where the event ends. -/
theorem through_event (h : Run (before ++ e :: after) w) : Run (before ++ [e]) e.after := by
  generalize hes : before ++ e :: after = es at h
  induction h generalizing after with
  | start => simp at hes
  | @step es w c hrun hseen ih =>
      rcases List.eq_nil_or_concat after with rfl | ⟨after, last, rfl⟩
      · obtain ⟨rfl, he⟩ := List.append_inj' hes rfl
        obtain rfl := (List.cons.inj he).1
        exact hrun.step hseen
      · rw [List.concat_eq_append, ← List.cons_append, ← List.append_assoc] at hes
        exact ih (List.append_inj' hes rfl).1

/-- The events before an event of a run are a run that ends where the event begins. -/
theorem before_event (h : Run (before ++ e :: after) w) : Run before e.before :=
  h.through_event.of_concat.1

/-- A path inside a selector is as some path is or was when the selector is used. -/
theorem seen_of_snapshot (h : Run (before ++ e :: after) w) (hp : e.command.snapshot? = some p) :
    Seen before e.before p := h.through_event.of_concat.2.2 p hp

/-- Every event of a run comes after a run. -/
theorem exists_run_of_mem (h : Run es w) (he : e ∈ es) : ∃ before, Run before e.before := by
  obtain ⟨before, after, rfl⟩ := List.append_of_mem he
  exact ⟨before, h.before_event⟩

/-- What holds at some moment of a run, and is kept by each event from then on, holds before each of
these events and at the end. -/
theorem forall_later {P : Workspace → Prop} (h : Run (before ++ e :: after) w) (hP : P e.before)
    (hstep : ∀ d ∈ e :: after, P d.before → P d.after) : P w ∧ ∀ d ∈ e :: after, P d.before := by
  generalize hes : before ++ e :: after = es at h
  induction h generalizing after with
  | start => simp at hes
  | @step es w c hrun _ ih =>
      rcases List.eq_nil_or_concat after with rfl | ⟨after, last, rfl⟩
      · obtain ⟨rfl, he⟩ := List.append_inj' hes rfl
        obtain rfl := (List.cons.inj he).1
        refine ⟨hstep _ List.mem_cons_self hP, ?_⟩
        intro d hd
        obtain rfl := List.mem_singleton.1 hd
        exact hP
      · rw [List.concat_eq_append, ← List.cons_append] at hstep ⊢
        rw [List.concat_eq_append, ← List.cons_append, ← List.append_assoc] at hes
        obtain ⟨hinit, hlast⟩ := List.append_inj' hes rfl
        obtain rfl := (List.cons.inj hlast).1
        obtain ⟨hthere, hearlier⟩ := ih (fun d hd ↦ hstep d (List.mem_append_left _ hd)) hinit
        refine ⟨hstep _ (List.mem_append_right _ List.mem_cons_self) hthere, ?_⟩
        intro d hd
        rcases List.mem_append.1 hd with hd | hd
        · exact hearlier d hd
        · obtain rfl := List.mem_singleton.1 hd
          exact hthere

/-- A run goes on with any commands that have no path inside a selector. -/
theorem append_history (h : Run es w) (cs : List Command) (hcs : ∀ c ∈ cs, c.snapshot? = none) :
    Run (es ++ Command.history cs w) (Command.runAll cs w).2 := by
  induction cs generalizing es w with
  | nil => simpa [Command.history, Command.runAll] using h
  | cons c cs ih =>
      have hc := hcs c List.mem_cons_self
      have hstep := h.step (c := c) fun p hp ↦ by simp [hc] at hp
      have hrest := ih hstep fun d hd ↦ hcs d (List.mem_cons_of_mem _ hd)
      rwa [List.append_assoc] at hrest

/-- A property of paths holds of all paths and snapshots of a run if new paths have it, builder
calls and marking keep it, and no command takes it from any path. -/
theorem forall_seen {P : Workspace → Path → Prop}
    (stable : ∀ w c p, P w p → P (Command.run c w).2 p)
    (vertices : ∀ w choice, P w (.vertices choice))
    (morphism : ∀ w n, Identifier.check n = .ok n → P w (.morphism n))
    (marked : ∀ w p, P w p → P w p.markSaved)
    (added : ∀ w p (call : Build) next brought, (∀ (i : PathId) q, w.paths[i]? = some q → P w q) →
      (∀ s, call.snapshot? = some s → P w s) → P w p → p.isFinalized = false →
      call.Adds w p next brought →
      P w { p with traversal := next, followed := absorb p.followed brought })
    (h : Run es w) : ∀ p, Seen es w p → P w p := by
  induction h with
  | start => simp [Seen, Workspace.empty]
  | @step es w c _ hsnapshot ih =>
      have hthere : ∀ (i : PathId) q, w.paths[i]? = some q → P w q :=
        fun i q hq ↦ ih q (seen_of_getElem? hq)
      rintro q (⟨i, hq⟩ | ⟨e, he, i, hq⟩)
      · refine stable w c q ?_
        cases Command.origin_run hq with
        | old h => exact hthere i q h
        | vertices _ => exact vertices w _
        | morphism _ hn =>
            obtain rfl := Identifier.eq_of_check hn
            exact morphism w _ hn
        | copied _ _ h => exact hthere _ q h
        | built hc h hopen hadds =>
            subst hc
            have hinside := fun s hs ↦ ih s (hsnapshot s hs)
            exact added w _ _ _ _ hthere hinside (hthere i _ h) hopen hadds
        | marked h _ _ => exact marked w _ (hthere i _ h)
      · rcases List.mem_append.1 he with he | he
        · exact stable w c q (ih q (.inr ⟨e, he, i, hq⟩))
        · obtain rfl := List.mem_singleton.1 he
          exact stable w c q (hthere i q hq)

/-- The name of every morphism was accepted as a name. -/
theorem check_name (h : Run es w) (hp : Seen es w p) {l : Label} (hl : p.label = some l) :
    Identifier.check l.name = .ok l.name := by
  refine h.forall_seen (P := fun _ p ↦ ∀ l, p.label = some l → Identifier.check l.name = .ok l.name)
    ?_ ?_ ?_ ?_ ?_ p hp l hl
  · exact fun _ _ _ h ↦ h
  · intro _ _ l hl
    cases hl
  · intro _ n hn l hl
    cases hl
    exact hn
  · intro _ p hp l hl
    obtain ⟨k, hk, rfl⟩ := Option.map_eq_some_iff.1 hl
    exact hp k hk
  · exact fun _ _ _ _ _ _ _ hp _ _ ↦ hp

/-- What a path follows are morphisms. -/
theorem exists_name?_of_mem_followed (h : Run es w) (hp : Seen es w p) {j : PathId}
    (hj : j ∈ p.followed) : ∃ n, w.name? j = some n := by
  refine h.forall_seen (P := fun w p ↦ ∀ j ∈ p.followed, ∃ n, w.name? j = some n)
    ?_ ?_ ?_ ?_ ?_ p hp j hj
  · intro w c p hp j hj
    obtain ⟨n, hn⟩ := hp j hj
    exact ⟨n, Workspace.name?_run c hn⟩
  · intro _ _ j hj
    cases hj
  · intro _ _ _ j hj
    cases hj
  · exact fun _ _ h ↦ h
  · intro w p call next brought hthere hsnapshot hp _ hadds j hj
    rcases mem_absorb.1 hj with hold | hnew
    · exact hp j hold
    · cases hadds with
      | found hs _ => exact hsnapshot _ (by simp [Build.snapshot?, hs]) j hnew
      | join ho _ => exact hthere _ _ ho j hnew
      | @follow _ i q l hq hl =>
          rcases List.mem_cons.1 hnew with rfl | hbehind
          · exact ⟨l.name, by rw [Workspace.name?, Workspace.label?_of_getElem? hq, hl]; rfl⟩
          · exact hthere i q hq j hbehind
      | _ => cases hnew

end Run

end GraphQuery
