import Mathlib.Data.List.Forall2
import GraphQuery.Proofs.Beside
import GraphQuery.Proofs.Script.Reference

/-!
# Isolation of stores

A morphism has one saved flag for all stores, so a save to one store opens the gates of all others.
Nothing else passes from store to store.  A run is `SelfReliant` apart from a store if nothing that
is asked of the other stores gets past a morphism that counts as saved through this one store only:

* `Run.sameBut_of_selfReliant`: then the run goes for all other stores as it goes without the saves
  to this one store;
* `Run.run_errand_of_passes`: the first errand that does get past such a morphism is refused if
  there are no saves to this one store;
* `Run.not_forall_sameBut`: this does happen.
-/

namespace GraphQuery

open Workspace (Beside)

/-- A command saves a morphism to a store. -/
def Command.savesTo (a : StoreId) : Command → Bool
  | save g _ => g = a
  | _ => false

/-- After some events a morphism counts as saved, and it would do so without all saves to the
store `a`. -/
inductive SavedApart (a : StoreId) : List Event → PathId → Prop
  | marked {es : List Event} {e : Event} {i : PathId} : e.command.savesTo a = false →
      e.command.Marks e.before i → SavedApart a (es ++ [e]) i
  | copied {es : List Event} {e : Event} {k : PathId} : e.command = .copy k →
      SavedApart a es k → SavedApart a (es ++ [e]) e.before.paths.size
  | kept {es : List Event} {e : Event} {i : PathId} : SavedApart a es i →
      SavedApart a (es ++ [e]) i

/-- An event asks something of another store than `a` and gets past a morphism that counts as saved
through `a` only. -/
def Event.LeansOn (a : StoreId) (before : List Event) (e : Event) : Prop :=
  ∃ (g : StoreId) (r : Errand) (j : PathId), e.command = r.command g ∧ g ≠ a ∧
    r.Passes e.before j ∧ ¬SavedApart a before j

/-- Nothing that is asked of other stores leans on the store `a`. -/
def SelfReliant (a : StoreId) (es : List Event) : Prop :=
  ∀ before e after, es = before ++ e :: after → ¬e.LeansOn a before

/-- The events that do not save to a store. -/
def eventsBut (a : StoreId) (es : List Event) : List Event :=
  es.filter fun e ↦ !e.command.savesTo a

/-- What is done is the same but for the saves to a store.  The snapshots inside of selectors are
taken in their own run, so that they may have other flags. -/
def Without (a : StoreId) (es es' : List Event) : Prop :=
  (eventsBut a es).map (fun e ↦ e.command.unflagged) = es'.map fun e ↦ e.command.unflagged

/-- Two events are the same for all stores but one. -/
structure Event.SameBut (a : StoreId) (e e' : Event) : Prop where
  command : e'.command.unflagged = e.command.unflagged
  /-- Whatever is asked of another store has the same outcome. -/
  outcome : ∀ g, e.command.store? = some g → g ≠ a → e'.outcome = e.outcome
  /-- Whatever is sent to another store for an errand is the same text. -/
  hands : ∀ g (r : Errand), e.command = r.command g → g ≠ a →
    ∀ text, e'.command.Hands e'.before g text ↔ e.command.Hands e.before g text
  /-- Another store is afterwards the same, with all that it was sent. -/
  stores : ∀ g, g ≠ a → e'.after.stores[g]? = e.after.stores[g]?

variable {a b g : StoreId} {es es' : List Event} {e : Event} {w w' : Workspace} {c c' : Command}
  {i j : PathId}

/-! ## What is saved apart from a store -/

theorem not_savedApart_nil : ¬SavedApart a [] i := by
  intro h
  generalize hes : ([] : List Event) = es at h
  cases h <;> simp at hes

theorem savedApart_concat_iff : SavedApart a (es ++ [e]) i ↔ SavedApart a es i ∨
    (e.command.savesTo a = false ∧ e.command.Marks e.before i) ∨
    ∃ k, e.command = .copy k ∧ i = e.before.paths.size ∧ SavedApart a es k := by
  constructor
  · intro h
    generalize hes : es ++ [e] = es' at h
    cases h with
    | marked hc hm =>
        obtain ⟨rfl, he⟩ := List.append_inj' hes rfl
        obtain rfl := (List.cons.inj he).1
        exact .inr (.inl ⟨hc, hm⟩)
    | copied hc hk =>
        obtain ⟨rfl, he⟩ := List.append_inj' hes rfl
        obtain rfl := (List.cons.inj he).1
        exact .inr (.inr ⟨_, hc, rfl, hk⟩)
    | kept hi =>
        obtain ⟨rfl, he⟩ := List.append_inj' hes rfl
        exact .inl hi
  · rintro (hi | ⟨hc, hm⟩ | ⟨k, hc, rfl, hk⟩)
    · exact .kept hi
    · exact .marked hc hm
    · exact .copied hc hk

theorem SavedApart.append_left (h : SavedApart a es i) (es' : List Event) :
    SavedApart a (es ++ es') i := by
  induction es' generalizing es with
  | nil => rwa [List.append_nil]
  | cons e es' ih =>
      rw [List.append_cons]
      exact ih (.kept h)

/-- Only what is asked of another store can lean on a store. -/
theorem Event.not_leansOn_of_store? (he : ∀ g, e.command.store? = some g → g = a) :
    ¬e.LeansOn a es := by
  rintro ⟨g, r, j, hc, hg, -⟩
  refine hg (he g ?_)
  rw [hc]
  cases r <;> rfl

theorem Event.not_leansOn_of_followed {r : Errand} (hc : e.command = r.command g)
    (h : ∀ p, e.before.paths[r.path]? = some p → ∀ j ∈ p.followed, SavedApart a es j) :
    ¬e.LeansOn a es := by
  rintro ⟨k, r', j, hc', -, ⟨p, text, before, after, hwrites, hsplit, -⟩, hapart⟩
  obtain rfl : r' = r := by
    have hsame := hc'.symm.trans hc
    cases r' <;> cases r <;> cases hsame <;> rfl
  refine hapart (h p hwrites.getElem? j ?_)
  rw [hsplit]
  exact List.mem_append_right _ List.mem_cons_self

theorem Event.savedApart_of_passes {r : Errand} (h : ¬e.LeansOn a es)
    (hc : e.command = r.command g) (hg : g ≠ a) (hj : r.Passes e.before j) : SavedApart a es j :=
  Classical.byContradiction fun hapart ↦ h ⟨g, r, j, hc, hg, hj, hapart⟩

theorem selfReliant_concat_iff :
    SelfReliant a (es ++ [e]) ↔ SelfReliant a es ∧ ¬e.LeansOn a es := by
  constructor
  · intro h
    refine ⟨fun before d after hes ↦ h before d (after ++ [e]) ?_, h es e [] rfl⟩
    rw [hes, List.append_assoc, List.cons_append]
  · rintro ⟨h, he⟩ before d after hes
    rcases List.eq_nil_or_concat after with rfl | ⟨after, last, rfl⟩
    · obtain ⟨rfl, hlast⟩ := List.append_inj' hes rfl
      obtain rfl := (List.cons.inj hlast).1
      exact he
    · rw [List.concat_eq_append, ← List.cons_append, ← List.append_assoc] at hes
      exact h before d after (List.append_inj' hes rfl).1

theorem SelfReliant.append_history (h : SelfReliant a es) (cs : List Command)
    (hcs : ∀ c ∈ cs, ∀ g, c.store? = some g → g = a) (w : Workspace) :
    SelfReliant a (es ++ Command.history cs w) := by
  induction cs generalizing es w with
  | nil => rwa [Command.history, List.append_nil]
  | cons c cs ih =>
      obtain ⟨hc, hcs⟩ := List.forall_mem_cons.1 hcs
      have hlean : ¬(⟨w, c⟩ : Event).LeansOn a es := Event.not_leansOn_of_store? hc
      have hrest := ih (selfReliant_concat_iff.2 ⟨h, hlean⟩) hcs (c.run w).2
      rwa [List.append_assoc] at hrest

theorem eventsBut_concat_of_savesTo (he : e.command.savesTo a = true) :
    eventsBut a (es ++ [e]) = eventsBut a es := by
  simp [eventsBut, he]

theorem eventsBut_concat (he : e.command.savesTo a = false) :
    eventsBut a (es ++ [e]) = eventsBut a es ++ [e] := by
  simp [eventsBut, he]

namespace Command

theorem eq_save_of_savesTo (h : c.savesTo a = true) : ∃ k, c = .save a k := by
  cases c with
  | save g k =>
      obtain rfl := of_decide_eq_true h
      exact ⟨k, rfl⟩
  | _ => cases h

/-- Commands that differ in flags only do the same. -/
theorem run_eq_of_unflagged (h : c'.unflagged = c.unflagged) (w : Workspace) :
    c'.run w = c.run w := by
  rw [← run_unflagged c', h, run_unflagged]

theorem hands_iff_of_unflagged {text : String} (h : c'.unflagged = c.unflagged) :
    c'.Hands w g text ↔ c.Hands w g text := by
  rw [Hands, Hands, run_eq_of_unflagged h]

theorem exists_errand_of_isErrand (h : c.isErrand = true) : ∃ g r, c = Errand.command g r := by
  cases c with
  | find g i => exact ⟨g, .find i, rfl⟩
  | save g i => exact ⟨g, .save i, rfl⟩
  | saveAs g i name => exact ⟨g, .saveAs i name, rfl⟩
  | _ => cases h

/-- To save a morphism changes its flag only. -/
theorem unflaggedPaths_run_save (w : Workspace) (g : StoreId) (i : PathId) :
    ((save g i).run w).2.unflaggedPaths = w.unflaggedPaths := by
  have heffect := effect_run w (save g i)
  rw [Workspace.unflaggedPaths]
  generalize ((save g i).run w).2.paths = paths at heffect ⊢
  cases heffect with
  | kept => rfl
  | saved hp _ _ => exact Workspace.unflaggedPaths_markSaved hp

end Command

/-! ## Two runs, one without the saves to a store -/

namespace Run

/-- Two runs of which the second one is without the saves to `a` go on step by step: a save to `a`
is left out, and all else is done in both runs. -/
theorem without_induction {P : List Event → Workspace → List Event → Workspace → Prop}
    (start : P [] .empty [] .empty)
    (left_out : ∀ es w es' w' i, Run es w → P es w es' w' →
      P (es ++ [⟨w, .save a i⟩]) ((Command.save a i).run w).2 es' w')
    (both : ∀ es w es' w' (c c' : Command), Run es w → Run es' w' → c.savesTo a = false →
      c'.unflagged = c.unflagged → P es w es' w' →
      P (es ++ [⟨w, c⟩]) (c.run w).2 (es' ++ [⟨w', c'⟩]) (c'.run w').2)
    (h : Run es w) (h' : Run es' w') (hsame : Without a es es') : P es w es' w' := by
  induction h generalizing es' w' with
  | start =>
      cases h' with
      | start => exact start
      | step _ _ => simp [Without, eventsBut] at hsame
  | @step es w c hrun _ ih =>
      cases hc : c.savesTo a with
      | true =>
          obtain ⟨i, rfl⟩ := Command.eq_save_of_savesTo hc
          rw [Without, eventsBut_concat_of_savesTo hc] at hsame
          exact left_out es w es' w' i hrun (ih h' hsame)
      | false =>
          rw [Without, eventsBut_concat hc, List.map_append] at hsame
          cases h' with
          | start => simp at hsame
          | @step es' w' c' hrun' _ =>
              rw [List.map_append] at hsame
              obtain ⟨hinit, hlast⟩ := List.append_inj' hsame rfl
              have hcommand := (List.cons.inj hlast).1
              exact both es w es' w' c c' hrun hrun' hc hcommand.symm (ih hrun' hinit)

/-- Without the saves to a store there are the same paths but for flags. -/
theorem unflaggedPaths_eq (h : Run es w) (h' : Run es' w') (hsame : Without a es es') :
    w.unflaggedPaths = w'.unflaggedPaths := by
  refine without_induction (P := fun _ w _ w' ↦ w.unflaggedPaths = w'.unflaggedPaths) rfl ?_ ?_
    h h' hsame
  · intro _ w _ _ i _ hpaths
    rw [Command.unflaggedPaths_run_save, hpaths]
  · intro _ w _ w' c c' _ _ _ hc hpaths
    rw [Command.run_eq_of_unflagged hc]
    exact Command.unflaggedPaths_run hpaths c

end Run

namespace Command

/-- Only an edge call has a snapshot. -/
theorem exists_of_snapshot? {p : Path} (h : c.snapshot? = some p) : ∃ i kind second,
    c = .build i (.edge kind (.selector (.predicates (.found p))) second) := by
  unfold snapshot? at h
  split at h
  · rename_i i call
    unfold Build.snapshot? at h
    split at h
    · rename_i kind predicates second
      split at h
      · rename_i q hq
        obtain rfl := Option.some.inj h
        unfold Value.predicates? at hq
        split at hq
        · rename_i s
          cases s with
          | predicates _ =>
              obtain rfl := Option.some.inj hq
              exact ⟨i, kind, second, rfl⟩
          | _ => cases hq
        · cases hq
      · cases h
    · cases h
  · cases h

/-- The snapshot inside of a command can be taken with another flag. -/
theorem exists_unflagged_eq {P : Path → Prop}
    (h : ∀ p, c.snapshot? = some p → ∃ p', P p' ∧ p'.unflagged = p.unflagged) :
    ∃ c' : Command, c'.unflagged = c.unflagged ∧ ∀ p, c'.snapshot? = some p → P p := by
  match hc : c.snapshot? with
  | none =>
      refine ⟨c, rfl, fun p hp ↦ ?_⟩
      rw [hc] at hp
      cases hp
  | some p =>
      obtain ⟨p', hp', hsame⟩ := h p hc
      obtain ⟨i, kind, second, rfl⟩ := exists_of_snapshot? hc
      refine ⟨.build i (.edge kind (.selector (.predicates (.found p'))) second), ?_, ?_⟩
      · simp only [unflagged, Build.unflagged, Value.unflagged, Selector.unflagged,
          Predicates.unflagged, hsame]
      · intro q hq
        cases hq
        exact hp'

end Command

namespace Run

theorem seen_concat_iff {p : Path} : Seen (es ++ [⟨w, c⟩]) (c.run w).2 p ↔
    (∃ i : PathId, (c.run w).2.paths[i]? = some p) ∨ Seen es w p := by
  rw [Seen, Seen]
  constructor
  · rintro (hp | ⟨e, he, hp⟩)
    · exact .inl hp
    · rcases List.mem_append.1 he with he | he
      · exact .inr (.inr ⟨e, he, hp⟩)
      · obtain rfl := List.mem_singleton.1 he
        exact .inr (.inl hp)
  · rintro (hp | hp | ⟨e, he, hp⟩)
    · exact .inl hp
    · exact .inr ⟨_, List.mem_append_right _ List.mem_cons_self, hp⟩
    · exact .inr ⟨e, List.mem_append_left _ he, hp⟩

/-- Every run can be done without the saves to a store. -/
theorem exists_without (h : Run es w) (a : StoreId) : ∃ es' w', Run es' w' ∧ Without a es es' ∧
    ∀ p, Seen es w p → ∃ p', Seen es' w' p' ∧ p'.unflagged = p.unflagged := by
  induction h with
  | start => exact ⟨[], .empty, .start, rfl, fun p hp ↦ ⟨p, hp, rfl⟩⟩
  | @step es w c hrun hsnapshot ih =>
      obtain ⟨es', w', hrun', hsame, hseen⟩ := ih
      have hpaths := hrun.unflaggedPaths_eq hrun' hsame
      cases hc : c.savesTo a with
      | true =>
          obtain ⟨i, rfl⟩ := Command.eq_save_of_savesTo hc
          refine ⟨es', w', hrun', ?_, fun p hp ↦ ?_⟩
          · rw [Without, eventsBut_concat_of_savesTo hc]
            exact hsame
          · rcases seen_concat_iff.1 hp with ⟨i, hi⟩ | hp
            · obtain ⟨p', hp', hflag⟩ := Workspace.exists_getElem?_of_unflaggedPaths
                ((Command.unflaggedPaths_run_save w a _).trans hpaths) hi
              exact ⟨p', seen_of_getElem? hp', hflag⟩
            · exact hseen p hp
      | false =>
          obtain ⟨c', hunflagged, hsnapshot'⟩ := Command.exists_unflagged_eq (P := Seen es' w')
            fun p hp ↦ hseen p (hsnapshot p hp)
          have hafter : (c.run w).2.unflaggedPaths = (c'.run w').2.unflaggedPaths := by
            rw [Command.run_eq_of_unflagged hunflagged]
            exact Command.unflaggedPaths_run hpaths c
          refine ⟨_, _, hrun'.step hsnapshot', ?_, fun p hp ↦ ?_⟩
          · rw [Without, eventsBut_concat hc, List.map_append, List.map_append, hsame]
            exact congrArg _ (congrArg (· :: []) hunflagged.symm)
          · rcases seen_concat_iff.1 hp with ⟨i, hi⟩ | hp
            · obtain ⟨p', hp', hflag⟩ := Workspace.exists_getElem?_of_unflaggedPaths hafter hi
              exact ⟨p', seen_of_getElem? hp', hflag⟩
            · obtain ⟨p', hp', hflag⟩ := hseen p hp
              exact ⟨p', seen_concat_iff.2 (.inr hp'), hflag⟩

end Run

/-! ## How the two runs go -/

/-- How the workspaces of two runs stand to each other as long as nothing leans on the store `a`, to
which the second run does not save. -/
structure Abreast (a : StoreId) (es : List Event) (w w' : Workspace) : Prop where
  beside : w.Beside a w'
  /-- What counts as saved in the second run is what counts as saved apart from the store. -/
  saved_iff : ∀ i, w'.isSaved i = true ↔ SavedApart a es i

namespace Run

/-- What counts as saved apart from a store counts as saved. -/
theorem isSaved_of_savedApart (h : Run es w) (hi : SavedApart a es i) : w.isSaved i = true := by
  induction h generalizing i with
  | start => exact absurd hi not_savedApart_nil
  | @step es w c hrun _ ih =>
      refine (hrun.isSaved_run_iff c i).2 ?_
      rcases savedApart_concat_iff.1 hi with hi | ⟨-, hm⟩ | ⟨k, hc, hsize, hk⟩
      · exact .inl (ih hi)
      · exact .inr (.inl hm)
      · exact .inr (.inr ⟨k, hc, hsize, ih hk⟩)

/-- A save that has marked its morphism has ended well. -/
theorem outcome_of_marks_save (h : Run es w) (hm : (Command.save g i).Marks w j) :
    ((Command.save g i).run w).1 = .ok .none := by
  cases hm with
  | saved _ _ hg hhands hreply =>
      have hadmits := h.admits_of_hands (r := .save i) hhands
      exact (h.outcome_of_admits hg hadmits).trans (by rw [hreply]; rfl)

variable (h : Run es w) (h' : Run es' w') (habreast : Abreast a es w w')

include h h' habreast

/-- An errand that does not lean on the store comes to the same in both runs. -/
theorem errand_of_abreast {r : Errand} (hg : g ≠ a)
    (hpass : ∀ j, r.Passes w j → SavedApart a es j) :
    ((r.command g).run w).1 = ((r.command g).run w').1 ∧
      ((r.command g).run w).2.storesBut a = ((r.command g).run w').2.storesBut a ∧
      ∀ text, (r.command g).Hands w g text ↔ (r.command g).Hands w' g text :=
  h.errand_mirrors h' (fun j hj ↦ h.isSaved_of_savedApart ((habreast.saved_iff j).1 hj))
    (fun j hj ↦ (habreast.saved_iff j).2 (hpass j hj)) habreast.beside hg

variable (hlean : ¬(⟨w, c⟩ : Event).LeansOn a es)

include hlean

/-- All other stores stay the same. -/
theorem storesBut_run_of_abreast : (c.run w).2.storesBut a = (c.run w').2.storesBut a := by
  cases hc : c.isErrand with
  | false => exact Command.storesBut_run_of_isErrand hc habreast.beside
  | true =>
      obtain ⟨g, r, rfl⟩ := Command.exists_errand_of_isErrand hc
      by_cases hg : g = a
      · subst hg
        rw [h.storesBut_run_errand r g, h'.storesBut_run_errand r g, habreast.beside.stores]
      · have hpass := fun j ↦ Event.savedApart_of_passes hlean (j := j) rfl hg
        exact (h.errand_of_abreast h' habreast hg hpass).2.1

/-- Whatever is asked of another store has the same outcome. -/
theorem outcome_of_abreast (hstore : c.store? = some g) (hg : g ≠ a) :
    (c.run w).1 = (c.run w').1 := by
  cases hc : c.isErrand with
  | false => exact (Command.mirrors_perform hc hstore hg w w' habreast.beside).1
  | true =>
      obtain ⟨k, r, rfl⟩ := Command.exists_errand_of_isErrand hc
      have hk : k ≠ a := by
        cases r <;> cases hstore <;> exact hg
      have hpass := fun j ↦ Event.savedApart_of_passes hlean (j := j) rfl hk
      exact (h.errand_of_abreast h' habreast hk hpass).1

/-- What is done in both runs marks the same morphisms. -/
theorem marks_iff_of_abreast (hc : c.savesTo a = false) : c.Marks w i ↔ c.Marks w' i := by
  have hsave {g : StoreId} {i : PathId} (hi : c = .save g i) :
      ((Command.save g i).run w).1 = ((Command.save g i).run w').1 := by
    have hg : g ≠ a := by simpa [hi, Command.savesTo] using hc
    have houtcome := h.outcome_of_abreast h' habreast hlean (g := g) (by rw [hi]; rfl) hg
    rwa [hi] at houtcome
  constructor
  · intro hm
    cases hm with
    | direct hl =>
        obtain ⟨k, hk, -⟩ := Workspace.exists_label?_of_unflaggedPaths habreast.beside.paths hl
        exact .direct hk
    | saved ha hcompile hg hhands hreply =>
        have hok := h.outcome_of_marks_save (.saved ha hcompile hg hhands hreply)
        exact h'.marks_of_save_eq_ok ((hsave rfl).symm.trans hok)
  · intro hm
    cases hm with
    | direct hl =>
        obtain ⟨k, hk, -⟩ := Workspace.exists_label?_of_unflaggedPaths habreast.beside.paths.symm hl
        exact .direct hk
    | saved ha hcompile hg hhands hreply =>
        have hok := h'.outcome_of_marks_save (.saved ha hcompile hg hhands hreply)
        exact h.marks_of_save_eq_ok ((hsave rfl).trans hok)

/-- What is done in both runs leaves the workspaces abreast. -/
theorem abreast_run (hc : c.savesTo a = false) :
    Abreast a (es ++ [⟨w, c⟩]) (c.run w).2 (c.run w').2 where
  beside :=
    { paths := Command.unflaggedPaths_run habreast.beside.paths c
      stores := h.storesBut_run_of_abreast h' habreast hlean }
  saved_iff := by
    intro i
    rw [h'.isSaved_run_iff, savedApart_concat_iff, habreast.saved_iff,
      ← h.marks_iff_of_abreast h' habreast hlean hc]
    simp only [Command.CopiesSaved, habreast.saved_iff,
      ← Workspace.size_paths_eq habreast.beside.paths, hc, true_and]

/-- What is done in both runs is the same for all other stores. -/
theorem sameBut_of_abreast (hc' : c'.unflagged = c.unflagged) :
    Event.SameBut a ⟨w, c⟩ ⟨w', c'⟩ where
  command := hc'
  outcome := by
    intro g hstore hg
    rw [Event.outcome, Event.outcome, Command.run_eq_of_unflagged hc',
      h.outcome_of_abreast h' habreast hlean hstore hg]
  hands := by
    intro g r hr hg text
    have hpass := fun j ↦ Event.savedApart_of_passes hlean (j := j) hr hg
    obtain ⟨-, -, hhands⟩ := h.errand_of_abreast h' habreast hg hpass
    rw [Command.hands_iff_of_unflagged hc']
    subst hr
    exact (hhands text).symm
  stores := by
    intro g hg
    have hstores := h.storesBut_run_of_abreast h' habreast hlean
    have hpaths := Command.unflaggedPaths_run habreast.beside.paths c
    rw [Event.after, Event.after, Command.run_eq_of_unflagged hc']
    exact (Beside.getElem?_stores ⟨hpaths, hstores⟩ hg).symm

omit h h' habreast hlean

/-- As long as nothing leans on a store, all other stores fare as they do without the saves to this
store. -/
theorem abreast_of_selfReliant (h : Run es w) (h' : Run es' w') (hsame : Without a es es')
    (hself : SelfReliant a es) :
    Abreast a es w w' ∧ List.Forall₂ (Event.SameBut a) (eventsBut a es) es' := by
  refine without_induction (P := fun es w es' w' ↦ SelfReliant a es →
    Abreast a es w w' ∧ List.Forall₂ (Event.SameBut a) (eventsBut a es) es') ?_ ?_ ?_
    h h' hsame hself
  · intro _
    refine ⟨⟨⟨rfl, rfl⟩, fun i ↦ iff_of_false ?_ not_savedApart_nil⟩, .nil⟩
    simp [Workspace.isSaved, Workspace.label?, Workspace.empty]
  · intro es w es' w' i hrun ih hself
    obtain ⟨habreast, hevents⟩ := ih (selfReliant_concat_iff.1 hself).1
    have hsaves : (Command.save a i).savesTo a = true := decide_eq_true rfl
    refine ⟨⟨⟨?_, ?_⟩, fun k ↦ ?_⟩, ?_⟩
    · rw [Command.unflaggedPaths_run_save, habreast.beside.paths]
    · exact (hrun.storesBut_run_errand (.save i) a).trans habreast.beside.stores
    · rw [savedApart_concat_iff, habreast.saved_iff]
      simp [hsaves]
    · rwa [eventsBut_concat_of_savesTo (e := ⟨w, .save a i⟩) hsaves]
  · intro es w es' w' c c' hrun hrun' hc hc' ih hself
    obtain ⟨hself, hlean⟩ := selfReliant_concat_iff.1 hself
    obtain ⟨habreast, hevents⟩ := ih hself
    constructor
    · rw [Command.run_eq_of_unflagged hc']
      exact hrun.abreast_run hrun' habreast hlean hc
    · rw [eventsBut_concat hc]
      have hlast := hrun.sameBut_of_abreast hrun' habreast hlean hc'
      exact List.rel_append hevents (.cons hlast .nil)

/-- An errand that leans on the store is refused in the run without the saves to it, as it asks
there for a morphism that is not saved. -/
theorem run_errand_of_passes (h : Run es w) (h' : Run es' w') (habreast : Abreast a es w w')
    (g : StoreId) {r : Errand} (hj : r.Passes w j) (hapart : ¬SavedApart a es j) :
    ∃ k n, r.Passes w k ∧ ¬SavedApart a es k ∧ w.name? k = some n ∧
      (r.command g).run w' = (.error (.unsaved (.text n)), w') := by
  have hpaths := habreast.beside.paths
  obtain ⟨p, text, before, after, hwrites, hsplit, hbefore, hsaved⟩ := hj
  obtain ⟨p', hwrites', hsame⟩ := hwrites.exists_of_unflaggedPaths hpaths
  have hfollowed := Path.followed_eq_of_unflagged hsame
  have hunsaved : ¬w'.AllSaved p' := by
    intro hall
    refine hapart ((habreast.saved_iff j).1 (hall j ?_))
    rw [hfollowed, hsplit]
    exact List.mem_append_right _ List.mem_cons_self
  match hu : w'.unsaved? p' with
  | none => exact absurd ((h'.unsaved?_eq_none hwrites'.getElem?).1 hu) hunsaved
  | some n =>
      have hfirst := (h'.unsaved?_eq_some hwrites'.getElem?).1 hu
      obtain ⟨before', k, after', hsplit', hbefore', hlabel⟩ := id hfirst
      rw [hfollowed] at hsplit'
      have hsub {i : PathId} (hi : i ∈ before') : w.isSaved i = true :=
        h.isSaved_of_savedApart ((habreast.saved_iff i).1 (hbefore' i hi))
      have hk : w.isSaved k = true := by
        -- `k` is the first that is not saved apart, so it is `j` or is asked before `j`
        rcases List.append_eq_append_iff.1 (hsplit.symm.trans hsplit') with
          ⟨rest, hrest, htail⟩ | ⟨rest, hrest, htail⟩
        · cases rest with
          | nil => exact (List.cons.inj htail).1 ▸ hsaved
          | cons i rest =>
              obtain rfl := (List.cons.inj htail).1
              have hthere : j ∈ before' := hrest ▸ List.mem_append_right _ List.mem_cons_self
              exact absurd ((habreast.saved_iff j).1 (hbefore' j hthere)) hapart
        · cases rest with
          | nil => exact (List.cons.inj htail).1 ▸ hsaved
          | cons i rest =>
              obtain rfl := (List.cons.inj htail).1
              exact hbefore k (hrest ▸ List.mem_append_right _ List.mem_cons_self)
      obtain ⟨l, hl, hname⟩ := Workspace.exists_label?_of_unflaggedPaths hpaths.symm hlabel
      refine ⟨k, n, ?_, ?_, ?_, h'.run_of_refuses (hwrites'.refuses hfirst)⟩
      · exact ⟨p, text, before', after', hwrites, hsplit', fun i hi ↦ hsub hi, hk⟩
      · intro hthere
        have hthere := (habreast.saved_iff k).2 hthere
        rw [Workspace.isSaved, hlabel] at hthere
        cases hthere
      · rw [Workspace.name?, hl, Option.map_some, hname]

/-! ## Names that are sent -/

/-- What counts as saved apart from one store was given a body in another one, if morphisms are
saved to these two only. -/
theorem assigned_of_savedApart (h : Run es w) (honly : SavesOnly (eventsBut a es) b)
    (hi : SavedApart a es i) {n : String} (hn : w.name? i = some n) : Assigned es b n := by
  induction h generalizing i n with
  | start => exact absurd hi not_savedApart_nil
  | @step es w c hrun _ ih =>
      have hearlier : SavesOnly (eventsBut a es) b := by
        rw [eventsBut, List.filter_append] at honly
        exact honly.append_left
      have hbefore {k : PathId} (hk : SavedApart a es k) (hk' : w.name? k = some n) :=
        (ih hearlier hk hk').append_left [⟨w, c⟩]
      -- No command renames a morphism.
      have hname {l : Label} (hl : w.label? i = some l) : l.name = n := by
        have hthere : w.name? i = some l.name := by rw [Workspace.name?, hl, Option.map_some]
        exact Option.some.inj ((Workspace.name?_run c hthere).symm.trans hn)
      rcases savedApart_concat_iff.1 hi with hi | ⟨hc, hm⟩ | ⟨k, rfl, rfl, hk⟩
      · have hsaved := hrun.isSaved_of_savedApart hi
        cases hl : w.label? i with
        | none =>
            rw [Workspace.isSaved, hl] at hsaved
            cases hsaved
        | some l =>
            refine hbefore hi ?_
            rw [Workspace.name?, hl, Option.map_some, hname hl]
      · have hlast : (⟨w, c⟩ : Event) ∈ eventsBut a (es ++ [⟨w, c⟩]) := by
          rw [eventsBut_concat hc]
          exact List.mem_append_right _ List.mem_cons_self
        cases hm with
        | direct _ => exact absurd rfl (honly.unmarked _ hlast i)
        | @saved g s p l _ body rs ha hcompile hg hhands hreply =>
            obtain rfl := honly.store _ hlast g i rfl
            cases ha with
            | own hp hl =>
                have hok := hrun.outcome_of_marks_save
                  (.saved (.own hp hl) hcompile hg hhands hreply)
                obtain rfl := hname ((Workspace.label?_of_getElem? hp).trans hl)
                exact ⟨_, List.mem_append_right _ List.mem_cons_self, i, body, rfl, hok, hhands⟩
      · obtain ⟨p, hp, -⟩ := Workspace.exists_of_isSaved (hrun.isSaved_of_savedApart hk)
        refine hbefore hk ?_
        rw [Command.run_copy hp] at hn
        rw [← hn, Workspace.name?, Workspace.name?, Workspace.label?_of_getElem? hp,
          Workspace.label?_of_getElem? (p := p) (by simp)]

/-- Whatever is handed to another store refers only to names that were given a body there before. -/
theorem assigned_of_selfReliant (h : Run es w) (hself : SelfReliant a es)
    (honly : SavesOnly (eventsBut a es) b) (hb : b ≠ a) {before after : List Event}
    (hes : es = before ++ e :: after) {r : Errand} (he : e.command = r.command b) {text : String}
    (hsent : e.command.Hands e.before b text) :
    ∀ n ∈ Script.references text, Assigned before b n := by
  intro n hn
  have hearlier : SavesOnly (eventsBut a before) b := by
    rw [hes, eventsBut, List.filter_append] at honly
    exact honly.append_left
  have hrun : Run before e.before := (hes ▸ h).before_event
  have hadmits := hrun.admits_of_hands (he ▸ hsent)
  obtain ⟨p, hp, hsaved, hreferences⟩ := hrun.references_of_admits hadmits
  obtain ⟨q, hwrites, -⟩ := Errand.exists_writes_of_admits hadmits
  obtain rfl : q = p := Option.some.inj (hwrites.getElem?.symm.trans hp)
  rw [hreferences] at hn
  obtain ⟨j, hj, hname⟩ := hrun.exists_followed_of_mem_references (seen_of_getElem? hp) hn
  have hpass := hwrites.passes hsaved hj
  have hapart := Event.savedApart_of_passes (hself before e after hes) he hb hpass
  exact hrun.assigned_of_savedApart hearlier hapart hname

/-- Stores are isolated but for the saved flags.  As long as nothing that is asked of other stores
leans on the store `a`, each of them is sent the same and answers the same as in the run without the
saves to `a`, which there always is; the first errand that would lean on `a` is refused in that run
and sends nothing.  If morphisms are saved to `a` and `b` only, then until then each name that is
sent to `b` was given a body there. -/
theorem isolated_of_selfReliant (h : Run es w) (hself : SelfReliant a es) :
    (∃ es' w', Run es' w' ∧ Without a es es') ∧
    (∀ es' w', Run es' w' → Without a es es' →
      List.Forall₂ (Event.SameBut a) (eventsBut a es) es' ∧
      (∀ g, g ≠ a → w.stores[g]? = w'.stores[g]?) ∧
      ∀ g (r : Errand) j, r.Passes w j → ¬SavedApart a es j →
        ∃ k n, r.Passes w k ∧ ¬SavedApart a es k ∧ w.name? k = some n ∧
          (r.command g).run w' = (.error (.unsaved (.text n)), w')) ∧
    ∀ b, b ≠ a → SavesOnly (eventsBut a es) b → ∀ before e after, es = before ++ e :: after →
      ∀ (r : Errand) text, e.command = r.command b → e.command.Hands e.before b text →
        ∀ n ∈ Script.references text, Assigned before b n := by
  refine ⟨?_, ?_, ?_⟩
  · obtain ⟨es', w', hrun', hsame, -⟩ := h.exists_without a
    exact ⟨es', w', hrun', hsame⟩
  · intro es' w' h' hsame
    obtain ⟨habreast, hevents⟩ := h.abreast_of_selfReliant h' hsame hself
    refine ⟨hevents, fun g hg ↦ habreast.beside.getElem?_stores hg, ?_⟩
    intro g r j hj hapart
    exact h.run_errand_of_passes h' habreast g hj hapart
  · intro b hb honly before e after hes r text he hsent
    exact h.assigned_of_selfReliant hself honly hb hes he hsent

/-- A morphism is saved to both stores, and then the store 1 is to find a query that follows it. -/
def savedTwice : List Command := [
  .connect .default (.recorder [] true),
  .connect .default (.recorder [] true),
  .startMorphism (.text "m"),
  .save 1 0,
  .save 0 0,
  .startVertices (.selector (.nodes .any)),
  .build 1 (.follow .forward (.path 0)),
  .build 1 (.finish .all),
  .find 1 1]

theorem run_take_savedTwice (k : Nat) : Run (Command.history (savedTwice.take k) .empty)
    (Command.runAll (savedTwice.take k) .empty).2 := by
  refine Run.start.append_history _ fun c hc ↦ ?_
  have hnone : ∀ c ∈ savedTwice, c.snapshot? = none := by
    simp [savedTwice, Command.snapshot?, Build.snapshot?]
  exact hnone c (List.mem_of_mem_take hc)

theorem getElem?_savedTwice : (Command.runAll (savedTwice.take 8) .empty).2.paths[1]? = some
    ⟨.call (.call (.start (.vertices .any)) (.follow .forward "m")) (.finish .all), [0],
      none⟩ := by
  decide +kernel

/-- The store 1 is only asked for a morphism that was saved there, too. -/
theorem selfReliant_savedTwice : SelfReliant 0 (Command.history savedTwice .empty) := by
  have hrun := run_take_savedTwice 3
  have hmarks : (Command.save 1 0).Marks (Command.runAll (savedTwice.take 3) .empty).2 0 := by
    have hsaved : ((Command.save 1 0).run
        (Command.runAll (savedTwice.take 3) .empty).2).2.isSaved 0 = true := by decide +kernel
    have hbefore : (Command.runAll (savedTwice.take 3) .empty).2.isSaved 0 = false := by
      decide +kernel
    rcases (hrun.isSaved_run_iff _ _).1 hsaved with hthere | hmarks | ⟨_, hcopy, _⟩
    · rw [hbefore] at hthere
      cases hthere
    · exact hmarks
    · cases hcopy
  have hempty : SelfReliant 0 [] := fun before e after h ↦ by simp at h
  have hfirst : SelfReliant 0 (Command.history (savedTwice.take 3) .empty) :=
    hempty.append_history (savedTwice.take 3) (by simp [savedTwice, Command.store?]) .empty
  have hsave : SelfReliant 0 (Command.history (savedTwice.take 4) .empty) := by
    refine selfReliant_concat_iff.2 ⟨hfirst, Event.not_leansOn_of_followed (r := .save 0) rfl ?_⟩
    intro p hp j hj
    have hpath : (Command.runAll (savedTwice.take 3) .empty).2.paths[0]? =
        some (.morphism "m") := by decide +kernel
    obtain rfl := Option.some.inj (hp.symm.trans hpath)
    cases hj
  have hbuilt : SelfReliant 0 (Command.history (savedTwice.take 8) .empty) :=
    hsave.append_history ((savedTwice.take 8).drop 4) (by simp [savedTwice, Command.store?]) _
  refine selfReliant_concat_iff.2 ⟨hbuilt, Event.not_leansOn_of_followed (r := .find 1) rfl ?_⟩
  intro p hp j hj
  obtain rfl := Option.some.inj (hp.symm.trans getElem?_savedTwice)
  obtain rfl := List.mem_singleton.1 hj
  have hapart : SavedApart 0 (Command.history (savedTwice.take 3) .empty ++
      [⟨(Command.runAll (savedTwice.take 3) .empty).2, .save 1 0⟩]) 0 := .marked rfl hmarks
  exact hapart.append_left (Command.history ((savedTwice.take 8).drop 4) _)

/-- So the store 1 is as it would be without the save to the store 0, and the name that it was sent
was given a body there. -/
theorem isolated_of_savedTwice :
    SelfReliant 0 (Command.history savedTwice .empty) ∧
    (∃ es' w', Run es' w' ∧ Without 0 (Command.history savedTwice .empty) es' ∧
      (Command.runAll savedTwice .empty).2.stores[1]? = w'.stores[1]?) ∧
    Assigned (Command.history (savedTwice.take 8) .empty) 1 "m" := by
  obtain ⟨⟨es', w', hrun', hsame⟩, hfares, hnames⟩ :=
    isolated_of_selfReliant (run_take_savedTwice 9) selfReliant_savedTwice
  refine ⟨selfReliant_savedTwice, ⟨es', w', hrun', hsame, ?_⟩, ?_⟩
  · exact (hfares es' w' hrun' hsame).2.1 1 (by decide)
  · have honly : SavesOnly (eventsBut 0 (Command.history savedTwice .empty)) 1 := by
      constructor
      · intro e he g i hc
        obtain ⟨he, hkept⟩ := List.mem_filter.1 he
        simp only [savedTwice, Command.history, List.mem_cons, List.not_mem_nil, or_false] at he
        rcases he with rfl | rfl | rfl | rfl | rfl | rfl | rfl | rfl | rfl <;> cases hc
        · rfl
        · cases hkept
      · intro e he i hc
        obtain ⟨he, -⟩ := List.mem_filter.1 he
        simp only [savedTwice, Command.history, List.mem_cons, List.not_mem_nil, or_false] at he
        rcases he with rfl | rfl | rfl | rfl | rfl | rfl | rfl | rfl | rfl <;> cases hc
    have hstores : (Command.runAll (savedTwice.take 8) .empty).2.stores.size = 2 := by
      decide +kernel
    have hsaved : (Command.runAll (savedTwice.take 8) .empty).2.isSaved 0 = true := by
      decide +kernel
    have hhands : (Command.find 1 1).Hands (Command.runAll (savedTwice.take 8) .empty).2 1
        "g.V().Follow(m).All()" := by
      refine (run_take_savedTwice 8).hands_of_admits (r := .find 1)
        (Array.getElem?_eq_getElem (by rw [hstores]; decide))
        (.query getElem?_savedTwice rfl rfl ?_)
      intro j hj
      obtain rfl := List.mem_singleton.1 hj
      exact hsaved
    refine hnames 1 (by decide) honly _ ⟨_, .find 1 1⟩ [] rfl (.find 1) _ rfl hhands "m" ?_
    decide +kernel

/-- A morphism is saved to the store 0 only and then followed by a query. -/
def savedElsewhere : List Command := [
  .connect .default (.recorder [] true),
  .connect .default (.recorder [] true),
  .startMorphism (.text "m"),
  .build 0 (.edge .out (.selector (.predicates (.named (.one "follows"))))
    (.selector (.tags .any))),
  .save 0 0,
  .startVertices (.selector (.nodes (.one "C"))),
  .build 1 (.follow .forward (.path 0)),
  .build 1 (.finish .all)]

/-- The same without the save. -/
def notSaved : List Command := savedElsewhere.filter fun c ↦ !c.savesTo 0

theorem run_savedElsewhere :
    Run (Command.history savedElsewhere .empty) (Command.runAll savedElsewhere .empty).2 :=
  Run.start.append_history savedElsewhere
    (by simp [savedElsewhere, Command.snapshot?, Build.snapshot?, Value.predicates?,
      Selector.predicates?])

theorem run_notSaved : Run (Command.history notSaved .empty) (Command.runAll notSaved .empty).2 :=
  Run.start.append_history notSaved
    (by simp [notSaved, savedElsewhere, Command.savesTo, Command.snapshot?, Build.snapshot?,
      Value.predicates?, Selector.predicates?])

/-- The store 1 is sent the query after the save to the store 0. -/
theorem hands_savedElsewhere : (Command.find 1 1).Hands
    (Command.runAll savedElsewhere .empty).2 1 "g.V(\"C\").Follow(m).All()" := by
  have hpath : (Command.runAll savedElsewhere .empty).2.paths[1]? = some
      ⟨.call (.call (.start (.vertices (.one "C"))) (.follow .forward "m")) (.finish .all),
        [0], none⟩ := by
    decide +kernel
  have hstores : (Command.runAll savedElsewhere .empty).2.stores.size = 2 := by
    decide +kernel
  refine run_savedElsewhere.hands_of_admits (r := .find 1)
    (Array.getElem?_eq_getElem (by rw [hstores]; decide)) (.query hpath rfl rfl ?_)
  intro j hj
  obtain rfl := List.mem_singleton.1 hj
  decide +kernel

/-- Without the save it is not. -/
theorem not_hands_notSaved (text : String) :
    ¬(Command.find 1 1).Hands (Command.runAll notSaved .empty).2 1 text := by
  intro hhands
  obtain ⟨p, hp, hall⟩ := (run_notSaved.admits_of_hands (r := .find 1) hhands).allSaved
  have hpath : (Command.runAll notSaved .empty).2.paths[1]? = some
      ⟨.call (.call (.start (.vertices (.one "C"))) (.follow .forward "m")) (.finish .all),
        [0], none⟩ := by
    decide +kernel
  obtain rfl := Option.some.inj (hp.symm.trans hpath)
  have hsaved : (Command.runAll notSaved .empty).2.isSaved 0 = false := by decide +kernel
  have hthere := hall 0 List.mem_cons_self
  rw [hsaved] at hthere
  cases hthere

/-- Without all saves to one store another one does not always fare the same. -/
theorem not_forall_sameBut : ¬∀ (a : StoreId) es w es' w', Run es w → Run es' w' →
    Without a es es' → (∀ e ∈ es, ∀ i, e.command ≠ .markSaved i) →
    List.Forall₂ (Event.SameBut a) (eventsBut a es) es' := by
  intro hall
  have hrun := run_savedElsewhere.step (c := .find 1 1) fun p hp ↦ by cases hp
  have hrun' := run_notSaved.step (c := .find 1 1) fun p hp ↦ by cases hp
  have hevents := hall 0 _ _ _ _ hrun hrun' rfl (by simp [savedElsewhere, Command.history])
  rw [eventsBut_concat rfl, ← List.forall₂_reverse_iff, List.reverse_append,
    List.reverse_append] at hevents
  cases hevents with
  | cons hlast _ =>
      have hsame := hlast.hands 1 (.find 1) rfl (by decide) "g.V(\"C\").Follow(m).All()"
      exact not_hands_notSaved _ (hsame.2 hands_savedElsewhere)

end Run

end GraphQuery
