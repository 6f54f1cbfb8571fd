import GraphQuery.Proofs.Failure
import GraphQuery.Proofs.Gate

/-!
# The saved flag

A morphism counts as saved from the moment it is marked: directly, or by a `save` of which the
statement was sent and the answer could be read (`Command.Marks`).  Nothing else sets the flag but a
copy, which takes over the flag of what it is a copy of, and nothing ever clears it
(`Run.isSaved_run_iff`).  What is asked of a store leaves all else that paths are as it was.

A saved morphism only follows saved ones, so morphisms that follow each other in a ring cannot be
saved one after the other: without direct marks a ring that is not saved stays so, and nothing is
sent for the morphisms in it (`Run.isRing_later`).
-/

namespace GraphQuery

open Work

namespace Command

/-- A command marks a morphism as saved. -/
inductive Marks (w : Workspace) (i : PathId) : Command → Prop
  | direct {l : Label} : w.label? i = some l → Marks w i (.markSaved i)
  /-- The statement of the morphism was sent, and the answer could be read. -/
  | saved {g : StoreId} {s : Store} {p : Path} {l : Label} {n body : String} {rs : ResultSet} :
      (Errand.save i).Assigns w p l n → p.compile = .ok body → w.stores[g]? = some s →
      (Command.save g i).Hands w g (n ++ " = " ++ body) →
      s.reply (n ++ " = " ++ body) = .ok rs → Marks w i (.save g i)

/-- A command makes the path `i` by copying a morphism that is saved. -/
def CopiesSaved (w : Workspace) (i : PathId) (c : Command) : Prop :=
  ∃ k, c = .copy k ∧ i = w.paths.size ∧ w.isSaved k = true

end Command

namespace Workspace

variable {w : Workspace} {i : PathId} {p : Path}

theorem isSaved_of_getElem? (h : w.paths[i]? = some p) : w.isSaved i = p.isSaved := by
  rw [isSaved, label?_of_getElem? h]
  rfl

/-- What is saved is a path. -/
theorem exists_of_isSaved (h : w.isSaved i = true) :
    ∃ p, w.paths[i]? = some p ∧ p.isSaved = true := by
  cases hp : w.paths[i]? with
  | none => simp [isSaved, label?, hp] at h
  | some p => exact ⟨p, rfl, by rw [← isSaved_of_getElem? hp, h]⟩

/-- None of some morphisms is saved, and each of them follows one of them. -/
def IsRing (w : Workspace) (ring : List PathId) : Prop :=
  ∀ i ∈ ring, (∃ n, w.label? i = some ⟨n, false⟩) ∧ ∃ j ∈ ring, j ∈ w.followedBy i

/-- A morphism that follows itself and is not saved is a ring. -/
theorem isRing_singleton {n : String} (hl : w.label? i = some ⟨n, false⟩)
    (hi : i ∈ w.followedBy i) : w.IsRing [i] := by
  intro j hj
  obtain rfl := List.mem_singleton.1 hj
  exact ⟨⟨n, hl⟩, j, hj, hi⟩

/-- Nothing is sent for a morphism of a ring. -/
theorem IsRing.not_admits {ring : List PathId} {r : Errand} {text : String} (h : w.IsRing ring)
    (hr : r.path ∈ ring) : ¬w.Admits r text := by
  intro hadmits
  obtain ⟨p, hp, hall⟩ := hadmits.allSaved
  obtain ⟨_, j, hj, hfollows⟩ := h _ hr
  obtain ⟨⟨n, hl⟩, _⟩ := h j hj
  rw [followedBy_of_getElem? hp] at hfollows
  have hsaved := hall j hfollows
  rw [isSaved, hl] at hsaved
  cases hsaved

end Workspace

@[simp] theorem Path.isSaved_markSaved (p : Path) : p.markSaved.isSaved = p.label.isSome := by
  unfold markSaved isSaved
  cases p.label <;> rfl

/-! ## What one command does to the flags -/

namespace Run

open GraphQuery.Action

variable {es : List Event} {w : Workspace} {c : Command} {g : StoreId} {i : PathId}

/-- A save that ends well has marked the morphism. -/
theorem marks_of_save_eq_ok (h : Run es w) {v : Value}
    (hok : ((Command.save g i).run w).1 = .ok v) : (Command.save g i).Marks w i := by
  obtain ⟨text, hadmits, hhands⟩ := h.exists_hands_of_ok (r := .save i) hok
  obtain ⟨s, hg, _⟩ := id hhands
  obtain ⟨p, l, hu, hrun⟩ := h.run_of_admits g hadmits
  have hconsult : (consult g p (.ok text)).on w = _ := on_consult_of_ok hg hu
  cases hreply : s.reply text with
  | ok rs =>
      cases hadmits with
      | statement ha hc _ => exact .saved ha hc hg hhands hreply
  | error e =>
      rw [hreply] at hconsult
      rw [on_bind_of_error hconsult] at hrun
      have herror : ((Command.save g i).run w).1 = .error e := congrArg Prod.fst hrun
      rw [hok] at herror
      cases herror

/-- To mark a morphism changes its flag and nothing else of any path. -/
theorem paths_run_of_marks (h : Run es w) (hm : c.Marks w i) : ∃ p, w.paths[i]? = some p ∧
    p.label.isSome = true ∧ (c.run w).2.paths = w.paths.setIfInBounds i p.markSaved := by
  cases hm with
  | direct hl =>
      obtain ⟨p, hp, hlabel⟩ := Workspace.exists_of_label? hl
      have hexpect : (discard (expectLabel i "mark_saved")).on w = (.ok (), w) :=
        on_bind_of_ok (Errand.on_expectLabel hp hlabel) _
      refine ⟨p, hp, by rw [hlabel]; rfl, ?_⟩
      change (discard (expectLabel i "mark_saved") >>= fun _ ↦
        markSaved i >>= fun _ ↦ pure Value.none).on w |>.2.paths = _
      rw [on_bind_of_ok hexpect, on_bind_of_ok (on_markSaved hp)]
      rfl
  | @saved g s p l n body rs ha _ hg hhands hreply =>
      have hp : w.paths[i]? = some p := ha.getElem?
      obtain ⟨q, k, hu, hrun⟩ := h.run_of_admits g (h.admits_of_hands (r := .save i) hhands)
      have hconsult : (consult g q (.ok (n ++ " = " ++ body))).on w = _ := on_consult_of_ok hg hu
      rw [hreply] at hconsult
      rw [on_bind_of_ok hconsult, Errand.conclude] at hrun
      have hmark := on_markSaved (w := w.sending g s (n ++ " = " ++ body)) hp
      refine ⟨p, hp, ?_, ?_⟩
      · cases ha with
        | own _ hl => rw [hl]; rfl
      · change ((Errand.save i).command g).run w |>.2.paths = _
        rw [hrun, on_bind_of_ok hmark]
        rfl

/-- What is saved stays saved. -/
theorem isSaved_run_of_isSaved (hsaved : w.isSaved i = true) (c : Command) :
    (c.run w).2.isSaved i = true := by
  obtain ⟨p, hp, hsaved⟩ := Workspace.exists_of_isSaved hsaved
  obtain ⟨q, hq, horigin⟩ := Command.exists_of_getElem? (c := c) hp
  rw [Workspace.isSaved_of_getElem? hq]
  rcases horigin.of_getElem? hp with rfl | ⟨_, _, _, _, _, _, rfl⟩ | ⟨l, hl, _, rfl⟩
  · exact hsaved
  · exact hsaved
  · rw [Path.isSaved_markSaved, hl]
    rfl

/-- A morphism counts as saved after a command exactly if it did before, or the command marked it,
or the command made it by copying one that did. -/
theorem isSaved_run_iff (h : Run es w) (c : Command) (i : PathId) :
    (c.run w).2.isSaved i = true ↔ w.isSaved i = true ∨ c.Marks w i ∨ c.CopiesSaved w i := by
  constructor
  · intro hsaved
    obtain ⟨q, hq, hsaved⟩ := Workspace.exists_of_isSaved hsaved
    cases Command.origin_run hq with
    | old hp => exact .inl (by rw [Workspace.isSaved_of_getElem? hp, hsaved])
    | vertices _ => cases hsaved
    | morphism _ _ => cases hsaved
    | @copied k p hi hc hp =>
        refine .inr (.inr ⟨k, hc, hi, ?_⟩)
        rw [Workspace.isSaved_of_getElem? hp, hsaved]
    | built _ hp _ _ => exact .inl (by rw [Workspace.isSaved_of_getElem? hp]; exact hsaved)
    | marked hp hl hc =>
        right
        left
        rcases hc with rfl | ⟨g, rfl, hok⟩
        · exact .direct ((Workspace.label?_of_getElem? hp).trans hl)
        · exact h.marks_of_save_eq_ok hok
  · rintro (hsaved | hmarks | ⟨k, rfl, rfl, hk⟩)
    · exact isSaved_run_of_isSaved hsaved c
    · obtain ⟨p, hp, hl, hpaths⟩ := h.paths_run_of_marks hmarks
      have hq : (c.run w).2.paths[i]? = some p.markSaved := by
        rw [hpaths, Command.getElem?_setIfInBounds_of_some hp]
      rw [Workspace.isSaved_of_getElem? hq, Path.isSaved_markSaved, hl]
    · obtain ⟨p, hp, hsaved⟩ := Workspace.exists_of_isSaved hk
      rw [Command.run_copy hp, Workspace.isSaved_of_getElem? (p := p) (by simp), hsaved]

end Run

/-! ## What a run does to the flags -/

/-- What an event has to do with the flags of morphisms. -/
structure Event.KeepsFlags (e : Event) : Prop where
  /-- A flag is set by marking the morphism or by copying it from one that is set, and it is never
  cleared. -/
  saved_iff : ∀ i, e.after.isSaved i = true ↔
    e.before.isSaved i = true ∨ e.command.Marks e.before i ∨ e.command.CopiesSaved e.before i
  /-- A copy begins with all that its source is at that moment. -/
  copied : ∀ k p, e.command = .copy k → e.before.paths[k]? = some p →
    e.outcome = .ok (.path e.before.paths.size) ∧ e.after.paths = e.before.paths.push p
  /-- A save that ends well has marked the morphism. -/
  saved : ∀ g i v, e.command = .save g i → e.outcome = .ok v → e.command.Marks e.before i
  /-- To mark a morphism changes nothing but its flag. -/
  marked : ∀ i, e.command.Marks e.before i → ∃ p, e.before.paths[i]? = some p ∧
    e.after.paths = e.before.paths.setIfInBounds i p.markSaved
  /-- To find, to execute, to save under another name and to fail changes no path at all. -/
  kept : e.command.touchesPaths = false ∨ (∃ error, e.outcome = .error error) →
    e.after.paths = e.before.paths

namespace Run

variable {es before after : List Event} {e : Event} {w : Workspace} {ring : List PathId}

theorem keepsFlags (h : Run es w) (c : Command) : (⟨w, c⟩ : Event).KeepsFlags where
  saved_iff := h.isSaved_run_iff c
  copied := by
    rintro k p rfl hp
    rw [Event.outcome, Event.after, Command.run_copy hp]
    exact ⟨rfl, rfl⟩
  saved := by
    rintro g i v rfl hok
    exact h.marks_of_save_eq_ok hok
  marked := by
    intro i hm
    obtain ⟨p, hp, _, hpaths⟩ := h.paths_run_of_marks hm
    exact ⟨p, hp, hpaths⟩
  kept := by
    rintro (hc | ⟨error, herror⟩)
    · exact Command.keepsPaths_perform hc w
    · exact Command.paths_run_of_error herror

/-- After a run a morphism counts as saved exactly if some event marked it, or made it by copying
one that counted as saved then. -/
theorem isSaved_iff_exists (h : Run es w) (i : PathId) : w.isSaved i = true ↔
    ∃ e ∈ es, e.command.Marks e.before i ∨ e.command.CopiesSaved e.before i := by
  induction h with
  | start => simp [Workspace.isSaved, Workspace.label?, Workspace.empty]
  | @step es w c hrun _ ih =>
      rw [hrun.isSaved_run_iff, ih]
      simp only [List.mem_append, List.mem_singleton, or_and_right, exists_or, exists_eq_left]

/-- A ring stays a ring, and nothing but a direct mark can change that. -/
theorem isRing_run (h : Run es w) {c : Command} (hring : w.IsRing ring)
    (hc : ∀ i ∈ ring, c ≠ .markSaved i) : (c.run w).2.IsRing ring := by
  intro i hi
  obtain ⟨⟨n, hl⟩, j, hj, hfollows⟩ := hring i hi
  obtain ⟨p, hp, hlabel⟩ := Workspace.exists_of_label? hl
  obtain ⟨q, hq, horigin⟩ := Command.exists_of_getElem? (c := c) hp
  rw [Workspace.followedBy_of_getElem? hp] at hfollows
  rw [Workspace.label?_of_getElem? hq, Workspace.followedBy_of_getElem? hq]
  rcases horigin.of_getElem? hp with rfl | ⟨_, _, _, _, _, _, rfl⟩ | ⟨_, _, hmark, rfl⟩
  · exact ⟨⟨n, hlabel⟩, j, hj, hfollows⟩
  · exact ⟨⟨n, hlabel⟩, j, hj, mem_absorb.2 (.inl hfollows)⟩
  · exfalso
    rcases hmark with rfl | ⟨g, rfl, hok⟩
    · exact hc i hi rfl
    · -- the save would have asked that the next one of the ring is saved
      obtain ⟨text, hadmits, _⟩ := h.exists_hands_of_ok (r := .save i) hok
      exact hring.not_admits (r := .save i) hi hadmits

/-- Whatever is asked of a store with a morphism of a ring fails and does nothing. -/
theorem run_of_isRing (h : Run es w) (hring : w.IsRing ring) {g : StoreId} {r : Errand}
    (hr : r.path ∈ ring) : ∃ error, (r.command g).run w = (.error error, w) := by
  rcases h.admits_or_run_eq_error g r with ⟨text, hadmits⟩ | herror
  · exact absurd hadmits (hring.not_admits hr)
  · exact herror

/-- Without direct marks a ring of a run is one ever after. -/
theorem isRing_later (h : Run (before ++ e :: after) w) (hring : e.before.IsRing ring)
    (hdirect : ∀ d ∈ e :: after, ∀ i ∈ ring, d.command ≠ .markSaved i) :
    w.IsRing ring ∧ ∀ d ∈ e :: after, d.before.IsRing ring := by
  refine h.forall_later (P := fun u ↦ u.IsRing ring) hring ?_
  intro d hd hthere
  obtain ⟨_, hrun⟩ := h.exists_run_of_mem (List.mem_append_right before hd)
  exact hrun.isRing_run hthere (hdirect d hd)

/-- The life of the saved flag.  Every event sets flags by marking and copying only and leaves all
else of the paths alone, so a morphism counts as saved exactly if it was marked, or copied when it
was; and a ring of unsaved morphisms that is never marked directly is never saved, and all that is
asked of a store with one of them fails and sends nothing. -/
theorem saved_iff_marked (h : Run es w) :
    (∀ e ∈ es, e.KeepsFlags) ∧
    (∀ i, w.isSaved i = true ↔
      ∃ e ∈ es, e.command.Marks e.before i ∨ e.command.CopiesSaved e.before i) ∧
    ∀ before e after, es = before ++ e :: after → ∀ ring, e.before.IsRing ring →
      (∀ d ∈ e :: after, ∀ i ∈ ring, d.command ≠ .markSaved i) → ∀ i ∈ ring,
        w.isSaved i = false ∧ ∀ d ∈ e :: after, ∀ g (r : Errand), d.command = r.command g →
          r.path = i → ∃ error, d.outcome = .error error ∧ d.after = d.before := by
  refine ⟨?_, h.isSaved_iff_exists, ?_⟩
  · intro e he
    obtain ⟨_, hrun⟩ := h.exists_run_of_mem he
    exact hrun.keepsFlags e.command
  · rintro before e after rfl ring hring hdirect i hi
    obtain ⟨hend, hlater⟩ := h.isRing_later hring hdirect
    constructor
    · obtain ⟨⟨n, hl⟩, _⟩ := hend i hi
      rw [Workspace.isSaved, hl]
      rfl
    · rintro ⟨u, _⟩ hd g r rfl rfl
      obtain ⟨_, hrun⟩ := h.exists_run_of_mem (List.mem_append_right before hd)
      obtain ⟨error, herror⟩ := hrun.run_of_isRing (g := g) (hlater _ hd) hi
      exact ⟨error, congrArg Prod.fst herror, congrArg Prod.snd herror⟩

/-- A morphism that follows itself is copied and saved under both names. -/
def selfFollowing : List Command := [
  .connect .default (.recorder [] true),
  .startMorphism (.text "m"),
  .build 0 (.follow .forward (.path 0)),
  .save 0 0,
  .saveAs 0 0 (.text "n")]

/-- It is a ring by itself, so both attempts fail, and it is not saved after them. -/
theorem saved_of_selfFollowing :
    let w := (Command.runAll selfFollowing .empty).2
    w.isSaved 0 = false ∧ ∀ e ∈ Command.history selfFollowing .empty, e.KeepsFlags := by
  have hrun := Run.start.append_history selfFollowing
    (by simp [selfFollowing, Command.snapshot?, Build.snapshot?])
  have hlaws := saved_iff_marked hrun
  refine ⟨?_, hlaws.1⟩
  have hring := hlaws.2.2 ((Command.history selfFollowing .empty).take 3) _ _
    (List.take_append_drop 3 _).symm [0]
  refine (hring ?_ ?_ 0 List.mem_cons_self).1
  · exact Workspace.isRing_singleton (n := "m") rfl List.mem_cons_self
  · intro d hd j _
    simp only [Command.history, List.mem_cons, List.not_mem_nil, or_false] at hd
    rcases hd with rfl | rfl <;> simp

end Run

end GraphQuery
