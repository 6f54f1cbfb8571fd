import GraphQuery.Proofs.Extension

/-!
# What a command makes of the paths

Of all commands only a few touch the paths of a workspace, and each of them adds one path or
replaces one.  `Command.Effect` lists the ways; `effect_run` says that there are no others.  In
particular a failing command leaves every path as it was, and paths never go away.

On the other side `dealings_run_of_isBuilder` says that no command that builds or looks at paths has
to do with a store.
-/

namespace GraphQuery

open Work

namespace Command

/-- The paths after a command that ends well, by what the command does to them. -/
inductive Effect (w : Workspace) : Command → Array Path → Prop
  /-- The paths stay as they are. -/
  | kept {c : Command} : Effect w c w.paths
  | vertices {nodes : Value} {choice : Choice} : nodes.choice? .node = some choice →
      Effect w (.startVertices nodes) (w.paths.push (.vertices choice))
  | morphism {s n : String} : Identifier.check s = .ok n →
      Effect w (.startMorphism (.text s)) (w.paths.push (.morphism n))
  | copied {i : PathId} {p : Path} : w.paths[i]? = some p → Effect w (.copy i) (w.paths.push p)
  | built {i : PathId} {p : Path} {call : Build} {next : Traversal} {brought : List PathId} :
      w.paths[i]? = some p → p.isFinalized = false → call.Adds w p next brought →
      Effect w (.build i call) (w.paths.setIfInBounds i
        { p with traversal := next, followed := absorb p.followed brought })
  | marked {i : PathId} {p : Path} {l : Label} : w.paths[i]? = some p → p.label = some l →
      Effect w (.markSaved i) (w.paths.setIfInBounds i p.markSaved)
  /-- Only a morphism whose statement was sent and answered is marked. -/
  | saved {g : StoreId} {i : PathId} {p : Path} {l : Label} :
      w.paths[i]? = some p → p.label = some l → ((Command.save g i).run w).1 = .ok .none →
      Effect w (.save g i) (w.paths.setIfInBounds i p.markSaved)

end Command

namespace Action

open Workspace (paths stores)

variable {α : Type}

/-! ## Actions that leave the paths alone -/

theorem Keeps.stores_of_quiet {x : Action α} (hx : Quiet x) : Keeps stores x :=
  .of_part hx fun _ ↦ rfl

theorem keepsPaths_extend (p : Path) (call : Build) : Keeps paths (extend p call) :=
  .of_part (onlyWarns_extend p call) fun _ ↦ rfl

theorem Keeps.statementAs {γ : Type} {view : Workspace → γ} (i : PathId) (l : Label) (v : Value) :
    Keeps view (Action.statementAs i l v) :=
  (Keeps.expectName v).bind fun _ ↦ (Keeps.getPath i).bind fun _ ↦ Keeps.ofResult _

theorem Keeps.checkFollowed {γ : Type} {view : Workspace → γ} (p : Path) :
    Keeps view (Action.checkFollowed p) := by
  refine Keeps.get.bind fun w ↦ ?_
  cases w.unsaved? p
  · exact Keeps.pure _
  · exact Keeps.throw _

/-! A view that is blind to the log and to one store or link does not see what is done there. -/

section

variable {γ : Type} {view : Workspace → γ}

theorem Keeps.execute {g : StoreId} (hnote : ∀ entry, Keeps view (note entry))
    (hset : ∀ s, Keeps view (setStore g s)) (query : Value) :
    Keeps view (Action.execute g query) := by
  refine (Keeps.getStore g).bind fun store ↦ (Keeps.inText query).bind fun shown ↦ ?_
  refine (hnote _).bind fun _ ↦ Keeps.get.bind fun w ↦ (hset _).bind fun _ ↦ ?_
  refine (Keeps.forM hnote _).bind fun _ ↦ ?_
  exact (Keeps.ofResult _).bind fun _ ↦ Keeps.ofResult _

theorem Keeps.closeStore {g : StoreId} (hset : ∀ s, Keeps view (setStore g s)) :
    Keeps view (Action.closeStore g) :=
  (Keeps.getStore g).bind fun _ ↦ hset _

theorem Keeps.sendOver {k : LinkId} (hnote : ∀ entry, Keeps view (note entry))
    (hset : ∀ l, Keeps view (setLink k l)) (query : Value) :
    Keeps view (Action.sendOver k query) := by
  refine (Keeps.getLink k).bind fun link ↦ Keeps.get.bind fun w ↦ (hset _).bind fun _ ↦ ?_
  exact (Keeps.forM hnote _).bind fun _ ↦ Keeps.ofResult _

theorem Keeps.closeLink {k : LinkId} (hset : ∀ l, Keeps view (setLink k l)) :
    Keeps view (Action.closeLink k) :=
  (Keeps.getLink k).bind fun _ ↦ hset _

theorem Keeps.find {g : StoreId} (hexecute : ∀ query, Keeps view (Action.execute g query))
    (i : PathId) : Keeps view (Action.find g i) := by
  refine (Keeps.getPath i).bind fun p ↦ ?_
  have hrest : Keeps view (do
      let query ← Work.ofResult p.compile
      Action.checkFollowed p
      Action.execute g (.text query)) :=
    (Keeps.ofResult _).bind fun _ ↦ (Keeps.checkFollowed p).bind fun _ ↦ hexecute _
  cases hf : p.isFinalized
  · exact (Keeps.throw _).bind fun _ ↦ hrest
  · exact hrest

end

theorem keepsPaths_note (entry : LogEntry) : Keeps paths (note entry) := fun _ ↦ rfl

theorem keepsPaths_execute (g : StoreId) (query : Value) : Keeps paths (execute g query) :=
  Keeps.execute keepsPaths_note (fun _ _ ↦ rfl) query

/-- What saving a morphism under any name begins with: its statement is sent and answered. -/
def submit (g : StoreId) (i : PathId) (label : Label) (name : Value) : Action Unit := do
  let statement ← statementAs i label name
  checkFollowed (← getPath i)
  discard (execute g (.text statement))

theorem save_eq_submit (g : StoreId) (i : PathId) : save g i = (do
    let label ← expectLabel i "save_statement"
    submit g i label (.text label.name)
    markSaved i
    note ⟨.debug, "Saved morphism " ++ Text.display label.name⟩) := by
  simp only [save, submit, bind_assoc]

theorem saveAs_eq_submit (g : StoreId) (i : PathId) (name : Value) : saveAs g i name = (do
    let label ← expectLabel i "save_statement_as"
    submit g i label name
    note ⟨.debug, "Saved morphism " ++ Text.display label.name ++ " as " ++ (← display name)⟩) := by
  simp only [saveAs, submit, bind_assoc]

theorem Keeps.submit {γ : Type} {view : Workspace → γ} {g : StoreId}
    (hexecute : ∀ query, Keeps view (Action.execute g query)) (i : PathId) (l : Label)
    (name : Value) : Keeps view (Action.submit g i l name) := by
  refine (Keeps.statementAs i l name).bind fun statement ↦ (Keeps.getPath i).bind fun p ↦ ?_
  exact (Keeps.checkFollowed p).bind fun _ ↦ (hexecute _).bind fun _ ↦ Keeps.pure _

theorem keepsPaths_submit (g : StoreId) (i : PathId) (l : Label) (name : Value) :
    Keeps paths (submit g i l name) :=
  Keeps.submit (keepsPaths_execute g) i l name

theorem Keeps.saveAs {γ : Type} {view : Workspace → γ} {g : StoreId}
    (hnote : ∀ entry, Keeps view (note entry))
    (hexecute : ∀ query, Keeps view (Action.execute g query)) (i : PathId) (name : Value) :
    Keeps view (Action.saveAs g i name) := by
  rw [saveAs_eq_submit]
  refine (Keeps.expectLabel i _).bind fun l ↦ (Keeps.submit hexecute i l name).bind fun _ ↦ ?_
  exact (Keeps.display name).bind fun _ ↦ hnote _

theorem Keeps.answer {γ : Type} {view : Workspace → γ} (i : PathId) (question : Inspection) :
    Keeps view (question.answer i) := by
  refine (Keeps.getPath i).bind fun p ↦ ?_
  cases question with
  | compile => exact (Keeps.ofResult _).bind fun _ ↦ Keeps.pure _
  | name => exact (Keeps.expectLabel _ _).bind fun _ ↦ Keeps.pure _
  | isSaved => exact (Keeps.expectLabel _ _).bind fun _ ↦ Keeps.pure _
  | statement =>
      exact (Keeps.expectLabel _ _).bind fun _ ↦ (Keeps.statementAs _ _ _).bind fun _ ↦ Keeps.pure _
  | statementAs target =>
      exact (Keeps.expectLabel _ _).bind fun _ ↦ (Keeps.statementAs _ _ _).bind fun _ ↦ Keeps.pure _
  | _ => exact Keeps.pure _

theorem Keeps.block {γ : Type} {view : Workspace → γ} (fault : Option Fault) :
    Keeps view (Command.block fault) := by
  cases fault
  · exact Keeps.pure _
  · exact Keeps.throw _

/-! ## Actions that change paths -/

open Command (Effect)

variable {w : Workspace}

theorem effect_startVertices (nodes : Value) :
    Effect w (.startVertices nodes) ((startVertices nodes).on w).2.paths := by
  refine after_bind (P := fun u : Workspace ↦ Effect w (.startVertices nodes) u.paths)
    (fun e v h ↦ ?_) fun choice v h ↦ ?_
  · rw [(Keeps.expectChoice _ _).eq_of_on h]
    exact .kept
  · obtain ⟨hchoice, rfl⟩ := expectChoice_eq_ok h
    exact .vertices hchoice

theorem effect_startMorphism (name : Value) :
    Effect w (.startMorphism name) ((startMorphism name).on w).2.paths := by
  refine after_bind (P := fun u : Workspace ↦ Effect w (.startMorphism name) u.paths)
    (fun e v h ↦ ?_) fun n v h ↦ ?_
  · rw [(Keeps.expectName _).eq_of_on h]
    exact .kept
  · obtain ⟨⟨s, rfl, hs⟩, rfl⟩ := expectName_eq_ok h
    exact .morphism hs

theorem effect_build (i : PathId) (call : Build) :
    Effect w (.build i call) ((build i call).on w).2.paths := by
  refine after_bind (P := fun u : Workspace ↦ Effect w (.build i call) u.paths)
    (fun e v h ↦ ?_) fun p v h ↦ ?_
  · rw [(Keeps.getPath _).eq_of_on h]
    exact .kept
  · obtain ⟨hp, rfl⟩ := on_getPath_eq_ok.1 h
    refine after_bind (P := fun t : Workspace ↦ Effect v (.build i call) t.paths)
      (fun e u h ↦ ?_) fun p' u h ↦ ?_
    · rw [(keepsPaths_extend p call).state_eq h]
      exact .kept
    · obtain ⟨next, brought, hadds, hopen, rfl⟩ := extend_eq_ok h
      have hu := (keepsPaths_extend p call).state_eq h
      simp only [on_setPath, hu]
      exact .built hp hopen hadds

theorem effect_copy (i : PathId) : Effect w (.copy i) ((copyPath i).on w).2.paths := by
  refine after_bind (P := fun u : Workspace ↦ Effect w (.copy i) u.paths)
    (fun e v h ↦ ?_) fun p v h ↦ ?_
  · rw [(Keeps.getPath _).eq_of_on h]
    exact .kept
  · obtain ⟨hp, rfl⟩ := on_getPath_eq_ok.1 h
    exact .copied hp

theorem expectLabel_eq_ok {i : PathId} {operation : String} {v : Workspace} {l : Label}
    (h : (expectLabel i operation).on w = (.ok l, v)) :
    (∃ p, w.paths[i]? = some p ∧ p.label = some l) ∧ v = w := by
  obtain ⟨p, u, hp, h₁⟩ := on_bind_eq_ok.1 h
  obtain ⟨hp, rfl⟩ := on_getPath_eq_ok.1 hp
  obtain ⟨hl, rfl⟩ := on_ofOption_eq_ok.1 h₁
  exact ⟨⟨p, hp, hl⟩, rfl⟩

theorem on_markSaved {i : PathId} {p : Path} (hp : w.paths[i]? = some p) :
    (markSaved i).on w =
      (.ok (), { w with paths := w.paths.setIfInBounds i p.markSaved }) := by
  rw [markSaved, on_bind_of_ok (on_getPath_of_some hp)]
  rfl

theorem effect_markSaved (i : PathId) :
    Effect w (.markSaved i) ((Command.markSaved i).run w).2.paths := by
  refine after_bind (P := fun u : Workspace ↦ Effect w (.markSaved i) u.paths)
    (fun e v h ↦ ?_) fun _ v h ↦ ?_
  · rw [((Keeps.expectLabel i "mark_saved").bind fun _ ↦ Keeps.pure _).eq_of_on h]
    exact .kept
  · obtain ⟨l, u, hl, h⟩ := on_bind_eq_ok.1 h
    cases h
    obtain ⟨⟨p, hp, hlabel⟩, rfl⟩ := expectLabel_eq_ok hl
    rw [on_bind_of_ok (on_markSaved hp)]
    exact .marked hp hlabel

theorem effect_save (g : StoreId) (i : PathId) :
    Effect w (.save g i) ((Command.save g i).run w).2.paths := by
  change Effect w _ ((save g i >>= fun _ ↦ pure Value.none).on w).2.paths
  have hrun : (Command.save g i).run w = (save g i >>= fun _ ↦ pure Value.none).on w := rfl
  rw [save_eq_submit, bind_assoc] at hrun ⊢
  match hl : (expectLabel i "save_statement").on w with
  | (.error e, v) =>
      rw [on_bind_of_error hl, (Keeps.expectLabel _ _).eq_of_on hl]
      exact .kept
  | (.ok l, v) =>
      obtain ⟨⟨p, hp, hlabel⟩, rfl⟩ := expectLabel_eq_ok hl
      rw [on_bind_of_ok hl, bind_assoc] at hrun ⊢
      match hs : (submit g i l (.text l.name)).on v with
      | (.error e, u) =>
          rw [on_bind_of_error hs, (keepsPaths_submit g i l _).state_eq hs]
          exact .kept
      | (.ok _, u) =>
          have hpaths := (keepsPaths_submit g i l _).state_eq hs
          have hmark := on_markSaved (w := u) (i := i) (by rw [hpaths]; exact hp)
          rw [on_bind_of_ok hs, bind_assoc, on_bind_of_ok hmark, hpaths] at hrun ⊢
          exact .saved hp hlabel (by rw [hrun]; rfl)

end Action

namespace Command

open GraphQuery.Action

variable (w : Workspace)

/-- Whether a command can touch a path at all. -/
def touchesPaths : Command → Bool
  | startVertices _ | startMorphism _ | build _ _ | copy _ | markSaved _ | save _ _ => true
  | _ => false

/-- All other commands leave the paths alone, however they end. -/
theorem keepsPaths_perform {c : Command} (hc : c.touchesPaths = false) :
    Keeps Workspace.paths c.perform := by
  cases c with
  | inspect i question => exact Keeps.answer i question
  | connect endpoint route =>
      exact ((Keeps.ofResult _).bind fun _ _ ↦ rfl).bind fun _ ↦ Keeps.pure _
  | find g i => exact (Keeps.find (keepsPaths_execute g) i).bind fun _ ↦ Keeps.pure _
  | execute g query => exact (keepsPaths_execute g query).bind fun _ ↦ Keeps.pure _
  | saveAs g i name =>
      exact (Keeps.saveAs keepsPaths_note (keepsPaths_execute g) i name).bind fun _ ↦ Keeps.pure _
  | closeStore g => exact (Keeps.closeStore fun _ _ ↦ rfl).bind fun _ ↦ Keeps.pure _
  | withStore g fault => exact (Keeps.block fault).closingAfter (Keeps.closeStore fun _ _ ↦ rfl)
  | connectLink read address behaviour owned =>
      exact (Keeps.ofResult _).bind fun _ ↦ Keeps.bind (fun _ ↦ rfl) fun _ ↦ Keeps.pure _
  | send k query =>
      exact (Keeps.sendOver keepsPaths_note (fun _ _ ↦ rfl) query).bind fun _ ↦ Keeps.pure _
  | closeLink k => exact (Keeps.closeLink fun _ _ ↦ rfl).bind fun _ ↦ Keeps.pure _
  | withLink k fault => exact (Keeps.block fault).closingAfter (Keeps.closeLink fun _ _ ↦ rfl)
  | _ => cases hc

/-- The paths after a command, whatever its outcome, are as one of the ways says. -/
theorem effect_run (c : Command) : Effect w c (c.run w).2.paths := by
  have hkept (hc : c.touchesPaths = false) : Effect w c (c.run w).2.paths := by
    have hpaths : (c.run w).2.paths = w.paths := keepsPaths_perform hc w
    rw [hpaths]
    exact .kept
  cases c with
  | startVertices nodes =>
      have h := effect_startVertices nodes (w := w)
      rwa [← after_bind_pure _ Value.path] at h
  | startMorphism name =>
      have h := effect_startMorphism name (w := w)
      rwa [← after_bind_pure _ Value.path] at h
  | build i call =>
      have h := effect_build i call (w := w)
      rwa [← after_bind_pure _ fun _ ↦ Value.path i] at h
  | copy i =>
      have h := effect_copy i (w := w)
      rwa [← after_bind_pure _ Value.path] at h
  | markSaved i => exact effect_markSaved i
  | save g i => exact effect_save g i
  | _ => exact hkept rfl

/-- Where a path after a command comes from. -/
inductive Origin (c : Command) (i : PathId) : Path → Prop
  | old {p : Path} : w.paths[i]? = some p → Origin c i p
  | vertices {choice : Choice} : i = w.paths.size → Origin c i (.vertices choice)
  | morphism {s n : String} : i = w.paths.size → Identifier.check s = .ok n →
      Origin c i (.morphism n)
  | copied {k : PathId} {p : Path} : i = w.paths.size → c = .copy k → w.paths[k]? = some p →
      Origin c i p
  | built {p : Path} {call : Build} {next : Traversal} {brought : List PathId} :
      c = .build i call → w.paths[i]? = some p → p.isFinalized = false →
      call.Adds w p next brought →
      Origin c i { p with traversal := next, followed := absorb p.followed brought }
  | marked {p : Path} {l : Label} : w.paths[i]? = some p → p.label = some l →
      (c = .markSaved i ∨ ∃ g, c = .save g i ∧ (c.run w).1 = .ok .none) → Origin c i p.markSaved

variable {w}

/-- A path that is replaced is the new one at its place, and any other path is as it was. -/
theorem getElem?_setIfInBounds_eq_some {paths : Array Path} {k i : PathId} {p q : Path}
    (h : (paths.setIfInBounds k p)[i]? = some q) : i = k ∧ q = p ∨ paths[i]? = some q := by
  rw [Array.getElem?_setIfInBounds] at h
  split at h
  · rename_i hk
    split at h
    · exact .inl ⟨hk.symm, (Option.some.inj h).symm⟩
    · cases h
  · exact .inr h

/-- A path that is replaced is the new one at its place. -/
theorem getElem?_setIfInBounds_of_some {paths : Array Path} {i : PathId} {p : Path}
    (h : paths[i]? = some p) (q : Path) : (paths.setIfInBounds i q)[i]? = some q := by
  rw [Array.getElem?_setIfInBounds_self, if_pos (Array.getElem?_eq_some_iff.1 h).choose]

theorem getElem?_push_eq_some {paths : Array Path} {i : PathId} {p q : Path}
    (h : (paths.push p)[i]? = some q) : i = paths.size ∧ q = p ∨ paths[i]? = some q := by
  rw [Array.getElem?_push] at h
  split at h
  · rename_i hi
    exact .inl ⟨hi, (Option.some.inj h).symm⟩
  · exact .inr h

theorem Effect.origin {c : Command} {paths : Array Path} (h : Effect w c paths) {i : PathId}
    {q : Path} (hq : paths[i]? = some q) : Origin w c i q := by
  cases h with
  | kept => exact .old hq
  | vertices _ =>
      obtain ⟨hi, rfl⟩ | hold := getElem?_push_eq_some hq
      · exact .vertices hi
      · exact .old hold
  | morphism hn =>
      obtain ⟨hi, rfl⟩ | hold := getElem?_push_eq_some hq
      · exact .morphism hi hn
      · exact .old hold
  | copied hp =>
      obtain ⟨hi, rfl⟩ | hold := getElem?_push_eq_some hq
      · exact .copied hi rfl hp
      · exact .old hold
  | built hp hopen hadds =>
      obtain ⟨rfl, rfl⟩ | hold := getElem?_setIfInBounds_eq_some hq
      · exact .built rfl hp hopen hadds
      · exact .old hold
  | marked hp hl =>
      obtain ⟨rfl, rfl⟩ | hold := getElem?_setIfInBounds_eq_some hq
      · exact .marked hp hl (.inl rfl)
      · exact .old hold
  | saved hp hl hok =>
      obtain ⟨rfl, rfl⟩ | hold := getElem?_setIfInBounds_eq_some hq
      · exact .marked hp hl (.inr ⟨_, rfl, hok⟩)
      · exact .old hold

/-- Every path after a command has its origin before it. -/
theorem origin_run {c : Command} {i : PathId} {q : Path} (hq : (c.run w).2.paths[i]? = some q) :
    Origin w c i q := (effect_run w c).origin hq

/-- What a command makes of a path that was there before it: nothing, one call more, or a morphism
that counts as saved. -/
theorem Origin.of_getElem? {c : Command} {i : PathId} {p q : Path} (h : Origin w c i q)
    (hp : w.paths[i]? = some p) : q = p ∨
      (∃ call next brought, c = .build i call ∧ p.isFinalized = false ∧
        call.Adds w p next brought ∧
        q = { p with traversal := next, followed := absorb p.followed brought }) ∨
      (∃ l, p.label = some l ∧ (c = .markSaved i ∨ ∃ g, c = .save g i ∧ (c.run w).1 = .ok .none) ∧
        q = p.markSaved) := by
  have hnew : i ≠ w.paths.size := fun hi ↦ by simp [hi] at hp
  cases h with
  | old h => exact .inl (Option.some.inj (h.symm.trans hp))
  | vertices hi => exact absurd hi hnew
  | morphism hi _ => exact absurd hi hnew
  | copied hi _ _ => exact absurd hi hnew
  | built hc h hopen hadds =>
      obtain rfl := Option.some.inj (h.symm.trans hp)
      exact .inr (.inl ⟨_, _, _, hc, hopen, hadds, rfl⟩)
  | marked h hl hc =>
      obtain rfl := Option.some.inj (h.symm.trans hp)
      exact .inr (.inr ⟨_, hl, hc, rfl⟩)

/-- Paths never go away. -/
theorem size_le_of_effect {c : Command} {paths : Array Path} (h : Effect w c paths) :
    w.paths.size ≤ paths.size := by
  cases h <;> simp

/-- A path that was there before a command is there after it. -/
theorem exists_of_getElem? {c : Command} {i : PathId} {p : Path} (hp : w.paths[i]? = some p) :
    ∃ q, (c.run w).2.paths[i]? = some q ∧ Origin w c i q := by
  have hi : i < w.paths.size := (Array.getElem?_eq_some_iff.1 hp).choose
  have hi' : i < (c.run w).2.paths.size :=
    Nat.lt_of_lt_of_le hi (size_le_of_effect (effect_run w c))
  exact ⟨_, Array.getElem?_eq_getElem hi', origin_run (Array.getElem?_eq_getElem hi')⟩

/-- A copy is in every respect what it is a copy of. -/
theorem run_copy {i : PathId} {p : Path} (hp : w.paths[i]? = some p) :
    (copy i).run w = (.ok (.path w.paths.size), { w with paths := w.paths.push p }) := by
  change (copyPath i >>= fun k ↦ pure (Value.path k)).on w = _
  rw [copyPath, bind_assoc, on_bind_of_ok (on_getPath_of_some hp)]
  rfl

/-! ## Commands that leave the stores alone -/

variable (w)

/-- Whether a command only builds paths or asks something of them. -/
def isBuilder : Command → Bool
  | startVertices _ | startMorphism _ | build _ _ | copy _ | markSaved _ | inspect _ _ => true
  | _ => false

/-- Building paths and asking things of them only changes paths and adds warnings to the log. -/
theorem keeps_perform_of_isBuilder {γ : Type} {view : Workspace → γ}
    (hpaths : ∀ w paths, view { w with paths := paths } = view w)
    (hwarnings : ∀ w, view w.unwarned = view w) {c : Command} (hc : c.isBuilder = true) :
    Keeps view c.perform := by
  cases c with
  | startVertices nodes =>
      exact ((Keeps.expectChoice _ _).bind fun _ _ ↦ hpaths _ _).bind fun _ ↦ Keeps.pure _
  | startMorphism name =>
      exact ((Keeps.expectName _).bind fun _ _ ↦ hpaths _ _).bind fun _ ↦ Keeps.pure _
  | build i call =>
      refine Keeps.bind ?_ fun _ ↦ Keeps.pure _
      exact (Keeps.getPath i).bind fun p ↦
        (Keeps.of_part (onlyWarns_extend p call) hwarnings).bind fun _ _ ↦ hpaths _ _
  | copy i => exact ((Keeps.getPath i).bind fun _ _ ↦ hpaths _ _).bind fun _ ↦ Keeps.pure _
  | markSaved i =>
      refine ((Keeps.expectLabel i _).bind fun _ ↦ Keeps.pure _).bind fun _ ↦ ?_
      exact ((Keeps.getPath i).bind fun _ _ ↦ hpaths _ _).bind fun _ ↦ Keeps.pure _
  | inspect i question => exact Keeps.answer i question
  | _ => cases hc

/-- In particular it never touches a store, and all that it adds to the log are warnings. -/
theorem dealings_run_of_isBuilder {c : Command} (hc : c.isBuilder = true) :
    (c.run w).2.dealings = w.dealings :=
  keeps_perform_of_isBuilder (fun _ _ ↦ rfl) Workspace.dealings_unwarned hc w

end Command

end GraphQuery
