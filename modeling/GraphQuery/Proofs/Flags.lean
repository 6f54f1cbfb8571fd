import GraphQuery.Proofs.Effect

/-!
# Saved flags aside

The saved flag of a morphism is told when someone asks for it, and it is looked at before anything
is sent.  Building paths does not depend on it otherwise than in its warnings:

* `Command.run_unflagged`: the flags of the snapshots inside of selectors do not count at all;
* `Command.unflaggedPaths_run`: paths that are the same but for flags stay so, whatever is done.

So a run from which some saves were taken out still makes the same paths but for flags
(`Run.seen_unflagged`).
-/

namespace GraphQuery

open Work

/-! ## Clearing flags -/

/-- A path with its flag cleared. -/
def Path.unflagged (p : Path) : Path :=
  { p with label := p.label.map fun l ↦ { l with saved := false } }

/-- Predicates with the flag of the path that finds them cleared. -/
def Predicates.unflagged : Predicates → Predicates
  | named choice => named choice
  | found p => found p.unflagged

/-- A selector with the flag of the path inside of it cleared. -/
def Selector.unflagged : Selector → Selector
  | predicates p => predicates p.unflagged
  | s => s

/-- A value with all flags inside of it cleared. -/
def Value.unflagged : Value → Value
  | selector s => selector s.unflagged
  | list items => list (items.map unflagged)
  | tuple items => tuple (items.map unflagged)
  | foundBy query => foundBy query.unflagged
  | v => v

/-- A builder call with all flags inside of its arguments cleared. -/
def Build.unflagged : Build → Build
  | edge kind predicates second => edge kind predicates.unflagged second.unflagged
  | mark kind names => mark kind names.unflagged
  | join kind other => join kind other.unflagged
  | follow direction morphism => follow direction morphism.unflagged
  | finish terminal => finish terminal
  | limit count => limit count.unflagged

/-- A command with all flags inside of its arguments cleared.  What is handed to a transport as it
is, is left as it is. -/
def Command.unflagged : Command → Command
  | startVertices nodes => startVertices nodes.unflagged
  | startMorphism name => startMorphism name.unflagged
  | build i call => build i call.unflagged
  | inspect i (.statementAs name) => inspect i (.statementAs name.unflagged)
  | saveAs g i name => saveAs g i name.unflagged
  | c => c

/-- All paths with their flags cleared. -/
def Workspace.unflaggedPaths (w : Workspace) : Array Path := w.paths.map Path.unflagged

/-! ## What flags do not count for -/

namespace Path

variable {p q : Path}

@[simp] theorem unflagged_markSaved (p : Path) : p.markSaved.unflagged = p.unflagged := by
  unfold markSaved unflagged
  cases p.label <;> rfl

theorem unflagged_unflagged (p : Path) : p.unflagged.unflagged = p.unflagged := by
  unfold unflagged
  cases p.label <;> rfl

/-- What does not tell flags is the same of paths that are the same but for flags. -/
theorem map_eq_of_unflagged {f : Path → Path} (hf : ∀ p, f p.unflagged = f p) {ps qs : Array Path}
    (h : ps.map unflagged = qs.map unflagged) : ps.map f = qs.map f := by
  have hfactor (rs : Array Path) : rs.map f = (rs.map unflagged).map f := by
    rw [Array.map_map]
    exact congrArg rs.map (funext fun p ↦ (hf p).symm)
  rw [hfactor, h, ← hfactor]

theorem traversal_eq_of_unflagged (h : p.unflagged = q.unflagged) : p.traversal = q.traversal := by
  have hsame : p.unflagged.traversal = q.unflagged.traversal := by rw [h]
  exact hsame

theorem followed_eq_of_unflagged (h : p.unflagged = q.unflagged) : p.followed = q.followed := by
  have hsame : p.unflagged.followed = q.unflagged.followed := by rw [h]
  exact hsame

/-- What is no morphism has no flag. -/
theorem unflagged_of_label (h : p.label = none) : p.unflagged = p := by
  unfold unflagged
  rw [h, Option.map_none, ← h]

/-- Of a morphism the flag is all that differs. -/
theorem exists_label_of_unflagged (h : p.unflagged = q.unflagged) {l : Label}
    (hl : p.label = some l) : ∃ k, q.label = some k ∧ k.name = l.name := by
  have hlabels : q.unflagged.label = p.unflagged.label := by rw [h]
  have hl' : p.unflagged.label = some { l with saved := false } := by
    rw [unflagged, hl, Option.map_some]
  obtain ⟨k, hk, hname⟩ := Option.map_eq_some_iff.1 (hlabels.trans hl')
  exact ⟨k, hk, (Label.mk.inj hname).1⟩

theorem label_eq_none_of_unflagged (h : p.unflagged = q.unflagged) (hl : p.label = none) :
    q.label = none := by
  match hk : q.label with
  | none => rfl
  | some k =>
      obtain ⟨l, hl', -⟩ := exists_label_of_unflagged h.symm hk
      rw [hl] at hl'
      cases hl'

end Path

namespace Value

theorem display_unflagged (shown : PathId → String) (v : Value) :
    v.unflagged.display shown = v.display shown := by
  fun_induction unflagged v with
  | case1 s =>
      rw [display, display]
      cases s with
      | predicates p => cases p <;> rfl
      | _ => rfl
  | case2 items ih =>
      rw [display, display, List.map_map, List.map_congr_left (f := display shown ∘ unflagged) ih]
  | case3 items ih =>
      rw [display, display, List.map_map, List.map_congr_left (f := display shown ∘ unflagged) ih]
  | case4 query ih => rw [display, display, ih]
  | case5 => rfl

theorem firstDisplayFault?_map {f : Value → Value} {items : List Value}
    (h : ∀ v ∈ items, (f v).displayFault? = v.displayFault?) :
    firstDisplayFault? (items.map f) = firstDisplayFault? items := by
  induction items with
  | nil => rfl
  | cons v items ih =>
      obtain ⟨hv, hitems⟩ := List.forall_mem_cons.1 h
      rw [List.map_cons, firstDisplayFault?, firstDisplayFault?, hv, ih hitems]

theorem displayFault?_unflagged (v : Value) : v.unflagged.displayFault? = v.displayFault? := by
  fun_induction unflagged v with
  | case2 items ih => rw [displayFault?, displayFault?, firstDisplayFault?_map ih]
  | case3 items ih => rw [displayFault?, displayFault?, firstDisplayFault?_map ih]
  | case4 query ih => rw [displayFault?, displayFault?, ih]
  | _ => rfl

theorem choice?_unflagged (axis : Axis) (v : Value) :
    v.unflagged.choice? axis = v.choice? axis := by
  fun_cases unflagged v with
  | case1 s =>
      cases s with
      | predicates p => cases p <;> cases axis <;> rfl
      | _ => rfl
  | _ => rfl

theorem predicates?_unflagged (v : Value) :
    v.unflagged.predicates? = v.predicates?.map Predicates.unflagged := by
  fun_cases unflagged v with
  | case1 s => cases s <;> rfl
  | case5 _ hselector _ _ _ =>
      cases v with
      | selector s => exact absurd rfl (hselector s)
      | _ => rfl
  | _ => rfl

end Value

namespace Workspace

theorem display_unflagged (w : Workspace) (v : Value) : w.display v.unflagged = w.display v :=
  Value.display_unflagged _ v

theorem typeName_unflagged (w : Workspace) (v : Value) : w.typeName v.unflagged = w.typeName v := by
  fun_cases Value.unflagged v with
  | case1 s =>
      cases s with
      | predicates p => cases p <;> rfl
      | _ => rfl
  | _ => rfl

theorem lacking_unflagged (w : Workspace) (v : Value) (operation : String) :
    w.lacking v.unflagged operation = w.lacking v operation := by
  fun_cases Value.unflagged v with
  | case1 s =>
      cases s with
      | predicates p => cases p <;> rfl
      | _ => rfl
  | case4 query =>
      have htype := typeName_unflagged w query
      rw [typeName, typeName] at htype
      simp only [lacking, Value.lacking, Value.attributes, List.lookup_cons]
      cases operation == "query" with
      | true => simp only [htype]; rfl
      | false => rfl
  | _ => rfl

end Workspace

namespace Action

variable {α : Type} {w : Workspace}

theorem display_unflagged (v : Value) : display v.unflagged = display v := by
  simp only [display, Value.displayFault?_unflagged, Workspace.display_unflagged]

theorem expectChoice_unflagged (axis : Axis) (v : Value) :
    expectChoice axis v.unflagged = expectChoice axis v := by
  rw [expectChoice, display_unflagged, Value.choice?_unflagged, expectChoice]

/-- Where all values are refused that may have a flag inside of them, no flag counts. -/
theorem unflagged_of_refusal {x : Value → Action α} {e : String → Error}
    (h : ∀ u, (∀ p, u ≠ .plain p) → (∀ i, u ≠ .path i) →
      x u = (display u >>= fun shown ↦ throw (e shown))) (v : Value) : x v.unflagged = x v := by
  have hshown := display_unflagged v
  fun_cases Value.unflagged v with
  | case5 => rfl
  | _ =>
      rw [Value.unflagged] at hshown
      refine (h _ ?_ ?_).trans (.trans ?_ (h _ ?_ ?_).symm)
      · nofun
      · nofun
      · rw [hshown]
      · nofun
      · nofun

theorem expectPath_unflagged (v : Value) : expectPath v.unflagged = expectPath v := by
  refine unflagged_of_refusal (x := expectPath) (e := .notPath) (fun u _ hpath ↦ ?_) v
  unfold expectPath
  split
  · exact absurd rfl (hpath _)
  · rfl

theorem expectMorphism_unflagged (v : Value) : expectMorphism v.unflagged = expectMorphism v := by
  refine unflagged_of_refusal (x := expectMorphism) (e := .notMorphism) (fun u _ hpath ↦ ?_) v
  unfold expectMorphism
  split
  · exact absurd rfl (hpath _)
  · rfl

theorem expectLimit_unflagged (v : Value) : expectLimit v.unflagged = expectLimit v := by
  refine unflagged_of_refusal (x := expectLimit) (e := .badLimit) (fun u hplain _ ↦ ?_) v
  unfold expectLimit
  split
  · exact absurd rfl (hplain _)
  · rfl

theorem expectName_unflagged (v : Value) : expectName v.unflagged = expectName v := by
  refine unflagged_of_refusal (x := expectName) (e := .badName) (fun u hplain _ ↦ ?_) v
  unfold expectName
  split
  · exact absurd rfl (hplain _)
  · rfl

/-- Predicates that are no predicates are refused alike. -/
theorem expectPredicates_unflagged_of_none {v : Value} (h : v.predicates? = none) :
    (expectPredicates v.unflagged).on w = (expectPredicates v).on w := by
  have hshown := display_unflagged v
  have hpredicates : v.unflagged.predicates? = none := by
    rw [Value.predicates?_unflagged, h, Option.map_none]
  fun_cases Value.unflagged v with
  | case4 query =>
      change Prod.mk (Except.error (w.lacking query.unflagged "compile")) w = _
      rw [Workspace.lacking_unflagged]
      rfl
  | case5 => rfl
  | _ =>
      rw [Value.unflagged] at hshown hpredicates
      rw [expectPredicates, expectPredicates, hshown, hpredicates, h]
      all_goals simp

/-- Of the path that finds predicates only the body and what it follows is taken in. -/
theorem extend_unflagged (p : Path) (call : Build) :
    (extend p call.unflagged).on w = (extend p call).on w := by
  cases call with
  | edge kind predicates second =>
      have hedge (sought : Predicates) (names : Choice) :
          (warnOfPredicates sought.unflagged >>= fun _ ↦
            ofResult (p.edge kind sought.unflagged names)) =
          warnOfPredicates sought >>= fun _ ↦ ofResult (p.edge kind sought names) := by
        cases sought <;> rfl
      rw [Build.unflagged, extend, extend, expectChoice_unflagged, on_bind, on_bind]
      rcases (expectChoice kind.secondAxis second).on w with ⟨e | names, u⟩
      · rfl
      · cases hs : predicates.predicates? with
        | some sought =>
            have hs' : predicates.unflagged.predicates? = some sought.unflagged := by
              rw [Value.predicates?_unflagged, hs, Option.map_some]
            simp only [on_bind_of_ok (on_expectPredicates hs),
              on_bind_of_ok (on_expectPredicates hs'), hedge]
        | none =>
            rcases hx : (expectPredicates predicates).on u with ⟨e | sought, t⟩
            · have hx' := (expectPredicates_unflagged_of_none hs).trans hx
              simp only [on_bind_of_error hx, on_bind_of_error hx']
            · rw [(expectPredicates_eq_ok hx).1] at hs
              cases hs
  | mark kind names => rw [Build.unflagged, extend, extend, expectChoice_unflagged]
  | join kind other => rw [Build.unflagged, extend, extend, expectPath_unflagged]
  | follow direction morphism => rw [Build.unflagged, extend, extend, expectMorphism_unflagged]
  | finish terminal => rfl
  | limit count => rw [Build.unflagged, extend, extend, expectLimit_unflagged]

end Action

namespace Command

open GraphQuery.Action

/-- The flags inside of the arguments of a command do not count. -/
theorem run_unflagged (c : Command) (w : Workspace) : c.unflagged.run w = c.run w := by
  cases c with
  | startVertices nodes =>
      rw [unflagged, run, run, perform, perform, Action.startVertices, expectChoice_unflagged]
      rfl
  | startMorphism name =>
      rw [unflagged, run, run, perform, perform, Action.startMorphism, expectName_unflagged]
      rfl
  | build i call =>
      change (Action.build i call.unflagged >>= fun _ ↦ pure (Value.path i)).on w =
        (Action.build i call >>= fun _ ↦ pure (Value.path i)).on w
      rw [on_bind, on_bind, Action.build, Action.build, on_bind, on_bind]
      match (getPath i).on w with
      | (.error e, u) => rfl
      | (.ok p, u) => simp only [on_bind, extend_unflagged]
  | inspect i question =>
      cases question with
      | statementAs name =>
          simp only [unflagged, run, perform, Inspection.answer, Inspection.operation,
            Action.statementAs, expectName_unflagged]
      | _ => rfl
  | saveAs g i name =>
      simp only [unflagged, run, perform, Action.saveAs, Action.statementAs, expectName_unflagged,
        display_unflagged]
  | _ => rfl

end Command

/-! ## Paths that are the same but for flags -/

namespace Workspace

variable {w w' : Workspace} {i : PathId} {p : Path}

/-- A path of one workspace is a path of the other one but for its flag. -/
theorem exists_getElem?_of_unflaggedPaths (h : w.unflaggedPaths = w'.unflaggedPaths)
    (hp : w.paths[i]? = some p) : ∃ p', w'.paths[i]? = some p' ∧ p'.unflagged = p.unflagged := by
  have hsame : w'.unflaggedPaths[i]? = w.unflaggedPaths[i]? := by rw [h]
  rw [unflaggedPaths, unflaggedPaths, Array.getElem?_map, Array.getElem?_map, hp] at hsame
  exact Option.map_eq_some_iff.1 hsame

/-- To mark a morphism changes its flag only. -/
theorem unflaggedPaths_markSaved (hp : w.paths[i]? = some p) :
    (w.paths.setIfInBounds i p.markSaved).map Path.unflagged = w.unflaggedPaths := by
  rw [unflaggedPaths]
  apply Array.ext_getElem?
  intro k
  rw [Array.getElem?_map, Array.getElem?_map]
  by_cases hk : i = k
  · subst hk
    rw [Command.getElem?_setIfInBounds_of_some hp, hp, Option.map_some, Option.map_some,
      Path.unflagged_markSaved]
  · rw [Array.getElem?_setIfInBounds_ne hk]

end Workspace

/-- What a builder call adds to a path does not depend on flags. -/
theorem Build.Adds.of_unflagged {w w' : Workspace} {p p' : Path} {call : Build} {next : Traversal}
    {brought : List PathId} (h : call.Adds w p next brought)
    (hw : w.unflaggedPaths = w'.unflaggedPaths) (hp : p'.unflagged = p.unflagged) :
    call.Adds w' p' next brought := by
  have hbody := Path.traversal_eq_of_unflagged hp
  have hopen := Path.label_eq_none_of_unflagged hp.symm
  cases h with
  | named hs hn => exact hbody ▸ .named hs hn
  | found hs hn => exact hbody ▸ .found hs hn
  | mark hn => exact hbody ▸ .mark hn
  | join ho hb =>
      obtain ⟨other, ho', hsame⟩ := Workspace.exists_getElem?_of_unflaggedPaths hw ho
      rw [← Path.traversal_eq_of_unflagged hsame] at hb ⊢
      rw [← Path.followed_eq_of_unflagged hsame]
      exact hbody ▸ .join ho' hb
  | follow hq hl =>
      obtain ⟨q', hq', hsame⟩ := Workspace.exists_getElem?_of_unflaggedPaths hw hq
      obtain ⟨l', hl', hname⟩ := Path.exists_label_of_unflagged hsame.symm hl
      rw [← Path.followed_eq_of_unflagged hsame, ← hname]
      exact hbody ▸ .follow hq' hl'
  | finish hl => exact hbody ▸ .finish (hopen hl)
  | limit hl hn hlong => exact hbody ▸ .limit (hopen hl) hn hlong

namespace Command

open GraphQuery.Action

variable {w w' : Workspace} {c c' : Command} {paths : Array Path}

/-- What a command can make of the paths it makes of them, or it would change flags only. -/
theorem Effect.paths_run_or (h : Effect w c paths) :
    (c.run w).2.paths = paths ∨ paths.map Path.unflagged = w.unflaggedPaths := by
  cases h with
  | kept => exact .inr rfl
  | @vertices nodes choice hchoice =>
      left
      change (Action.startVertices nodes >>= fun i ↦ pure (Value.path i)).on w |>.2.paths = _
      rw [Action.startVertices, bind_assoc, on_bind_of_ok (on_expectChoice hchoice)]
      rfl
  | @morphism s n hn =>
      have hname : (expectName (.text s)).on w = (.ok n, w) :=
        (on_ofResult (Identifier.check s) w).trans (by rw [hn])
      left
      change (Action.startMorphism (.text s) >>= fun i ↦ pure (Value.path i)).on w |>.2.paths = _
      rw [Action.startMorphism, bind_assoc, on_bind_of_ok hname]
      rfl
  | copied hp =>
      left
      rw [run_copy hp]
  | @built i p call next brought hp hopen hadds =>
      obtain ⟨u, hextend⟩ := exists_extend_of_adds hopen hadds
      left
      change (Action.build i call >>= fun _ ↦ pure (Value.path i)).on w |>.2.paths = _
      rw [Action.build, bind_assoc, on_bind_of_ok (on_getPath_of_some hp), bind_assoc,
        on_bind_of_ok hextend, ← (keepsPaths_extend p call).state_eq hextend]
      rfl
  | marked hp _ => exact .inr (Workspace.unflaggedPaths_markSaved hp)
  | saved hp _ _ => exact .inr (Workspace.unflaggedPaths_markSaved hp)

/-- Two commands make the same of the paths up to `f`, which does not tell flags, if what each of
them can make of the paths the other one can make of them up to `f`. -/
theorem map_paths_run_eq {f : Path → Path} (hf : ∀ p, f p.unflagged = f p)
    (hw : w.paths.map f = w'.paths.map f)
    (there : ∀ paths, Effect w c paths → ∃ paths', Effect w' c' paths' ∧
      paths'.map f = paths.map f)
    (back : ∀ paths', Effect w' c' paths' → ∃ paths, Effect w c paths ∧
      paths.map f = paths'.map f) :
    (c.run w).2.paths.map f = (c'.run w').2.paths.map f := by
  obtain ⟨paths', heffect', hsame'⟩ := there _ (effect_run w c)
  obtain ⟨paths, heffect, hsame⟩ := back _ (effect_run w' c')
  rcases heffect'.paths_run_or with h' | h'
  · rw [h', hsame']
  · rcases heffect.paths_run_or with h | h
    · rw [h, hsame]
    · calc
        (c.run w).2.paths.map f = paths'.map f := hsame'.symm
        _ = w'.paths.map f := Path.map_eq_of_unflagged hf h'
        _ = w.paths.map f := hw.symm
        _ = paths.map f := (Path.map_eq_of_unflagged hf h).symm
        _ = (c'.run w').2.paths.map f := hsame

/-- What a command can make of the paths it can make of paths with other flags. -/
theorem Effect.exists_of_unflagged (h : Effect w c paths)
    (hw : w.unflaggedPaths = w'.unflaggedPaths) :
    ∃ paths', Effect w' c paths' ∧ paths'.map Path.unflagged = paths.map Path.unflagged := by
  have hkept : w'.paths.map Path.unflagged = w.paths.map Path.unflagged := hw.symm
  cases h with
  | kept => exact ⟨_, .kept, hkept⟩
  | vertices hchoice =>
      refine ⟨_, .vertices hchoice, ?_⟩
      rw [Array.map_push, Array.map_push, hkept]
  | morphism hn =>
      refine ⟨_, .morphism hn, ?_⟩
      rw [Array.map_push, Array.map_push, hkept]
  | copied hp =>
      obtain ⟨p', hp', hsame⟩ := Workspace.exists_getElem?_of_unflaggedPaths hw hp
      refine ⟨_, .copied hp', ?_⟩
      rw [Array.map_push, Array.map_push, hkept, hsame]
  | built hp hopen hadds =>
      obtain ⟨p', hp', hsame⟩ := Workspace.exists_getElem?_of_unflaggedPaths hw hp
      refine ⟨_, .built hp' ?_ (hadds.of_unflagged hw hsame), ?_⟩
      · rw [Path.isFinalized, Path.traversal_eq_of_unflagged hsame]
        exact hopen
      · rw [Array.map_setIfInBounds, Array.map_setIfInBounds, hkept]
        congr 1
        rw [Path.unflagged, Path.unflagged, Path.followed_eq_of_unflagged hsame]
        exact congrArg (Path.mk _ _) (congrArg Path.label hsame)
  | marked hp _ =>
      exact ⟨_, .kept, hkept.trans (Workspace.unflaggedPaths_markSaved hp).symm⟩
  | saved hp _ _ =>
      exact ⟨_, .kept, hkept.trans (Workspace.unflaggedPaths_markSaved hp).symm⟩

/-- Paths that are the same but for flags stay so, whatever is done. -/
theorem unflaggedPaths_run (hw : w.unflaggedPaths = w'.unflaggedPaths) (c : Command) :
    (c.run w).2.unflaggedPaths = (c.run w').2.unflaggedPaths :=
  map_paths_run_eq Path.unflagged_unflagged hw (fun _ h ↦ h.exists_of_unflagged hw)
    fun _ h ↦ h.exists_of_unflagged hw.symm

end Command

end GraphQuery
