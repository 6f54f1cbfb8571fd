import GraphQuery.Proofs.Heap.State

/-!
# What calls do to stored paths

A builder call reads, writes, warns, appends, takes in and puts down one step after the other.  All
that can go wrong goes wrong before the segment is appended, or when it is, and nothing was changed
by then but the log.  From then on no step fails, and each only adds to the path that the call is
on.  So a call does all that it does or nothing (`Heap.AllOrNothing`), with whatever arguments, the
path itself included.

* `Heap.silent_of_callPath_eq_error`: a call that fails leaves all stored paths as they were.
* `Heap.view?_of_callPath_ne`: a call changes no stored path but the one that it is on.
-/

namespace GraphQuery

open Work

namespace View

/-- What becomes of a path once its segment was appended: more may be put down for it. -/
structure Collects (v v' : View) : Prop where
  segments : v'.segments = v.segments
  problems : v.problems <+: v'.problems
  follows : v.follows <+: v'.follows
  label : v'.label = v.label

/-- A path that was not finalized gets one more segment. -/
structure Grows (v v' : View) : Prop where
  isOpen : v.finalized = false
  segments : ∃ s, v'.segments = v.segments ++ [s]
  problems : v.problems <+: v'.problems
  follows : v.follows <+: v'.follows
  label : v'.label = v.label

variable {v v' v'' : View}

theorem Collects.refl (v : View) : v.Collects v :=
  ⟨rfl, List.prefix_refl _, List.prefix_refl _, rfl⟩

theorem Collects.trans (h : v.Collects v') (h' : v'.Collects v'') : v.Collects v'' :=
  ⟨h'.segments.trans h.segments, h.problems.trans h'.problems, h.follows.trans h'.follows,
    h'.label.trans h.label⟩

theorem Grows.collects (h : v.Grows v') (h' : v'.Collects v'') : v.Grows v'' := by
  obtain ⟨s, hs⟩ := h.segments
  exact ⟨h.isOpen, ⟨s, h'.segments.trans hs⟩, h.problems.trans h'.problems,
    h.follows.trans h'.follows, h'.label.trans h.label⟩

end View

namespace Heap

variable {α β γ : Type} {h h' : Heap} {o n : PathId} {v v' : View}

/-! ## What only reads -/

section Keeps

variable {view : Heap → γ}

theorem keeps_object (o : PathId) : Keeps view (object o) := Keeps.get.bind fun _ ↦ .ofOption _ _

theorem keeps_textsIn (c : Nat) : Keeps view (textsIn c) := Keeps.get.bind fun _ ↦ .ofOption _ _

theorem keeps_pathsIn (c : Nat) : Keeps view (pathsIn c) := Keeps.get.bind fun _ ↦ .ofOption _ _

theorem keeps_segments (o : PathId) : Keeps view (segments o) :=
  (keeps_object o).bind fun _ ↦ keeps_textsIn _

theorem keeps_problems (o : PathId) : Keeps view (problems o) :=
  (keeps_object o).bind fun _ ↦ keeps_textsIn _

theorem keeps_follows (o : PathId) : Keeps view (follows o) :=
  (keeps_object o).bind fun _ ↦ keeps_pathsIn _

theorem keeps_compile (o : PathId) : Keeps view (compile o) := by
  refine (keeps_problems o).bind fun problems ↦ ?_
  split
  · exact (Keeps.throw _).bind fun _ ↦ (keeps_segments o).bind fun _ ↦ Keeps.pure _
  · exact (keeps_segments o).bind fun _ ↦ Keeps.pure _

theorem keeps_display (v : Value) : Keeps view (display v) :=
  (Keeps.expectNone _).bind fun _ ↦ Keeps.get.bind fun _ ↦ Keeps.pure _

theorem keeps_lacks (v : Value) (operation : String) :
    Keeps view (lacks v operation : Work Heap α) := Keeps.get.bind fun _ ↦ Keeps.throw _

theorem keeps_expectChoice (axis : Axis) (v : Value) : Keeps view (expectChoice axis v) :=
  (keeps_display v).bind fun _ ↦ Keeps.ofOption _ _

theorem keeps_expectPredicates (v : Value) : Keeps view (expectPredicates v) := by
  unfold expectPredicates
  split
  · exact Keeps.pure _
  · exact Keeps.pure _
  · exact (keeps_display _).bind fun _ ↦ Keeps.throw _

theorem keeps_expectPath (v : Value) : Keeps view (expectPath v) := by
  unfold expectPath
  split
  · exact ((keeps_object _).bind fun _ ↦ Keeps.pure _).bind fun _ ↦ Keeps.pure _
  · exact (keeps_display _).bind fun _ ↦ Keeps.throw _

theorem keeps_expectMorphism (v : Value) : Keeps view (expectMorphism v) := by
  unfold expectMorphism
  split
  · refine (keeps_object _).bind fun x ↦ ?_
    cases x.label
    · exact (keeps_display _).bind fun _ ↦ Keeps.throw _
    · exact Keeps.pure _
  · exact (keeps_display _).bind fun _ ↦ Keeps.throw _

theorem keeps_expectLimit (v : Value) : Keeps view (expectLimit v) := by
  unfold expectLimit
  split
  · refine (keeps_display _).bind fun _ ↦ ?_
    split
    · exact Keeps.pure _
    · exact Keeps.throw _
  · exact (keeps_display _).bind fun _ ↦ Keeps.throw _

theorem keeps_expectName (v : Value) : Keeps view (expectName v) := by
  unfold expectName
  split
  · exact Keeps.ofResult _
  · exact (keeps_display _).bind fun _ ↦ Keeps.throw _

theorem keeps_expectEnding (o : PathId) (operation : String) :
    Keeps view (expectEnding o operation) := by
  refine (keeps_object o).bind fun x ↦ ?_
  split
  · exact Keeps.throw _
  · exact Keeps.pure _

theorem keeps_expectLabel (o : PathId) (operation : String) :
    Keeps view (expectLabel o operation) := (keeps_object o).bind fun _ ↦ Keeps.ofOption _ _

theorem keeps_expectOperation (o : PathId) (name : String) (args : List Value) :
    Keeps view (expectOperation o name args) := by
  refine (keeps_object o).bind fun x ↦ ?_
  split
  · rename_i family signature _
    cases family.admits x.label
    · exact (keeps_lacks _ _).bind fun _ ↦ Keeps.expectArguments _ _
    · exact Keeps.expectArguments _ _
  · exact Keeps.pure _

theorem keeps_statementAs (o : PathId) (label : Label) (name : Value) :
    Keeps view (statementAs o label name) := by
  refine (keeps_expectName name).bind fun n ↦ ?_
  refine Keeps.tryCatch ((keeps_compile o).bind fun _ ↦ Keeps.pure _) fun e ↦ ?_
  cases e <;> exact Keeps.throw _

theorem keeps_answer (o : PathId) (question : Inspection) : Keeps view (answer o question) := by
  cases question with
  | compile => exact (keeps_compile o).bind fun _ ↦ Keeps.pure _
  | segments => exact (keeps_segments o).bind fun _ ↦ Keeps.pure _
  | display =>
      exact ((keeps_object o).bind fun _ ↦ Keeps.pure _).bind fun _ ↦
        Keeps.get.bind fun _ ↦ Keeps.pure _
  | isFinalized => exact (keeps_object o).bind fun _ ↦ Keeps.pure _
  | followed => exact (keeps_follows o).bind fun _ ↦ Keeps.pure _
  | name => exact (keeps_expectLabel o _).bind fun _ ↦ Keeps.pure _
  | isSaved => exact (keeps_expectLabel o _).bind fun _ ↦ Keeps.pure _
  | statement =>
      exact (keeps_expectLabel o _).bind fun _ ↦ (keeps_statementAs o _ _).bind fun _ ↦ Keeps.pure _
  | statementAs target =>
      exact (keeps_expectLabel o _).bind fun _ ↦ (keeps_statementAs o _ _).bind fun _ ↦ Keeps.pure _

end Keeps

/-- Writing to the log changes nothing else. -/
theorem quiet_note (entry : LogEntry) : Keeps silent (note entry) := fun _ ↦ rfl

theorem quiet_formatPredicates (v : Value) : Keeps silent (formatPredicates v) := by
  refine Keeps.get.bind fun h ↦ ?_
  split
  · refine (keeps_compile _).tryCatch fun e ↦ ?_
    split
    · exact (quiet_note _).bind fun _ ↦ Keeps.pure _
    · exact Keeps.throw _
  · exact Keeps.pure _
  · exact keeps_lacks _ _
  · exact Keeps.throw _

theorem quiet_warnOfMorphism (label : Label) : Keeps silent (warnOfMorphism label) := by
  unfold warnOfMorphism
  split
  · exact quiet_note _
  · exact Keeps.pure _

/-! ## All or nothing -/

/-- What came of a heap: an error, and nothing was changed but the log, or a result, and one path
grew. -/
inductive AllOrNothing (o : PathId) (h : Heap) : Except Error α × Heap → Prop
  | nothing {e : Error} {h' : Heap} : h'.silent = h.silent → AllOrNothing o h (.error e, h')
  | all {a : α} {h₁ h' : Heap} {v v' : View} : h₁.silent = h.silent → h.view? o = some v →
      h₁.Becomes o v' h' → v.Grows v' → AllOrNothing o h (.ok a, h')

/-- What came of a heap after a segment was appended to a path: a result, and more was put down for
the path. -/
def Completes (o : PathId) (h : Heap) (r : Except Error α × Heap) : Prop :=
  ∀ v, h.view? o = some v → ∃ a h' v', r = (.ok a, h') ∧ h.Becomes o v' h' ∧ v.Collects v'

namespace Completes

variable {x : Work Heap α} {f : α → Work Heap β}

theorem pure (hs : h.Sound) (a : α) : Completes o h ((Pure.pure a : Work Heap α).on h) :=
  fun v hv ↦ ⟨a, h, v, rfl, .refl hs hv, .refl v⟩

theorem bind (hx : Completes o h (x.on h))
    (hf : ∀ a h', h'.Sound → h'.objects.size = h.objects.size → Completes o h' ((f a).on h')) :
    Completes o h ((x >>= f).on h) := by
  intro v hv
  obtain ⟨a, h', v', hr, hbecomes, hcollects⟩ := hx v hv
  obtain ⟨b, h'', v'', hr', hbecomes', hcollects'⟩ :=
    hf a h' hbecomes.sound hbecomes.size v' hbecomes.here
  rw [on_bind_of_ok hr]
  exact ⟨b, h'', v'', hr', hbecomes.trans hbecomes', hcollects.trans hcollects'⟩

end Completes

namespace AllOrNothing

variable {x : Work Heap α} {f : α → Work Heap β}

/-- Before a segment is appended anything may happen that only writes to the log. -/
theorem bind_quiet (hs : h.Sound) (hx : Keeps silent x)
    (hf : ∀ a h', x.on h = (.ok a, h') → h'.Sound → AllOrNothing o h' ((f a).on h')) :
    AllOrNothing o h ((x >>= f).on h) := by
  match hr : x.on h with
  | (.ok a, h₁) =>
      have hsilent := hx.state_eq hr
      have hrest := hf a h₁ hr (sound_of_silent hsilent hs)
      rw [on_bind_of_ok hr]
      generalize (f a).on h₁ = r at hrest
      cases hrest with
      | nothing hlog => exact .nothing (hlog.trans hsilent)
      | all hlog hv hbecomes hgrows =>
          exact .all (hlog.trans hsilent) (view?_of_silent hsilent ▸ hv) hbecomes hgrows
  | (.error e, h₁) =>
      rw [on_bind_of_error hr]
      exact .nothing (hx.state_eq hr)

/-- After a segment was appended anything may happen that cannot fail. -/
theorem bind_completes (hx : AllOrNothing o h (x.on h))
    (hf : ∀ a h', x.on h = (.ok a, h') → h'.Sound → h'.objects.size = h.objects.size →
      Completes o h' ((f a).on h')) : AllOrNothing o h ((x >>= f).on h) := by
  match hr : x.on h, hx with
  | _, .nothing hlog =>
      rw [on_bind_of_error hr]
      exact .nothing hlog
  | (_, h'), .all hlog hv hbecomes hgrows =>
      have hsize := hbecomes.size.trans (size_of_silent hlog)
      obtain ⟨b, h'', v'', hr', hbecomes', hcollects⟩ :=
        hf _ h' hr hbecomes.sound hsize _ hbecomes.here
      rw [on_bind_of_ok hr, hr']
      exact .all hlog hv (hbecomes.trans hbecomes') (hgrows.collects hcollects)

end AllOrNothing

/-! ## Steps -/

theorem allOrNothing_add (hs : h.Sound) (o : PathId) (s : String) :
    AllOrNothing o h ((add o s).on h) := by
  cases hv : h.view? o with
  | none =>
      rw [on_add_of_none hs hv]
      exact .nothing rfl
  | some v =>
      cases hopen : v.finalized with
      | true =>
          rw [on_add_of_finalized hv hopen]
          exact .nothing rfl
      | false =>
          obtain ⟨h', hadded, hbecomes⟩ := on_add_of_open hs hv hopen s
          rw [hadded]
          exact .all rfl hv hbecomes
            ⟨hopen, ⟨s, rfl⟩, List.prefix_refl _, List.prefix_refl _, rfl⟩

/-- Work that only adds to what was put down for a path completes. -/
theorem Writes.completes {f : View → View} {x : Work Heap Unit} (hx : Writes o f x)
    (hf : ∀ v : View, v.Collects (f v)) (hs : h.Sound) : Completes o h (x.on h) := by
  intro v hv
  obtain ⟨h', hwritten, hbecomes⟩ := (hx h hs).1 v hv
  exact ⟨(), h', _, hwritten, hbecomes, hf v⟩

theorem completes_addProblem (hs : h.Sound) (o : PathId) (s : String) :
    Completes o h ((addProblem o s).on h) :=
  (writes_addProblem o s).completes
    (fun _ ↦ ⟨rfl, List.prefix_append _ _, List.prefix_refl _, rfl⟩) hs

theorem completes_takeIn (hs : h.Sound) (o i : PathId) : Completes o h ((takeIn o i).on h) :=
  (writes_takeIn o i).completes
    (fun _ ↦ ⟨rfl, List.prefix_refl _, prefix_absorb _ _, rfl⟩) hs

theorem completes_setFinalized (hs : h.Sound) (o : PathId) : Completes o h
    ((setFields o fun x ↦ { x with finalized := true }).on h) :=
  (writes_setFinalized o).completes
    (fun _ ↦ ⟨rfl, List.prefix_refl _, List.prefix_refl _, rfl⟩) hs

theorem completes_absorb (hs : h.Sound) (o : PathId) (hn : n < h.objects.size) :
    Completes o h ((absorb o n).on h) := by
  intro v hv
  obtain ⟨u, hu⟩ := hs.exists_view?_of_lt hn
  obtain ⟨h', habsorbed, hbecomes⟩ := on_absorb hs hv hu
  exact ⟨(), h', _, habsorbed, hbecomes, rfl, List.prefix_refl _, prefix_absorb _ _, rfl⟩

theorem on_display_of_none {v : Value} (hv : v.displayFault? = none) :
    (display v).on h = (.ok (v.display h.displayPath), h) := by
  rw [display, hv]
  rfl

theorem completes_display (hs : h.Sound) {v : Value} (hv : v.displayFault? = none) :
    Completes o h ((display v).on h) := by
  rw [on_display_of_none hv]
  exact fun u hu ↦ ⟨_, h, u, rfl, .refl hs hu, .refl u⟩

theorem completes_expectOne (hs : h.Sound) (o : PathId) (what : String) (isOne : Bool) {v : Value}
    (hv : v.displayFault? = none) : Completes o h ((expectOne o what isOne v).on h) := by
  unfold expectOne
  split
  · exact (completes_display hs hv).bind fun _ _ hs _ ↦ completes_addProblem hs o _
  · exact .pure hs ()

/-! ## Calls -/

/-- A path that is nested in a selector is there. -/
theorem lt_of_nested? {v : Value} (hn : h.nested? v = some n) :
    v = .foundBy (.path n) ∧ n < h.objects.size := by
  unfold nested? at hn
  split at hn
  · split at hn
    · cases hn
      exact ⟨rfl, ‹_›⟩
    · cases hn
  · cases hn

theorem displayFault?_foundBy_path (n : PathId) :
    (Value.foundBy (.path n)).displayFault? = none := by
  simp [Value.displayFault?]

theorem displayFault?_selector (s : Selector) : (Value.selector s).displayFault? = none := by
  simp [Value.displayFault?]

/-- What is written as predicates can be shown. -/
theorem displayFault?_of_formatPredicates {v : Value} {text : String}
    (hv : (formatPredicates v).on h = (.ok text, h')) : v.displayFault? = none := by
  rw [formatPredicates, on_bind_of_ok (on_get h)] at hv
  split at hv
  · rename_i n hn
    rw [(lt_of_nested? hn).1]
    exact displayFault?_foundBy_path n
  · exact displayFault?_selector _
  · cases hv
  · cases hv

theorem expectChoice_eq_ok {axis : Axis} {v : Value} {choice : Choice}
    (hv : (expectChoice axis v).on h = (.ok choice, h')) :
    v.choice? axis = some choice ∧ h' = h := by
  have hh := (keeps_expectChoice axis v).eq_of_on hv
  obtain ⟨_, _, -, hoption⟩ := on_bind_eq_ok.1 hv
  exact ⟨(on_ofOption_eq_ok.1 hoption).1, hh⟩

theorem expectName_eq_ok {v : Value} {n : String} (hv : (expectName v).on h = (.ok n, h')) :
    (∃ p, v = .plain p ∧ Identifier.checkPlain p = .ok n) ∧ h' = h := by
  have hh := (keeps_expectName v).eq_of_on hv
  refine ⟨?_, hh⟩
  unfold expectName at hv
  split at hv
  · rw [on_ofResult] at hv
    exact ⟨_, rfl, (Prod.mk.inj hv).1⟩
  · obtain ⟨_, _, _, hthrow⟩ := on_bind_eq_ok.1 hv
    cases hthrow

/-- Names that are chosen can be shown. -/
theorem displayFault?_of_expectChoice {axis : Axis} {v : Value} {choice : Choice}
    (hv : (expectChoice axis v).on h = (.ok choice, h')) : v.displayFault? = none := by
  obtain ⟨shown, u, hshown, -⟩ := on_bind_eq_ok.1 hv
  cases hf : v.displayFault? with
  | none => rfl
  | some f =>
      rw [display, hf] at hshown
      cases hshown

theorem allOrNothing_edge (hs : h.Sound) (o : PathId) (word : String) (predicates : Value)
    (second : Choice) : AllOrNothing o h ((edge o word predicates second).on h) := by
  refine .bind_quiet hs (keeps_expectPredicates _) fun _ h₁ _ hs ↦ ?_
  refine .bind_quiet hs (quiet_formatPredicates _) fun first h₂ hfirst hs ↦ ?_
  refine (allOrNothing_add hs o _).bind_completes fun _ h₃ hadded hs hsize ↦ ?_
  rw [on_bind_of_ok (on_get h₃)]
  split
  · rename_i n hn
    exact completes_absorb hs o (lt_of_nested? hn).2
  · exact .pure hs ()

theorem allOrNothing_finish (hs : h.Sound) (o : PathId) (s : String) :
    AllOrNothing o h ((finish o s).on h) :=
  (allOrNothing_add hs o s).bind_completes fun _ _ _ hs _ ↦ completes_setFinalized hs o

/-- What is expected to be a path is there. -/
theorem lt_of_expectPath {v : Value} (hv : (expectPath v).on h = (.ok n, h')) :
    v = .path n ∧ n < h'.objects.size := by
  unfold expectPath at hv
  split at hv
  · obtain ⟨_, u, hthere, hpure⟩ := on_bind_eq_ok.1 hv
    cases hpure
    obtain ⟨x, u', hx, hpure⟩ := on_bind_eq_ok.1 hthere
    cases hpure
    exact ⟨rfl, (Array.getElem?_eq_some_iff.1 (getElem?_of_object hx)).choose⟩
  · obtain ⟨_, _, _, hthrow⟩ := on_bind_eq_ok.1 hv
    cases hthrow

theorem lt_of_expectMorphism {v : Value} {l : Label}
    (hv : (expectMorphism v).on h = (.ok (n, l), h')) : v = .path n ∧ n < h'.objects.size := by
  unfold expectMorphism at hv
  split at hv
  · obtain ⟨x, u, hx, hlabel⟩ := on_bind_eq_ok.1 hv
    split at hlabel
    · cases hlabel
      exact ⟨rfl, (Array.getElem?_eq_some_iff.1 (getElem?_of_object hx)).choose⟩
    · obtain ⟨_, _, _, hthrow⟩ := on_bind_eq_ok.1 hlabel
      cases hthrow
  · obtain ⟨_, _, _, hthrow⟩ := on_bind_eq_ok.1 hv
    cases hthrow

/-- A builder call does all that it does or nothing. -/
theorem allOrNothing_build (hs : h.Sound) (o : PathId) (call : Build) :
    AllOrNothing o h ((build o call).on h) := by
  cases call with
  | edge kind predicates second =>
      refine .bind_quiet hs (keeps_expectChoice _ _) fun names h₁ hnames hs ↦ ?_
      have hsecond := displayFault?_of_expectChoice hnames
      refine (allOrNothing_edge hs o _ _ _).bind_completes fun _ h₂ hedge hs _ ↦ ?_
      split
      · obtain ⟨_, _, _, hrest⟩ := on_bind_eq_ok.1 hedge
        obtain ⟨_, _, hfirst, _⟩ := on_bind_eq_ok.1 hrest
        have hfault := displayFault?_of_formatPredicates hfirst
        exact (completes_expectOne hs o _ _ hfault).bind fun _ _ hs _ ↦
          completes_expectOne hs o _ _ hsecond
      · exact .pure hs ()
  | mark kind names =>
      exact .bind_quiet hs (keeps_expectChoice _ _) fun _ _ _ hs ↦ allOrNothing_add hs o _
  | join kind other =>
      refine .bind_quiet hs (keeps_expectPath _) fun n h₁ hother hs ↦ ?_
      refine .bind_quiet hs (keeps_compile n) fun text h₂ htext hs ↦ ?_
      obtain rfl := (keeps_compile n).eq_of_on htext
      refine (allOrNothing_add hs o _).bind_completes fun _ h₃ hadded hs hsize ↦ ?_
      exact completes_absorb hs o (Nat.lt_of_lt_of_eq (lt_of_expectPath hother).2 hsize.symm)
  | follow direction morphism =>
      refine .bind_quiet hs (keeps_expectMorphism _) fun l h₁ hmorphism hs ↦ ?_
      refine .bind_quiet hs (quiet_warnOfMorphism _) fun _ h₂ hwarned hs ↦ ?_
      refine (allOrNothing_add hs o _).bind_completes fun _ h₃ hadded hs hsize ↦ ?_
      have hsilent := (quiet_warnOfMorphism _).state_eq hwarned
      have hthere : l.1 < h₂.silent.objects.size := hsilent ▸ (lt_of_expectMorphism hmorphism).2
      refine (completes_takeIn hs o _).bind fun _ h₄ hs hsize' ↦ ?_
      exact completes_absorb hs o (Nat.lt_of_lt_of_eq hthere (hsize'.trans hsize).symm)
  | finish terminal =>
      exact .bind_quiet hs (keeps_expectEnding _ _) fun _ _ _ hs ↦ allOrNothing_finish hs o _
  | limit count =>
      exact .bind_quiet hs (keeps_expectEnding _ _) fun _ _ _ hs ↦
        .bind_quiet hs (keeps_expectLimit _) fun _ _ _ hs ↦ allOrNothing_finish hs o _

open Session (buildOf? inspectionOf?)

/-- What a move does, and what it comes to. -/
inductive Effect (h : Heap) : Move → Except Error Value × Heap → Prop
  /-- It fails, and nothing is changed but the log. -/
  | failed {m : Move} {e : Error} {h' : Heap} : h'.silent = h.silent → Effect h m (.error e, h')
  | vertices {nodes : Value} {choice : Choice} : nodes.choice? .node = some choice →
      Effect h (.startVertices nodes) (.ok (.path h.objects.size), h.adding (.vertices choice))
  | morphism {name : Plain} {n : String} : Identifier.checkPlain name = .ok n →
      Effect h (.startMorphism (.plain name))
        (.ok (.path h.objects.size), h.adding (.morphism n))
  /-- A builder call makes the path grow. -/
  | built {o : PathId} {name : String} {args : List Value} {call : Build} {h₁ h' : Heap}
      {v v' : View} : buildOf? name args = some call → h₁.silent = h.silent →
      h.view? o = some v → h₁.Becomes o v' h' → v.Grows v' →
      Effect h (.call o name args) (.ok (.path o), h')
  /-- A question is answered. -/
  | asked {o : PathId} {name : String} {args : List Value} {question : Inspection} {a : Value} :
      inspectionOf? name args = some question → Effect h (.call o name args) (.ok a, h)
  | copied {o : PathId} {args : List Value} {v : View} : h.view? o = some v →
      Effect h (.call o "copy" args) (.ok (.path h.objects.size), h.adding v)
  | marked {o : PathId} {args : List Value} {h' : Heap} {v : View} : h.view? o = some v →
      v.label.isSome = true → h.Becomes o v.markSaved h' →
      Effect h (.call o "mark_saved" args) (.ok .none, h')

theorem effect_callPath (hs : h.Sound) (o : PathId) (name : String) (args : List Value) :
    Effect h (.call o name args) ((callPath o name args).on h) := by
  unfold callPath
  match hexpect : (expectOperation o name args).on h with
  | (.error e, h₁) =>
      rw [on_bind_of_error hexpect]
      exact .failed (congrArg silent ((keeps_expectOperation o name args).eq_of_on hexpect))
  | (.ok _, h₁) =>
      obtain rfl := (keeps_expectOperation o name args).eq_of_on hexpect
      rw [on_bind_of_ok hexpect]
      split
      · rename_i call hbuild
        have hall := allOrNothing_build hs o call
        match hr : (build o call).on h₁, hall with
        | _, .nothing hsilent =>
            rw [on_bind_of_error hr]
            exact .failed hsilent
        | _, .all hsilent hv hbecomes hgrows =>
            rw [on_bind_of_ok hr]
            exact .built hbuild hsilent hv hbecomes hgrows
      · rename_i question _ hquestion
        match hr : (answer o question).on h₁ with
        | (.ok a, u) =>
            obtain rfl := (keeps_answer o question).eq_of_on hr
            exact .asked hquestion
        | (.error e, u) =>
            obtain rfl := (keeps_answer o question).eq_of_on hr
            exact .failed rfl
      · cases hv : h₁.view? o with
        | none =>
            have hnone := hs.objects_eq_none hv
            rw [copy, bind_assoc, on_bind_of_error (on_object_of_none hnone)]
            exact .failed rfl
        | some v =>
            rw [on_bind_of_ok (on_copy hs hv)]
            exact .copied hv
      · have hkeeps : Keeps id (discard (expectLabel o "mark_saved")) :=
          (keeps_expectLabel o "mark_saved").bind fun _ ↦ Keeps.pure _
        cases hlabel : (discard (expectLabel o "mark_saved")).on h₁ with
        | mk outcome u =>
          obtain rfl := hkeeps.eq_of_on hlabel
          cases outcome with
          | error e =>
            rw [on_bind_of_error hlabel]
            exact .failed rfl
          | ok _ =>
            rw [on_bind_of_ok hlabel]
            obtain ⟨l, _, hlabel, hpure⟩ := on_bind_eq_ok.1 hlabel
            cases hpure
            obtain ⟨x, u, hx, hoption⟩ := on_bind_eq_ok.1 hlabel
            obtain ⟨hl, rfl⟩ := on_ofOption_eq_ok.1 hoption
            obtain ⟨v, hv, hholds⟩ := hs.exists_view? (getElem?_of_object hx)
            obtain ⟨h', hmarked, hbecomes⟩ := (writes_markSaved o _ hs).1 v hv
            rw [on_bind_of_ok hmarked]
            exact .marked hv (by rw [← hholds.label, hl]; rfl) hbecomes
      · exact .failed rfl

/-- What any move does. -/
theorem effect_run (hs : h.Sound) (m : Move) : Effect h m (m.run h) := by
  cases m with
  | startVertices nodes =>
      change Effect h _ ((startVertices nodes >>= fun o ↦ pure (Value.path o)).on h)
      rw [startVertices, bind_assoc]
      match hr : (expectChoice .node nodes).on h with
      | (.error e, u) =>
          obtain rfl := (keeps_expectChoice .node nodes).eq_of_on hr
          rw [on_bind_of_error hr]
          exact .failed rfl
      | (.ok choice, u) =>
          obtain ⟨hchoice, rfl⟩ := expectChoice_eq_ok hr
          rw [on_bind_of_ok hr, on_bind_of_ok (on_newPath _ _ _)]
          exact .vertices hchoice
  | startMorphism name =>
      change Effect h _ ((startMorphism name >>= fun o ↦ pure (Value.path o)).on h)
      rw [startMorphism, bind_assoc]
      match hr : (expectName name).on h with
      | (.error e, u) =>
          obtain rfl := (keeps_expectName name).eq_of_on hr
          rw [on_bind_of_error hr]
          exact .failed rfl
      | (.ok n, u) =>
          obtain ⟨⟨p, rfl, hn⟩, rfl⟩ := expectName_eq_ok hr
          rw [on_bind_of_ok hr, on_bind_of_ok (on_newPath _ _ _)]
          exact .morphism hn
  | call o name args => exact effect_callPath hs o name args

/-! ## Whole runs -/

namespace Effect

variable {m : Move} {r : Except Error Value × Heap}

theorem sound (hs : h.Sound) (he : Effect h m r) : r.2.Sound := by
  cases he with
  | failed hsilent => exact sound_of_silent hsilent hs
  | vertices _ => exact hs.adding _
  | morphism _ => exact hs.adding _
  | built _ _ _ hbecomes _ => exact hbecomes.sound
  | asked _ => exact hs
  | copied _ => exact hs.adding _
  | marked _ _ hbecomes => exact hbecomes.sound

end Effect

/-- Whatever is done, no two lists are ever in one place. -/
theorem Sound.runAll (hs : h.Sound) (ms : List Move) : (Move.runAll ms h).2.Sound := by
  induction ms generalizing h with
  | nil => exact hs
  | cons m ms ih => exact ih ((effect_run hs m).sound hs)

/-- Whatever was done before, and whatever operation of a path is called with whatever arguments, if
the call fails then all stored paths, this one included, are as they were. -/
theorem silent_of_callPath_eq_error (ms : List Move) {name : String} {args : List Value} {e : Error}
    {u : Heap} (h : (callPath o name args).on (Move.runAll ms .empty).2 = (.error e, u)) :
    u.silent = (Move.runAll ms .empty).2.silent := by
  have heffect := effect_callPath (sound_empty.runAll ms) o name args
  rw [h] at heffect
  cases heffect with
  | failed hsilent => exact hsilent

/-- A query that is finalized is to follow a morphism that was not saved. -/
def followLate : List Move := [
  .startMorphism (.text "m"),
  .startVertices (.selector (.nodes .any)),
  .call 1 "all" []]

/-- The call warns of the morphism before it fails, and it has not put the morphism down as
followed. -/
theorem silent_of_followLate :
    let h := (Move.runAll followLate .empty).2
    let u := ((callPath 1 "follow" [.path 0]).on h).2
    (callPath 1 "follow" [.path 0]).on h = (.error (.finalized (.text "Follow(m)")), u) ∧
      u.log ≠ h.log ∧ u.silent = h.silent := by
  have hcall : (callPath 1 "follow" [.path 0]).on (Move.runAll followLate .empty).2 =
      (.error (.finalized (.text "Follow(m)")),
        ((callPath 1 "follow" [.path 0]).on (Move.runAll followLate .empty).2).2) := rfl
  refine ⟨hcall, ?_, silent_of_callPath_eq_error followLate hcall⟩
  decide +kernel

/-- A call changes no stored path but the one that it is on, whatever its arguments. -/
theorem view?_of_callPath_ne (hs : h.Sound) (name : String) (args : List Value) {i : PathId}
    (hi : i < h.objects.size) (hio : i ≠ o) :
    ((callPath o name args).on h).2.view? i = h.view? i := by
  have heffect := effect_callPath hs o name args
  generalize (callPath o name args).on h = r at heffect
  cases heffect with
  | failed hsilent => exact congrFun (view?_of_silent hsilent) i
  | built _ hsilent _ hbecomes _ =>
      exact (hbecomes.elsewhere i hio).trans (congrFun (view?_of_silent hsilent) i)
  | asked _ => rfl
  | copied _ => exact view?_adding hs _ (Nat.ne_of_lt hi)
  | marked _ _ hbecomes => exact hbecomes.elsewhere i hio

end Heap

end GraphQuery
