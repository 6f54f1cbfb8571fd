import GraphQuery.Proofs.Heap.Representation

/-!
# What is done to stored paths

Every operation, called on a stored path and on the path that it represents, comes to the same, be
it a result or an error with its message, and the heap goes on representing the workspace
(`Heap.leads_callPath`).  A builder call writes a segment first and all else after it, while the
path that it represents is replaced at once (`Heap.leads_push`).  By induction on the moves this
holds of whole runs (`Heap.represents_runAll`).
-/

namespace GraphQuery.Heap

open Work

variable {paths : Array Path} {h h' : Heap} {w : Workspace} {o : PathId} {p : Path} {a : Value}

/-! ## Calls -/

theorem stands_expectEnding (hp : paths[o]? = some p) (operation : String) :
    Matches (Stands paths) Eq (expectEnding o operation) (Action.expectEnding p operation) := by
  refine leads_object hp fun x _ hlabel htitle ↦ ?_
  unfold Action.expectEnding
  rw [hlabel, htitle]
  split
  · exact Matches.throw _
  · exact Matches.pure rfl

/-- A path that is there is found, and work goes on with it. -/
theorem leads_of_getPath {α β : Type} {R : Heap → Workspace → Prop} {Q : α → β → Prop}
    (hp : paths[o]? = some p) {x : Work Heap α} {g : Path → Action β}
    (h : Leads (Stands paths) R Q x (g p)) :
    Leads (Stands paths) R Q x (Action.getPath o >>= g) := by
  rintro h₀ w ⟨hr, rfl⟩
  rw [on_bind_of_ok (Action.on_getPath_of_some hp)]
  exact h h₀ w ⟨hr, rfl⟩

/-- Once it is clear what a call adds, a finalized path refuses it.  Otherwise the stored path gets
a segment first and all else after it, while the path that it represents is replaced at once. -/
theorem leads_push (hp : paths[o]? = some p) {next : Traversal} {brought : List PathId} {s : String}
    (hsegments : next.segments = p.traversal.segments ++ [s])
    (hroot : next.root = p.traversal.root) {rest : Work Heap Unit}
    (hrest : p.isFinalized = false → ∀ h : Heap, h.Sound → h.view? o = some (p.view.addSegment s) →
      (∀ i, i ≠ o → h.view? i = paths[i]?.map Path.view) →
      (∀ (i : PathId) q, paths[i]? = some q → q.IsTitled) → ∃ h', rest.on h = (.ok (), h') ∧
        h.Becomes o (p.extended next brought).view h') :
    Leads (Stands paths) Represents Eq (add o s >>= fun _ ↦ rest)
      (ofResult (p.push next brought) >>= Action.setPath o) := by
  rintro h w ⟨hr, rfl⟩
  have hv := hr.view?_eq hp
  have hlast : next.lastSegment = s := by
    have hlast := next.getLast?_segments
    rw [hsegments, List.getLast?_concat] at hlast
    exact (Option.some.inj hlast).symm
  cases hopen : p.isFinalized with
  | true =>
      rw [on_bind_of_error (on_add_of_finalized hv hopen s), Path.push_of_finalized hopen, hlast]
      exact ⟨.error _, hr⟩
  | false =>
      obtain ⟨h₁, hadded, hb₁⟩ := on_add_of_open hr.sound hv hopen s
      obtain ⟨h₂, hdone, hb₂⟩ := hrest hopen h₁ hb₁.sound hb₁.here (fun i hi ↦
        (hb₁.elsewhere i hi).trans (hr.views i)) hr.titled
      have htitled : (p.extended next brought).IsTitled := by
        have htitle := hr.titled o p hp
        rw [Path.IsTitled, ← hroot] at htitle
        exact htitle
      rw [on_bind_of_ok hadded, hdone, Path.push_of_not_finalized hopen]
      exact ⟨.ok rfl, hr.becomes hp htitled (hb₁.trans hb₂)⟩

section Rest

variable {n : PathId} {q : Path} {u : View} {names : Choice}

/-- What is left to do after a segment was added to a path: all that another path follows is taken
in.  The other path may be this one. -/
theorem on_absorb_of_views (hs : h.Sound) (hu : h.view? o = some u)
    (hviews : ∀ i, i ≠ o → h.view? i = paths[i]?.map Path.view) (hq : paths[n]? = some q)
    (hself : n = o → q.followed ⊆ u.follows) :
    ∃ h', (absorb o n).on h = (.ok (), h') ∧ h.Becomes o (u.takeIn q.followed) h' := by
  by_cases hn : n = o
  · have hsame (l : List PathId) (hl : l ⊆ u.follows) : u.takeIn l = u := by
      rw [View.takeIn, absorb_of_subset hl]
    obtain ⟨h', habsorbed, hb⟩ := on_absorb hs hu hu
    rw [hsame _ (List.Subset.refl _), ← hsame _ (hself hn)] at hb
    exact ⟨h', hn ▸ habsorbed, hb⟩
  · have hv : h.view? n = some q.view := by
      rw [hviews n hn, hq]
      rfl
    exact on_absorb hs hu hv

/-- What is put down when a path saves along edges that are named. -/
theorem on_checkSave_named (hs : h.Sound) (hu : h.view? o = some u) (choice : Choice)
    (ha : a.choice? .tag = some names) :
    ∃ h', (checkSave o (.selector (.predicates (.named choice))) a names).on h = (.ok (), h') ∧
      h.Becomes o (u.addProblems ((Call.edge .save choice names).problems.map Problem.text))
        h' := by
  obtain ⟨s, rfl, hshown⟩ := exists_selector_of_choice? ha
  obtain ⟨h₁, hpredicates, hb₁⟩ := on_expectOne hs hu "predicate" choice.isOne
    (displayFault?_selector (.predicates (.named choice)))
  obtain ⟨h₂, htags, hb₂⟩ := on_expectOne hb₁.sound hb₁.here "tag" names.isOne
    (displayFault?_selector s)
  refine ⟨h₂, (on_bind_of_ok hpredicates _).trans htags, ?_⟩
  have hb := hb₁.trans hb₂
  rw [View.addProblems_addProblems] at hb
  have hproblems : (Call.edge .save choice names).problems.map Problem.text =
      (if choice.isOne then [] else ["Save() needs exactly one " ++ "predicate" ++ ", got " ++
        (Value.selector (.predicates (.named choice))).display h.displayPath]) ++
      (if names.isOne then [] else ["Save() needs exactly one " ++ "tag" ++ ", got " ++
        (Value.selector s).display h₁.displayPath]) := by
    simp only [Value.display, hshown, Call.problems]
    cases choice.isOne <;> cases names.isOne <;> rfl
  rwa [hproblems]

theorem foundProblems_view (hq : q.IsTitled) (names : Choice) : q.view.foundProblems names =
    ((NestCall.edge .save names).problems q.traversal).map Problem.text := by
  rw [View.foundProblems, Path.display_view hq, NestCall.problems]
  cases names.isOne <;> rfl

end Rest

/-- Takes in what a path inside of a selector follows. -/
def absorbNested (o : PathId) (predicates : Value) : Work Heap Unit := do
  if let some n := (← get).nested? predicates then absorb o n

/-- What is left to do after the segment of a call along edges was added. -/
def afterEdge (o : PathId) (kind : Edge) (predicates second : Value) (names : Choice) :
    Work Heap Unit := do
  absorbNested o predicates
  if kind = .save then checkSave o predicates second names

theorem edge_eq (o : PathId) (word : String) (predicates : Value) (names : Choice) :
    edge o word predicates names =
      (expectPredicates predicates >>= fun _ ↦ formatPredicates predicates) >>= fun first ↦
        add o (word ++ "(" ++ arguments first names.text ++ ")") >>= fun _ ↦
          absorbNested o predicates := by
  rw [bind_assoc]
  rfl

theorem build_edge (o : PathId) (kind : Edge) (predicates second : Value) :
    build o (.edge kind predicates second) =
      expectChoice kind.secondAxis second >>= fun names ↦
        (expectPredicates predicates >>= fun _ ↦ formatPredicates predicates) >>= fun first ↦
          add o (kind.word ++ "(" ++ arguments first names.text ++ ")") >>= fun _ ↦
            afterEdge o kind predicates second names := by
  simp only [build, edge_eq, afterEdge, bind_assoc]

theorem extend_edge (p : Path) (kind : Edge) (predicates second : Value) :
    (Action.extend p (.edge kind predicates second) >>= Action.setPath o) =
      Action.expectChoice kind.secondAxis second >>= fun names ↦
        (Action.expectPredicates predicates >>= fun q ↦
          Action.warnOfPredicates q >>= fun _ ↦ pure q) >>= fun q ↦
            ofResult (p.edge kind q names) >>= Action.setPath o := by
  simp only [Action.extend, bind_assoc, pure_bind]

theorem on_afterEdge_named (hopen : p.isFinalized = false) (hs : h.Sound) {kind : Edge}
    {choice names : Choice} {second : Value} (hu : h.view? o = some (p.view.addSegment
      (kind.word ++ "(" ++ arguments choice.text names.text ++ ")")))
    (hnames : second.choice? kind.secondAxis = some names) :
    ∃ h', (afterEdge o kind (.selector (.predicates (.named choice))) second names).on h =
        (.ok (), h') ∧
      h.Becomes o (p.extended (p.traversal.call (.edge kind choice names)) []).view h' := by
  rw [Path.view_call hopen rfl]
  by_cases hsave : kind = .save
  · subst hsave
    exact on_checkSave_named hs hu choice hnames
  · have hproblems : (Call.edge kind choice names).problems = [] := by
      cases kind <;> first | rfl | exact absurd rfl hsave
    rw [hproblems, List.map_nil, View.addProblems_nil, afterEdge, if_neg hsave]
    exact ⟨h, rfl, .refl hs hu⟩

theorem on_afterEdge_found (hopen : p.isFinalized = false) (hs : h.Sound) {kind : Edge}
    {n : PathId} {q : Path} {names : Choice} {second : Value}
    (hu : h.view? o = some (p.view.addSegment
      (kind.word ++ "(" ++ arguments q.traversal.argument names.text ++ ")")))
    (hviews : ∀ i, i ≠ o → h.view? i = paths[i]?.map Path.view) (hq : paths[n]? = some q)
    (htitled : q.IsTitled) (hother : Value.foundBy (.path n) ≠ .foundBy (.path o))
    (hnames : second.choice? kind.secondAxis = some names) :
    ∃ h', (afterEdge o kind (.foundBy (.path n)) second names).on h = (.ok (), h') ∧
      h.Becomes o (p.extended (p.traversal.nest (.edge kind names) q.traversal) q.followed).view
        h' := by
  have hn : n ≠ o := fun heq ↦ hother (heq ▸ rfl)
  have hv : h.view? n = some q.view := by
    rw [hviews n hn, hq]
    rfl
  obtain ⟨h₁, habsorbed, hb₁⟩ := on_absorb hs hu hv
  have hnested : (absorbNested o (.foundBy (.path n))).on h = (.ok (), h₁) := by
    rw [absorbNested, on_bind_of_ok (on_get h), nested?_found hv]
    exact habsorbed
  rw [Path.view_nest hopen, afterEdge, on_bind_of_ok hnested]
  by_cases hsave : kind = .save
  · subst hsave
    obtain ⟨h₂, hchecked, hb₂⟩ := on_checkSave_found hb₁.sound hb₁.here
      ((hb₁.elsewhere n hn).trans hv) hnames
    rw [foundProblems_view htitled] at hb₂
    exact ⟨h₂, hchecked, hb₁.trans hb₂⟩
  · have hproblems : (NestCall.edge kind names).problems q.traversal = [] := by
      cases kind <;> first | rfl | exact absurd rfl hsave
    rw [hproblems, List.map_nil, View.addProblems_nil, if_neg hsave]
    exact ⟨h₁, rfl, hb₁⟩

/-- Joining a path begins with compiling it. -/
theorem ofResult_join_bind (p q : Path) (kind : Join) :
    (ofResult (p.join kind q) >>= Action.setPath o) =
      ofResult q.compile >>= fun _ ↦
        ofResult (p.push (p.traversal.nest (.join kind) q.traversal) q.followed) >>=
          Action.setPath o := by
  rw [Path.join]
  cases q.compile <;> rfl

theorem Stands.represents (h : Heap) (w : Workspace) (hs : Stands paths h w) : h.Represents w :=
  hs.1

/-- A path is ended on both sides. -/
theorem leads_finish (hp : paths[o]? = some p) (terminal : Terminal) :
    Leads (Stands paths) Represents Eq (finish o terminal.text)
      (ofResult (p.finish terminal) >>= Action.setPath o) := by
  refine leads_push hp ?_ ?_ fun hopen h hs hu _ _ ↦ ?_
  · rfl
  · rfl
  · obtain ⟨h', hfinished, hb⟩ := (writes_setFinalized o h hs).1 _ hu
    exact ⟨h', hfinished, p.view_finish terminal ▸ hb⟩

/-- A call extends the path that it is on, on both sides. -/
abbrev LeadsBuild (paths : Array Path) (o : PathId) (p : Path) (call : Build) : Prop :=
  Leads (Stands paths) Represents Eq (build o call)
    (Action.extend p (call.resolve paths) >>= Action.setPath o)

theorem leads_edge (hp : paths[o]? = some p) (kind : Edge) {predicates : Value}
    (hproper : predicates.IsProper o) (second : Value) :
    LeadsBuild paths o p (.edge kind predicates second) := by
  rw [LeadsBuild, build_edge, Build.resolve, extend_edge]
  refine .bind Stands.represents (stands_expectChoice _ _) fun names _ hnames ↦ ?_
  obtain ⟨rfl, hnames⟩ := hnames
  refine .bind Stands.represents (stands_predicates hproper.stored) fun first q hfirst ↦ ?_
  obtain ⟨rfl, hfinds⟩ := hfirst
  cases hfinds with
  | named =>
      refine leads_push hp ?_ ?_ fun hopen h hs hu _ _ ↦ on_afterEdge_named hopen hs hu hnames
      · rfl
      · rfl
  | found hq =>
      refine leads_push hp ?_ ?_ fun hopen h hs hu hviews htitled ↦
        on_afterEdge_found hopen hs hu hviews hq (htitled _ _ hq) hproper.other hnames
      · rfl
      · rfl

theorem leads_join (hp : paths[o]? = some p) (kind : Join) (other : Value) :
    LeadsBuild paths o p (.join kind other) := by
  rw [LeadsBuild, Build.resolve, Action.extend, bind_assoc]
  refine .bind Stands.represents (stands_expectPath _) fun n q hn ↦ ?_
  obtain ⟨-, hq⟩ := hn
  rw [ofResult_join_bind]
  refine .bind Stands.represents (stands_compile hq) fun text _ htext ↦ ?_
  obtain ⟨hbroken, rfl⟩ := Traversal.isBroken_of_compile_eq_ok htext.2
  have hargument : q.traversal.argument = q.traversal.text := by
    rw [Traversal.argument, hbroken]
    rfl
  rw [← hargument]
  refine leads_push hp ?_ ?_ fun hopen h hs hu hviews _ ↦ ?_
  · rfl
  · rfl
  · have hproblems : ((NestCall.join kind).problems q.traversal).map Problem.text = [] := rfl
    rw [Path.view_nest hopen, hproblems, View.addProblems_nil]
    refine on_absorb_of_views hs hu hviews hq fun hself ↦ ?_
    obtain rfl := Option.some.inj (hp.symm.trans (hself ▸ hq))
    exact List.Subset.refl _

theorem leads_follow (hp : paths[o]? = some p) (direction : Direction) (morphism : Value) :
    LeadsBuild paths o p (.follow direction morphism) := by
  rw [LeadsBuild, Build.resolve, Action.extend, bind_assoc]
  refine .bind Stands.represents (stands_expectMorphism _) ?_
  rintro ⟨n, label⟩ ⟨i, l, q⟩ ⟨-, hi, hl, hq⟩
  obtain rfl : i = n := hi
  obtain rfl : l = label := hl
  change Leads _ _ _ _ ((Action.warnOfMorphism l >>= fun _ ↦
    ofResult (p.follow direction i l.name q.followed)) >>= Action.setPath o)
  rw [bind_assoc]
  refine .bind Stands.represents (stands_warnOfMorphism _) fun _ _ _ ↦ ?_
  refine leads_push hp ?_ ?_ fun hopen h hs hu hviews _ ↦ ?_
  · rfl
  · rfl
  · obtain ⟨h₁, htaken, hb₁⟩ := (writes_takeIn o i h hs).1 _ hu
    obtain ⟨h₂, habsorbed, hb₂⟩ := on_absorb_of_views hb₁.sound hb₁.here
      (fun k hk ↦ (hb₁.elsewhere k hk).trans (hviews k hk)) hq fun hself ↦ by
        obtain rfl := Option.some.inj (hp.symm.trans (hself ▸ hq))
        exact (prefix_absorb _ _).subset
    refine ⟨h₂, (on_bind_of_ok htaken _).trans habsorbed, ?_⟩
    have hb := hb₁.trans hb₂
    have hproblems : (Call.follow direction l.name).problems.map Problem.text = [] := rfl
    rw [View.takeIn_takeIn] at hb
    rwa [Path.view_call hopen rfl, hproblems, View.addProblems_nil]

/-- A builder call comes to the same on both sides. -/
theorem leads_build (hp : paths[o]? = some p) {call : Build}
    (hcall : ∀ a ∈ call.arguments, a.IsProper o) :
    Leads (Stands paths) Represents Eq (build o call) (Action.build o (call.resolve paths)) := by
  refine leads_of_getPath hp ?_
  cases call with
  | edge kind predicates second =>
      exact leads_edge hp kind (List.forall_mem_cons.1 hcall).1 second
  | mark kind names =>
      rw [Build.resolve, Action.extend, bind_assoc]
      refine .bind Stands.represents (stands_expectChoice _ _) fun choice _ hnames ↦ ?_
      obtain ⟨rfl, -⟩ := hnames
      rw [← bind_pure_unit (x := add o _)]
      refine leads_push hp ?_ ?_ fun hopen h hs hu _ _ ↦ ?_
      · rfl
      · rfl
      · rw [Path.view_call hopen rfl]
        exact ⟨h, rfl, (View.addProblems_nil _).symm ▸ .refl hs hu⟩
  | join kind other => exact leads_join hp kind other
  | follow direction morphism => exact leads_follow hp direction morphism
  | finish terminal =>
      rw [Build.resolve, Action.extend, bind_assoc]
      refine .bind Stands.represents (stands_expectEnding hp _) fun _ _ _ ↦ ?_
      exact leads_finish hp terminal
  | limit count =>
      rw [Build.resolve, Action.extend, bind_assoc]
      refine .bind Stands.represents (stands_expectEnding hp _) fun _ _ _ ↦ ?_
      rw [bind_assoc]
      refine .bind Stands.represents (stands_expectLimit _) fun n _ hn ↦ ?_
      obtain rfl := hn
      exact leads_finish hp (.limit n)

/-! ## Questions -/

theorem stands_expectLabel (o : PathId) (operation : String) : Matches (Stands paths) Eq
    (expectLabel o operation) (Action.expectLabel o operation) := by
  refine leads_lookup (fun _ _ hs ↦ hs) fun x p _ _ hlabel htitle ↦ ?_
  rw [hlabel, htitle]
  exact Matches.ofOption _ _

/-- The statement of a morphism is told alike. -/
theorem on_statement (hv : h.view? o = some p.view) (own name : String) :
    (tryCatch (compile o >>= fun body ↦ pure (name ++ " = " ++ body)) fun e ↦
      match e with
      | .compilation _ => throw (.unsavable (.text own) e.message)
      | e => throw e : Work Heap String).on h = (p.statement own name, h) := by
  have hcompiled := on_compile hv
  rw [on_tryCatch, on_bind, hcompiled, Path.statement, ← p.compile_view]
  rcases p.view.compile_eq with hc | ⟨s, hc⟩ <;> rw [hc] <;> rfl

theorem stands_statementAs (hp : paths[o]? = some p) (label : Label) (a : Value) :
    Matches (Stands paths) Eq (statementAs o label a)
      (Action.statementAs o label (a.resolve paths)) := by
  refine (stands_expectName a).bind_eq fun name ↦ leads_of_getPath hp ?_
  rintro h w ⟨hr, rfl⟩
  have hstated := on_statement (hr.view?_eq hp) label.name name
  refine (congrArg (fun r ↦ Ends Eq r.1 _ ∧ Stands w.paths r.2 _) hstated).mpr ?_
  rw [on_ofResult]
  exact ⟨.of_eq fun _ ↦ rfl, hr, rfl⟩

/-- A question is answered alike. -/
theorem stands_answer (hp : paths[o]? = some p) (question : Inspection) :
    Matches (Stands paths) Eq (answer o question) ((question.resolve paths).answer o) := by
  refine leads_of_getPath hp ?_
  cases question with
  | compile =>
      change Matches _ _ (compile o >>= fun s ↦ pure (Value.text s))
        (ofResult p.compile >>= fun s ↦ pure (Value.text s))
      exact (stands_compile hp).bind fun _ _ htext ↦ .pure (congrArg Value.text htext.1.symm)
  | segments =>
      change Matches _ _ (segments o >>= fun l ↦ pure (Value.textTuple l))
        (ofResult (.ok p.traversal.segments) >>= fun l ↦ pure (Value.textTuple l))
      exact (stands_of_view hp fun _ hv ↦ on_segments hv).bind fun _ _ hl ↦
        .pure (congrArg Value.textTuple hl.1.symm)
  | display =>
      have hthere : Matches (Stands paths) Eq (discard (object o)) (ofResult (.ok ())) :=
        leads_object hp fun _ _ _ _ ↦ Matches.pure rfl
      change Matches _ _ (discard (object o) >>= fun _ ↦ _)
        (ofResult (.ok ()) >>= fun _ ↦ pure (Value.text p.display))
      refine hthere.bind_eq fun _ ↦ ?_
      rintro h w ⟨hr, rfl⟩
      rw [on_bind_of_ok (on_get h), hr.displayPath_eq, Workspace.displayPath, hp]
      exact ⟨.ok rfl, hr, rfl⟩
  | isFinalized =>
      refine leads_object hp fun x hfinalized _ _ ↦ ?_
      rw [hfinalized]
      exact Matches.pure rfl
  | followed =>
      change Matches _ _ (follows o >>= fun l ↦ pure (Value.list (l.map .path)))
        (ofResult (.ok p.followed) >>= fun l ↦ pure (Value.list (l.map .path)))
      exact (stands_of_view hp fun _ hv ↦ on_follows hv).bind fun _ _ hl ↦
        .pure (congrArg (fun l ↦ Value.list (l.map .path)) hl.1.symm)
  | name =>
      change Matches _ _ (expectLabel o Inspection.name.operation >>= _)
        (Action.expectLabel o Inspection.name.operation >>= _)
      exact (stands_expectLabel o _).bind_eq fun _ ↦ .pure rfl
  | isSaved =>
      change Matches _ _ (expectLabel o Inspection.isSaved.operation >>= _)
        (Action.expectLabel o Inspection.isSaved.operation >>= _)
      exact (stands_expectLabel o _).bind_eq fun _ ↦ .pure rfl
  | statement =>
      change Matches _ _ (expectLabel o Inspection.statement.operation >>= _)
        (Action.expectLabel o Inspection.statement.operation >>= _)
      refine (stands_expectLabel o _).bind_eq fun label ↦ ?_
      exact (stands_statementAs hp label (.text label.name)).bind_eq fun _ ↦ .pure rfl
  | statementAs target =>
      change Matches _ _ (expectLabel o (Inspection.statementAs target).operation >>= _)
        (Action.expectLabel o (Inspection.statementAs target).operation >>= _)
      refine (stands_expectLabel o _).bind_eq fun label ↦ ?_
      exact (stands_statementAs hp label target).bind_eq fun _ ↦ .pure rfl

/-! ## Operations by name -/

open Session (argument argumentOr anyOf anyPredicate buildOf? inspectionOf? pathSignature?)

variable {name : String} {args : List Value}

theorem argumentOr_map (position : Nat) {default : Value}
    (hdefault : default.resolve paths = default) :
    argumentOr (args.map (Value.resolve paths)) position default =
      (argumentOr args position default).resolve paths := by
  rw [argumentOr, argumentOr, List.getElem?_map]
  cases args[position]? with
  | some a => rfl
  | none => exact hdefault.symm

theorem argument_map (position : Nat) : argument (args.map (Value.resolve paths)) position =
    (argument args position).resolve paths := argumentOr_map position rfl

theorem resolve_anyOf (axis : Axis) : (anyOf axis).resolve paths = anyOf axis := by
  cases axis <;> rfl

theorem buildOf?_map (name : String) (args : List Value) :
    buildOf? name (args.map (Value.resolve paths)) =
      (buildOf? name args).map (Build.resolve paths) := by
  simp only [buildOf?, argument_map, argumentOr_map _ (resolve_anyOf _),
    argumentOr_map _ (show anyPredicate.resolve paths = anyPredicate from rfl)]
  cases Session.edgeOf? name with
  | some _ => rfl
  | none =>
  cases Session.markOf? name with
  | some _ => rfl
  | none =>
  cases Session.joinOf? name with
  | some _ => rfl
  | none =>
  cases Session.directionOf? name with
  | some _ => rfl
  | none =>
  cases Session.terminalOf? name with
  | some _ => rfl
  | none =>
  by_cases hlimit : name = "get_limit"
  · simp only [if_pos hlimit]
    rfl
  · simp only [if_neg hlimit]
    rfl

theorem inspectionOf?_map (name : String) (args : List Value) :
    inspectionOf? name (args.map (Value.resolve paths)) =
      (inspectionOf? name args).map (Inspection.resolve paths) := by
  unfold inspectionOf?
  split
  case h_8 => exact congrArg (fun a ↦ some (Inspection.statementAs a)) (argument_map 0)
  all_goals rfl

/-- A path has no operation that the path which it represents does not have. -/
theorem stands_expectOperation (hp : paths[o]? = some p) (name : String) (args : List Value) :
    Matches (Stands paths) Eq (expectOperation o name args)
      (Session.expectPathOperation o name (args.map (Value.resolve paths))) := by
  refine leads_of_getPath hp (leads_object hp fun x _ hlabel _ ↦ ?_)
  rw [hlabel]
  cases pathSignature? name with
  | none => exact Matches.pure rfl
  | some s =>
      obtain ⟨family, signature⟩ := s
      have hargs : Matches (Stands paths) Eq (expectArguments signature args)
          (expectArguments signature (args.map (Value.resolve paths))) := by
        rw [expectArguments, expectArguments, List.length_map]
        exact .expectNone _
      cases hadmits : family.admits p.label with
      | true =>
          simp only [hadmits]
          exact hargs
      | false =>
          simp only [hadmits]
          have hlacks : Matches (Stands paths) Eq (lacks (.path o) name : Work Heap Unit)
            (Action.lacks (.path o) name) := stands_lacks _ _
          exact hlacks.bind_eq fun _ ↦ hargs

theorem stands_lacks_path {α β : Type} {R : α → β → Prop} (name : String) :
    Leads (Stands paths) Represents R (lacks (.path o) name) (Action.lacks (.path o) name) :=
  .of_matches Stands.represents (stands_lacks _ _)

theorem leads_copy (hp : paths[o]? = some p) :
    Leads (Stands paths) Represents Eq (copy o) (Action.copyPath o) := by
  rintro h w ⟨hr, rfl⟩
  rw [on_copy hr.sound (hr.view?_eq hp), Action.copyPath,
    on_bind_of_ok (Action.on_getPath_of_some hp)]
  exact ⟨.ok hr.size, hr.adding (hr.titled o p hp)⟩

theorem leads_markSaved (hp : paths[o]? = some p) :
    Leads (Stands paths) Represents Eq (markSaved o) (Action.markSaved o) := by
  rintro h w ⟨hr, rfl⟩
  obtain ⟨h', hmarked, hb⟩ := (writes_markSaved o h hr.sound).1 _ (hr.view?_eq hp)
  have htitled : p.markSaved.IsTitled := by
    have htitle := hr.titled o p hp
    rw [Path.IsTitled, View.title] at htitle ⊢
    rwa [show p.markSaved.view.label.isSome = p.view.label.isSome from Option.isSome_map]
  rw [hmarked, Action.markSaved, on_bind_of_ok (Action.on_getPath_of_some hp)]
  exact ⟨.ok rfl, hr.becomes hp htitled hb⟩

/-- Every operation comes to the same, called on a stored path and on the path that it represents,
and the heap goes on representing the workspace. -/
theorem leads_callPath (o : PathId) (name : String) (hargs : ∀ a ∈ args, a.IsProper o) :
    Leads (Stands paths) Represents Eq (callPath o name args)
      (Session.callPath o name (args.map (Value.resolve paths))) := by
  cases hp : paths[o]? with
  | none =>
      rintro h w ⟨hr, rfl⟩
      have hnone : (object o).on h = (.error .noObject, h) :=
        on_object_of_none (hr.sound.objects_eq_none (hr.view?_eq_none hp))
      have hgone : (Action.getPath o).on w = (.error .noObject, w) := by
        rw [Action.on_getPath, hp]
        rfl
      unfold callPath Session.callPath expectOperation Session.expectPathOperation
      rw [bind_assoc, bind_assoc, on_bind_of_error hnone, on_bind_of_error hgone]
      exact ⟨.error _, hr⟩
  | some p =>
      unfold callPath Session.callPath
      rw [buildOf?_map, inspectionOf?_map]
      refine .bind Stands.represents (stands_expectOperation hp name args) fun _ _ _ ↦ ?_
      cases hbuild : buildOf? name args with
      | some call =>
          refine Leads.bind_pure (leads_build hp ?_) fun _ _ _ ↦ rfl
          exact forall_arguments_of_buildOf? hargs ⟨nofun, nofun⟩
            (fun axis ↦ by cases axis <;> exact ⟨nofun, nofun⟩) hbuild
      | none =>
          cases inspectionOf? name args with
          | some question => exact .of_matches Stands.represents (stands_answer hp question)
          | none =>
              split
              · contradiction
              · contradiction
              · exact (leads_copy hp).bind_pure fun _ _ hn ↦ congrArg Value.path hn
              · have hlabel : Matches (Stands paths) Eq (discard (expectLabel o "mark_saved"))
                    (discard (Action.expectLabel o "mark_saved")) :=
                  (stands_expectLabel o _).bind_eq fun _ ↦ .pure rfl
                exact .bind Stands.represents hlabel fun _ _ _ ↦
                  (leads_markSaved hp).bind_pure fun _ _ _ ↦ rfl
              · simp only [Option.map_none]
                exact stands_lacks_path _

/-! ## Runs -/

namespace Move

/-- Whether a move is fit for stored paths: what it passes to a call is. -/
def IsProper : Move → Prop
  | call o _ args => ∀ a ∈ args, a.IsProper o
  | _ => True

/-- A move on a workspace whose paths are not stored. -/
def performOn (paths : Array Path) : Move → Action Value
  | startVertices nodes => (Command.startVertices (nodes.resolve paths)).perform
  | startMorphism name => (Command.startMorphism (name.resolve paths)).perform
  | call o name args => Session.callPath o name (args.map (Value.resolve paths))

/-- What a move makes of a workspace. -/
def runOn (m : Move) (w : Workspace) : Except Error Value × Workspace :=
  (m.performOn w.paths).run w

/-- What moves make of a workspace one after the other. -/
def runAllOn : List Move → Workspace → List (Except Error Value) × Workspace
  | [], w => ([], w)
  | m :: ms, w =>
    let (outcome, w) := m.runOn w
    let (outcomes, w) := runAllOn ms w
    (outcome :: outcomes, w)

end Move

theorem represents_empty : empty.Represents .empty where
  sound := sound_empty
  views i := by
    rw [view?_eq_none (Nat.zero_le i)]
    rfl
  titled i p hp := by simp [Workspace.empty] at hp
  log := rfl

/-- A new path is there on both sides. -/
theorem leads_newPath {root : String} {label : Option Label} {q : Path} (hq : q.IsTitled)
    (hview : q.view = ⟨[root], [], [], false, label⟩) :
    Leads (Stands paths) Represents Eq (newPath root label) (Action.newPath q) := by
  rintro h w ⟨hr, rfl⟩
  rw [on_newPath, ← hview]
  exact ⟨.ok hr.size, hr.adding hq⟩

theorem leads_perform {m : Move} (hm : m.IsProper) :
    Leads (Stands paths) Represents Eq m.perform (m.performOn paths) := by
  cases m with
  | startVertices nodes =>
      refine Leads.bind_pure (Q := Eq) ?_ fun _ _ hn ↦ congrArg Value.path hn
      refine .bind Stands.represents (stands_expectChoice _ _) fun c _ hc ↦ ?_
      exact hc.1 ▸ leads_newPath rfl rfl
  | startMorphism name =>
      refine Leads.bind_pure (Q := Eq) ?_ fun _ _ hn ↦ congrArg Value.path hn
      refine .bind Stands.represents (stands_expectName _) fun n _ hn ↦ ?_
      exact hn ▸ leads_newPath rfl rfl
  | call o name args => exact leads_callPath o name hm

/-- Stored paths stand for traversals: whatever is done comes to the same, be it done to stored
paths or to the paths that they represent, and what is stored of each path is what is read off
it. -/
theorem represents_runAll {ms : List Move} (hr : h.Represents w) (hms : ∀ m ∈ ms, m.IsProper) :
    (Move.runAll ms h).1 = (Move.runAllOn ms w).1 ∧
      (Move.runAll ms h).2.Represents (Move.runAllOn ms w).2 := by
  induction ms generalizing h w with
  | nil => exact ⟨rfl, hr⟩
  | cons m ms ih =>
      obtain ⟨hm, hms⟩ := List.forall_mem_cons.1 hms
      obtain ⟨hends, hafter⟩ := leads_perform hm h w ⟨hr, rfl⟩
      obtain ⟨houtcomes, hrest⟩ := ih hafter hms
      exact ⟨congr (congrArg List.cons hends.eq) houtcomes, hrest⟩

end GraphQuery.Heap
