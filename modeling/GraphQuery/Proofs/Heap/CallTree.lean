import GraphQuery.Proofs.Heap.Refinement
import GraphQuery.Proofs.Operation
import GraphQuery.Proofs.Script.Query
import GraphQuery.Proofs.Segments

/-!
# What calls have told

Whoever watches a run and sees no more than which operations are called, and with what outcome, can
keep an account of it: a tree of calls for every path, in which a call has the trees of the paths
that it joins or that find its predicates.  Nothing that is stored is looked at.

What is told of a path are the calls of the path that the stored one stands for: every move keeps
this (`Heap.Account.Tells.runOn`), so it holds of whole runs (`Heap.Account.Tells.runAllOn`).
Therefore two paths compile to the same query exactly if their calls say the same
(`Heap.compiled_eq_iff`), where an inner path that does not compile says no more than that
(`Heap.exists_callTree_of_view?`).
-/

namespace GraphQuery

open Work

/-- An operation with its arguments as they are passed where paths are not stored. -/
def Operation.resolve (paths : Array Path) : Operation → Operation
  | build call => .build (call.resolve paths)
  | inspect question => .inspect (question.resolve paths)
  | copy => .copy
  | markSaved => .markSaved

theorem Value.eq_of_resolve_eq {paths : Array Path} {v u : Value} (h : v.resolve paths = u)
    (hu : ∀ p, u ≠ .selector (.predicates (.found p))) : v = u := by
  rcases v.resolve_cases paths with hv | ⟨_, p, _, _, hv⟩
  · exact hv.symm.trans h
  · exact absurd (h.symm.trans hv) (hu p)

theorem Value.eq_selector_of_predicates? {v : Value} {p : Predicates}
    (h : v.predicates? = some p) : v = .selector (.predicates p) := by
  cases v with
  | selector s => cases s <;> cases h; rfl
  | _ => cases h

namespace Heap

open Session (operationOf?)

variable {paths : Array Path} {w : Workspace} {o : PathId}

/-- A move that fails leaves all paths as they were. -/
theorem paths_runOn_of_error {m : Move} {e : Error} (h : (m.runOn w).1 = .error e) :
    (m.runOn w).2.paths = w.paths := by
  cases m with
  | startVertices nodes => exact Command.paths_run_of_error h
  | startMorphism name => exact Command.paths_run_of_error h
  | call o name args => exact Session.paths_of_callPath_eq_error (Prod.ext h rfl)

theorem operationOf?_map (name : String) (args : List Value) :
    operationOf? name (args.map (Value.resolve paths)) =
      (operationOf? name args).map (Operation.resolve paths) := by
  rw [operationOf?, operationOf?, buildOf?_map, inspectionOf?_map]
  cases Session.buildOf? name args with
  | some call => rfl
  | none =>
      cases Session.inspectionOf? name args with
      | some question => rfl
      | none =>
          by_cases hcopy : name = "copy"
          · simp only [if_pos hcopy]
            rfl
          by_cases hmark : name = "mark_saved"
          · simp only [if_neg hcopy, if_pos hmark]
            rfl
          · simp only [if_neg hcopy, if_neg hmark]
            rfl

/-! ## Accounts -/

/-- What calls have told of a path. -/
structure Told where
  /-- The calls that made it. -/
  tree : Traversal
  /-- Its name, if it is a morphism. -/
  name : Option String

/-- What calls have told so far. -/
abbrev Account := PathId → Option Told

namespace Account

/-- Nothing was told yet. -/
def blank : Account := fun _ ↦ none

/-- Puts something down for a path. -/
def put (a : Account) (i : PathId) (told : Option Told) : Account :=
  fun k ↦ if k = i then told else a k

/-- The tree of a path with one more call. -/
def extend (a : Account) (t : Traversal) : Build → Option Traversal
  | .edge kind predicates second => do
    let names ← second.choice? kind.secondAxis
    match predicates with
    | .foundBy (.path n) => return t.nest (.edge kind names) (← a n).tree
    | v => return t.call (.edge kind (← v.choice? .predicate) names)
  | .mark kind names => do return t.call (.mark kind (← names.choice? kind.axis))
  | .join kind (.path n) => do return t.nest (.join kind) (← a n).tree
  | .follow direction (.path n) => do return t.call (.follow direction (← (← a n).name))
  | .finish terminal => some (t.call (.finish terminal))
  | .limit (.plain (.int n)) => some (t.call (.finish (.limit n.toNat)))
  | _ => none

/-- What is told after an operation of a path that came to a result. -/
def recordOperation (a : Account) (o : PathId) : Operation → Value → Account
  | .build call, _ =>
    a.put o (do
      let told ← a o
      return { told with tree := ← a.extend told.tree call })
  | .copy, .path i => a.put i (a o)
  | _, _ => a

/-- What is told after a move that came to an outcome. -/
def record (a : Account) : Move → Except Error Value → Account
  | _, .error _ => a
  | .startVertices nodes, .ok (.path i) =>
    a.put i ((nodes.choice? .node).map fun c ↦ ⟨.start (.vertices c), none⟩)
  | .startMorphism (.plain (.text name)), .ok (.path i) =>
    a.put i (some ⟨.start .fragment, some name⟩)
  | .call o name args, .ok v =>
    (operationOf? name args).elim a fun operation ↦ a.recordOperation o operation v
  | _, _ => a

/-- What is told after moves that came to outcomes. -/
def after (a : Account) : List Move → List (Except Error Value) → Account
  | m :: ms, outcome :: outcomes => (a.record m outcome).after ms outcomes
  | _, _ => a

/-- What was told of all paths is right. -/
def Tells (a : Account) (paths : Array Path) : Prop :=
  ∀ (i : PathId) p, paths[i]? = some p → a i = some ⟨p.traversal, p.label.map Label.name⟩

variable {a : Account} {p : Path}

theorem tells_blank : blank.Tells Workspace.empty.paths := by
  simp [Tells, Workspace.empty]

/-- What is right of a new path is put down for it. -/
theorem Tells.push (h : a.Tells paths) (p : Path) :
    (a.put paths.size (some ⟨p.traversal, p.label.map Label.name⟩)).Tells (paths.push p) := by
  intro i q hq
  rw [Array.getElem?_push] at hq
  rw [put]
  split at hq
  · obtain rfl := Option.some.inj hq
    exact if_pos ‹_›
  · exact (if_neg ‹_›).trans (h i q hq)

/-- What is right of a path that is replaced is put down for it. -/
theorem Tells.set (h : a.Tells paths) (o : PathId) (p : Path) :
    (a.put o (some ⟨p.traversal, p.label.map Label.name⟩)).Tells (paths.setIfInBounds o p) := by
  intro i q hq
  rw [put]
  by_cases hi : i = o
  · obtain ⟨hlt, hget⟩ := Array.getElem?_eq_some_iff.1 hq
    rw [if_pos hi]
    subst hi
    rw [Array.getElem_setIfInBounds_self] at hget
    rw [hget]
  · rw [Array.getElem?_setIfInBounds_ne (Ne.symm hi)] at hq
    rw [if_neg hi, h i q hq]

/-- Marking a morphism changes neither its calls nor its name. -/
theorem Tells.of_markSaved (h : a.Tells paths) (hp : paths[o]? = some p) :
    a.Tells (paths.setIfInBounds o p.markSaved) := by
  have hsame := h.set o p.markSaved
  have hname : p.markSaved.label.map Label.name = p.label.map Label.name := by
    rw [Path.markSaved, Option.map_map]
    rfl
  have hput : a.put o (some ⟨p.markSaved.traversal, p.markSaved.label.map Label.name⟩) = a := by
    funext k
    rw [put, hname]
    split
    · rw [‹k = o›, h o p hp]
      rfl
    · rfl
  rwa [hput] at hsame

/-- The call that a builder call adds is told by its arguments. -/
theorem Tells.extend_eq (h : a.Tells w.paths) {call : Build}
    (hcall : ∀ v ∈ call.arguments, v.IsProper o) {next : Traversal} {brought : List PathId}
    (hadds : (call.resolve w.paths).Adds w p next brought) :
    a.extend p.traversal call = some next := by
  cases call with
  | edge kind predicates second =>
      have hstored := (hcall predicates List.mem_cons_self).stored
      rw [Build.resolve] at hadds
      cases hadds with
      | named hs hn =>
          rw [Value.choice?_resolve] at hn
          rcases predicates.resolve_cases w.paths with hp | ⟨n, q, rfl, hq, hp⟩
          · rw [hp] at hs
            obtain rfl := Value.eq_selector_of_predicates? hs
            rw [extend, hn]
            rfl
          · rw [hp] at hs
            cases hs
      | found hs hn =>
          rw [Value.choice?_resolve] at hn
          rcases predicates.resolve_cases w.paths with hp | ⟨n, q, rfl, hq, hp⟩
          · rw [hp] at hs
            exact absurd (Value.eq_selector_of_predicates? hs) (hstored _)
          · rw [hp] at hs
            cases hs
            simp [extend, hn, h _ _ hq]
  | mark kind names =>
      rw [Build.resolve] at hadds
      cases hadds with
      | mark hn =>
          rw [Value.choice?_resolve] at hn
          rw [extend, hn]
          rfl
  | join kind other =>
      rw [Build.resolve] at hadds
      generalize hother : other.resolve w.paths = v at hadds
      cases hadds with
      | join hq _ =>
          obtain rfl := Value.eq_of_resolve_eq hother (by simp)
          rw [extend, h _ _ hq]
          rfl
  | follow direction morphism =>
      rw [Build.resolve] at hadds
      generalize hmorphism : morphism.resolve w.paths = v at hadds
      cases hadds with
      | follow hq hl =>
          obtain rfl := Value.eq_of_resolve_eq hmorphism (by simp)
          rw [extend, h _ _ hq, hl]
          rfl
  | finish terminal =>
      cases hadds with
      | finish _ => rfl
  | limit count =>
      rw [Build.resolve] at hadds
      generalize hcount : count.resolve w.paths = v at hadds
      cases hadds with
      | limit _ _ _ =>
          obtain rfl := Value.eq_of_resolve_eq hcount (by simp)
          rfl

theorem Tells.startVertices (h : a.Tells w.paths) {nodes v : Value} {u : Workspace}
    (hrun : (Move.startVertices nodes).runOn w = (.ok v, u)) :
    (a.record (.startVertices nodes) (.ok v)).Tells u.paths := by
  change (Action.startVertices (nodes.resolve w.paths) >>= fun n ↦ pure (Value.path n)).on w = _
    at hrun
  obtain ⟨n, _, hstart, hpure⟩ := on_bind_eq_ok.1 hrun
  cases hpure
  obtain ⟨choice, _, hchoice, hnew⟩ := on_bind_eq_ok.1 hstart
  obtain ⟨hchoice, rfl⟩ := Action.expectChoice_eq_ok hchoice
  cases hnew
  rw [Value.choice?_resolve] at hchoice
  rw [record, hchoice]
  exact h.push (.vertices choice)

theorem Tells.startMorphism (h : a.Tells w.paths) {name v : Value} {u : Workspace}
    (hrun : (Move.startMorphism name).runOn w = (.ok v, u)) :
    (a.record (.startMorphism name) (.ok v)).Tells u.paths := by
  change (Action.startMorphism (name.resolve w.paths) >>= fun n ↦ pure (Value.path n)).on w = _
    at hrun
  obtain ⟨n, _, hstart, hpure⟩ := on_bind_eq_ok.1 hrun
  cases hpure
  obtain ⟨word, _, hword, hnew⟩ := on_bind_eq_ok.1 hstart
  obtain ⟨⟨s, hs, hcheck⟩, rfl⟩ := Action.expectName_eq_ok hword
  cases hnew
  obtain rfl := Value.eq_of_resolve_eq hs nofun
  obtain rfl := Identifier.eq_of_check hcheck
  exact h.push (.morphism word)

/-- What comes of an operation is told. -/
theorem Tells.operation (h : a.Tells w.paths) {op : Operation} {v : Value} {u : Workspace}
    (hbuild : ∀ call, op = .build call → ∀ b ∈ call.arguments, b.IsProper o)
    (hrun : ((op.resolve w.paths).command o).run w = (.ok v, u)) :
    (a.recordOperation o op v).Tells u.paths := by
  cases op with
  | build call =>
      have hok : ((Command.build o (call.resolve w.paths)).run w).1 = .ok v :=
        congrArg Prod.fst hrun
      obtain ⟨p, next, brought, hp, -, hadds, hpaths⟩ := Command.exists_adds_of_build_eq_ok hok
      have hu : u.paths = _ := (congrArg (fun r ↦ r.2.paths) hrun).symm.trans hpaths
      rw [hu, recordOperation, h o p hp, Option.bind_eq_bind, Option.bind_some,
        h.extend_eq (hbuild call rfl) hadds]
      exact h.set o (p.extended next brought)
  | inspect question =>
      have heffect := Command.effect_run w (.inspect o (question.resolve w.paths))
      rw [show (Command.inspect o (question.resolve w.paths)).run w = (.ok v, u) from hrun]
        at heffect
      change a.Tells u.paths
      generalize u.paths = same at heffect
      cases heffect
      exact h
  | copy =>
      cases hp : w.paths[o]? with
      | none =>
          have hgone : (Action.getPath o).on w = (.error .noObject, w) := by
            rw [Action.on_getPath, hp]
            rfl
          change (Action.copyPath o >>= fun k ↦ pure (Value.path k)).on w = _ at hrun
          rw [Action.copyPath, bind_assoc, on_bind_of_error hgone] at hrun
          cases hrun
      | some p =>
          have hcopied := (Command.run_copy hp).symm.trans hrun
          cases hcopied
          rw [recordOperation, h o p hp]
          exact h.push p
  | markSaved =>
      have heffect := Command.effect_run w (.markSaved o)
      rw [show (Command.markSaved o).run w = (.ok v, u) from hrun] at heffect
      change a.Tells u.paths
      generalize u.paths = marked at heffect
      cases heffect with
      | kept => exact h
      | marked hp hl => exact h.of_markSaved hp

theorem Tells.call (h : a.Tells w.paths) {name : String} {args : List Value} {v : Value}
    {u : Workspace} (hargs : ∀ b ∈ args, b.IsProper o)
    (hrun : (Move.call o name args).runOn w = (.ok v, u)) :
    (a.record (.call o name args) (.ok v)).Tells u.paths := by
  change (Session.callPath o name (args.map (Value.resolve w.paths))).on w = _ at hrun
  rcases Session.callPath_cases w o name (args.map (Value.resolve w.paths)) with
    ⟨e, he⟩ | ⟨op, hop, hcommand⟩
  · rw [hrun] at he
    cases he
  rw [hrun] at hcommand
  rw [operationOf?_map] at hop
  obtain ⟨op, hcalled, rfl⟩ := Option.map_eq_some_iff.1 hop
  rw [record, hcalled]
  refine h.operation (fun call hcall ↦ ?_) hcommand.symm
  subst hcall
  exact forall_arguments_of_buildOf? hargs ⟨nofun, nofun⟩
    (fun axis ↦ by cases axis <;> exact ⟨nofun, nofun⟩) (Session.buildOf?_of_operationOf? hcalled)

/-- What a move tells of all paths is right. -/
theorem Tells.runOn (h : a.Tells w.paths) {m : Move} (hm : m.IsProper) :
    (a.record m (m.runOn w).1).Tells (m.runOn w).2.paths := by
  cases hrun : m.runOn w with
  | mk outcome u =>
      cases outcome with
      | error e =>
          have hsame := paths_runOn_of_error (congrArg Prod.fst hrun)
          rw [hrun] at hsame
          rw [record]
          exact hsame.symm ▸ h
      | ok v =>
          cases m with
          | startVertices nodes => exact h.startVertices hrun
          | startMorphism name => exact h.startMorphism hrun
          | call o name args => exact h.call hm hrun

/-- Whatever is done, what calls tell is right. -/
theorem Tells.runAllOn (h : a.Tells w.paths) {ms : List Move} (hms : ∀ m ∈ ms, m.IsProper) :
    (a.after ms (Move.runAllOn ms w).1).Tells (Move.runAllOn ms w).2.paths := by
  induction ms generalizing a w with
  | nil => exact h
  | cons m ms ih =>
      obtain ⟨hm, hms⟩ := List.forall_mem_cons.1 hms
      exact ih (h.runOn hm) hms

end Account

/-! ## Moves as runs -/

section Runs

variable {es : List GraphQuery.Event}

/-- A selector that is passed to an operation holds a path as it is. -/
theorem seen_of_snapshot? {op : Operation}
    (hbuild : ∀ call, op = .build call → ∀ v ∈ call.arguments, v.IsProper o) {p : Path}
    (hp : ((op.resolve w.paths).command o).snapshot? = some p) : Seen es w p := by
  cases op with
  | build call =>
      cases call with
      | edge kind predicates second =>
          have hstored := (hbuild _ rfl predicates List.mem_cons_self).stored
          rcases predicates.resolve_cases w.paths with hr | ⟨n, q, -, hq, hr⟩
          · simp only [Operation.resolve, Build.resolve, Operation.command, Command.snapshot?,
              Build.snapshot?, hr] at hp
            split at hp
            · exact absurd (Value.eq_selector_of_predicates? ‹_›) (hstored _)
            · cases hp
          · simp only [Operation.resolve, Build.resolve, Operation.command, Command.snapshot?,
              Build.snapshot?, hr] at hp
            cases hp
            exact Run.seen_of_getElem? hq
      | _ => cases hp
  | _ => cases hp

/-- A move goes on with a run. -/
theorem exists_run_of_runOn (h : Run es w) {m : Move} (hm : m.IsProper) :
    ∃ es', Run es' (m.runOn w).2 := by
  cases m with
  | startVertices nodes => exact ⟨_, h.step (c := .startVertices (nodes.resolve w.paths)) nofun⟩
  | startMorphism name => exact ⟨_, h.step (c := .startMorphism (name.resolve w.paths)) nofun⟩
  | call o name args =>
      change ∃ es', Run es' ((Session.callPath o name (args.map (Value.resolve w.paths))).on w).2
      rcases Session.callPath_cases w o name (args.map (Value.resolve w.paths)) with
        ⟨e, he⟩ | ⟨op, hop, hcommand⟩
      · rw [he]
        exact ⟨es, h⟩
      rw [hcommand]
      rw [operationOf?_map] at hop
      obtain ⟨op, hcalled, rfl⟩ := Option.map_eq_some_iff.1 hop
      refine ⟨_, h.step fun p hp ↦ seen_of_snapshot? (fun call hcall ↦ ?_) hp⟩
      subst hcall
      exact forall_arguments_of_buildOf? hm ⟨nofun, nofun⟩
        (fun axis ↦ by cases axis <;> exact ⟨nofun, nofun⟩)
        (Session.buildOf?_of_operationOf? hcalled)

theorem exists_run_of_runAllOn (h : Run es w) {ms : List Move} (hms : ∀ m ∈ ms, m.IsProper) :
    ∃ es', Run es' (Move.runAllOn ms w).2 := by
  induction ms generalizing es w with
  | nil => exact ⟨es, h⟩
  | cons m ms ih =>
      obtain ⟨hm, hms⟩ := List.forall_mem_cons.1 hms
      obtain ⟨es', h'⟩ := exists_run_of_runOn h hm
      exact ih h' hms

end Runs

/-! ## Compilation is unambiguous -/

/-- The tree of the calls that made a path, as whoever watches them tells it. -/
def callTree (ms : List Move) (o : PathId) : Option Traversal :=
  (Account.blank.after ms (Move.runAll ms .empty).1 o).map Told.tree

/-- What a path compiles to after moves, if it does. -/
def compiled? (ms : List Move) (o : PathId) : Option String :=
  match ((callPath o "compile" []).on (Move.runAll ms .empty).2).1 with
  | .ok (.plain (.text s)) => some s
  | _ => none

theorem on_callPath_compile {h : Heap} {o : PathId} {v : View} (hv : h.view? o = some v) :
    (callPath o "compile" []).on h = (v.compile.map Value.text, h) := by
  obtain ⟨x, hx, -⟩ := view?_eq_some_iff.1 hv
  have hexpect : (expectOperation o "compile" []).on h = (.ok (), h) := by
    rw [expectOperation, on_bind_of_ok (on_object_of_some hx)]
    rfl
  have hcompile : (compile o >>= fun s ↦ pure (Value.text s)).on h =
      (v.compile.map Value.text, h) := by
    rw [on_bind, on_compile hv]
    cases v.compile <;> rfl
  unfold callPath
  rw [on_bind_of_ok hexpect]
  exact hcompile

/-- A path that is there compiles to what is stored of it. -/
theorem compiled?_eq {ms : List Move} {o : PathId} :
    compiled? ms o = (Move.runAll ms .empty).2.view? o >>= fun v ↦ v.compile.toOption := by
  rw [compiled?]
  cases hv : (Move.runAll ms .empty).2.view? o with
  | none =>
      have hgone := on_object_of_none ((sound_empty.runAll ms).objects_eq_none hv)
      unfold callPath expectOperation
      rw [bind_assoc, on_bind_of_error hgone]
      rfl
  | some v =>
      rw [on_callPath_compile hv, Option.bind_eq_bind, Option.bind_some]
      cases v.compile <;> rfl

/-- A path that is there is one that a run makes, and its calls are told. -/
theorem exists_path_of_view? {ms : List Move} {o : PathId} {v : View} (hms : ∀ m ∈ ms, m.IsProper)
    (hv : (Move.runAll ms .empty).2.view? o = some v) : ∃ es w p, Run es w ∧
      w.paths[o]? = some p ∧ v = p.view ∧ callTree ms o = some p.traversal := by
  obtain ⟨houtcomes, hrepresents⟩ := represents_runAll represents_empty hms
  obtain ⟨es, hrun⟩ := exists_run_of_runAllOn .start hms
  have htells := Account.tells_blank.runAllOn hms
  rw [← houtcomes] at htells
  rw [hrepresents.views o] at hv
  obtain ⟨p, hp, rfl⟩ := Option.map_eq_some_iff.1 hv
  refine ⟨es, _, p, hrun, hp, rfl, ?_⟩
  rw [callTree, htells o p hp]
  rfl

/-- An inner path is undefined in the tree of an outer one exactly if it does not compile. -/
theorem exists_callTree_of_view? {ms : List Move} {o : PathId} {v : View}
    (hms : ∀ m ∈ ms, m.IsProper) (hv : (Move.runAll ms .empty).2.view? o = some v) :
    ∃ T, callTree ms o = some T ∧ (T.isBroken = true ↔ compiled? ms o = none) := by
  obtain ⟨_, _, p, -, -, rfl, htree⟩ := exists_path_of_view? hms hv
  refine ⟨p.traversal, htree, ?_⟩
  rw [compiled?_eq, hv, Option.bind_eq_bind, Option.bind_some, Path.compile_view, Path.compile,
    Traversal.compile]
  cases p.traversal.isBroken <;> simp [Except.toOption]

/-- What compiles is a path that a run makes, and its calls are told. -/
theorem exists_path_of_compiled? {ms : List Move} {o : PathId} {s : String}
    (hms : ∀ m ∈ ms, m.IsProper) (hs : compiled? ms o = some s) : ∃ es w p, Run es w ∧
      w.paths[o]? = some p ∧ callTree ms o = some p.traversal ∧ p.compile = .ok s := by
  rw [compiled?_eq] at hs
  obtain ⟨v, hv, hcompile⟩ := Option.bind_eq_some_iff.1 hs
  obtain ⟨es, w, p, hrun, hp, rfl, htree⟩ := exists_path_of_view? hms hv
  rw [Path.compile_view] at hcompile
  refine ⟨es, w, p, hrun, hp, htree, ?_⟩
  cases hp : p.compile with
  | error e =>
      rw [hp] at hcompile
      cases hcompile
  | ok t =>
      rw [hp] at hcompile
      exact congrArg Except.ok (Option.some.inj hcompile)

/-- Compilation is unambiguous: two paths, made by whatever calls, compile to the same query exactly
if their calls say the same. -/
theorem compiled_eq_iff {ms ms' : List Move} {o o' : PathId} {s t : String}
    (hms : ∀ m ∈ ms, m.IsProper) (hms' : ∀ m ∈ ms', m.IsProper)
    (hs : compiled? ms o = some s) (ht : compiled? ms' o' = some t) :
    ∃ T T', callTree ms o = some T ∧ callTree ms' o' = some T' ∧
      (s = t ↔ T.reading = T'.reading) := by
  obtain ⟨es, w, p, hrun, hp, htree, hs⟩ := exists_path_of_compiled? hms hs
  obtain ⟨es', w', q, hrun', hq, htree', ht⟩ := exists_path_of_compiled? hms' ht
  exact ⟨p.traversal, q.traversal, htree, htree',
    hrun.compile_eq_iff hrun' (Run.seen_of_getElem? hp) (Run.seen_of_getElem? hq) hs ht⟩

/-- Paths along the edges that another path finds, from every vertex and from a list of none. -/
def alongEdges : List Move := [
  .startVertices (.selector (.nodes .any)), .startVertices (.selector (.nodes (.many []))),
  .startVertices (.selector (.nodes .any)), .call 0 "copy" [],
  .call 0 "out" [.foundBy (.path 3)], .call 1 "out" [.foundBy (.path 3)],
  .call 2 "in_" [.foundBy (.path 3)]]

/-- The tree of such a path. -/
def alongEdgesTree (kind : Edge) (nodes : Choice) : Traversal :=
  .nest (.start (.vertices nodes)) (.edge kind .any) (.start (.vertices .any))

/-- No vertices and an empty list of them compile alike, and the two ways along edges do not. -/
theorem compiled_of_alongEdges : ∃ s t u, compiled? alongEdges 0 = some s ∧
    compiled? alongEdges 1 = some t ∧ compiled? alongEdges 2 = some u ∧
    callTree alongEdges 0 ≠ callTree alongEdges 1 ∧ s = t ∧ s ≠ u := by
  have hproper : ∀ m ∈ alongEdges, m.IsProper := by
    simp [alongEdges, Move.IsProper, Value.isProper_foundBy]
  have hzero : compiled? alongEdges 0 = some "g.V().Out(g.V())" := by decide +kernel
  have hone : compiled? alongEdges 1 = some "g.V().Out(g.V())" := by decide +kernel
  have htwo : compiled? alongEdges 2 = some "g.V().In(g.V())" := by decide +kernel
  have hout : callTree alongEdges 0 = some (alongEdgesTree .out .any) := by decide +kernel
  have hlist : callTree alongEdges 1 = some (alongEdgesTree .out (.many [])) := by decide +kernel
  have hinto : callTree alongEdges 2 = some (alongEdgesTree .into .any) := by decide +kernel
  obtain ⟨_, _, hT, hT', hsame⟩ := compiled_eq_iff hproper hproper hzero hone
  obtain ⟨_, _, hU, hU', hother⟩ := compiled_eq_iff hproper hproper hzero htwo
  cases hT.symm.trans hout
  cases hT'.symm.trans hlist
  cases hU.symm.trans hout
  cases hU'.symm.trans hinto
  refine ⟨_, _, _, hzero, hone, htwo, ?_, hsame.2 rfl, fun h ↦ ?_⟩
  · rw [hout, hlist]
    decide
  · exact absurd (hother.1 h) (by decide)

end Heap

end GraphQuery
