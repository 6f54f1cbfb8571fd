import GraphQuery.Proofs.Calls

/-!
# When a path is a query

A call of `Save` with arguments that do not select exactly one predicate and one tag succeeds, and
is told only when the path is compiled.  So whether a path compiles is a matter of the calls that
made it: it fails exactly if there are offences among their arguments, and it then tells them in the
order of the calls (`Grown.compile_eq`).

From this follows how failing spreads and how it does not.  A path that fails does so for ever, and
so do its copies (`Run.fails_of_stems`); it cannot be joined to another path; and nested in a
selector it is written as `undefined` and does no harm.
-/

namespace GraphQuery

/-! ## Compiling a traversal -/

namespace Traversal

theorem isBroken_eq_false_iff {t : Traversal} : t.isBroken = false ↔ t.problems = [] := by
  rw [isBroken, Bool.not_eq_false', List.isEmpty_iff]

theorem compile_eq (t : Traversal) : t.compile =
    if t.problems = [] then .ok t.text
    else .error (.compilation ("; ".intercalate (t.problems.map Problem.text))) := by
  unfold compile
  split
  · rename_i hbroken
    rw [if_neg]
    intro h
    rw [isBroken_eq_false_iff.2 h] at hbroken
    cases hbroken
  · rename_i hbroken
    rw [if_pos (isBroken_eq_false_iff.1 (Bool.eq_false_iff.2 hbroken))]

theorem compile_eq_ok_iff {t : Traversal} {s : String} :
    t.compile = .ok s ↔ t.problems = [] ∧ s = t.text := by
  rw [compile_eq]
  split
  · rename_i h
    rw [Except.ok.injEq, and_iff_right h, eq_comm]
  · rename_i h
    exact iff_of_false nofun fun hs ↦ h hs.1

theorem head?_toList_text (t : Traversal) : t.text.toList.head? = some 'g' := by
  induction t with
  | start r => exact r.head?_toList_text
  | call before c ih => simp [ih]
  | nest before c inner ih _ => simp [ih]

/-- No query is written like what stands for an inner path that is none. -/
theorem text_ne_undefined (t : Traversal) : t.text ≠ "undefined" := by
  intro h
  have hhead := t.head?_toList_text
  rw [h] at hhead
  cases hhead

end Traversal

/-- A path is no query. -/
def Path.Fails (p : Path) : Prop := ∃ e, p.compile = .error e

theorem Path.fails_iff {p : Path} : p.Fails ↔ p.problems ≠ [] := by
  rw [Fails, compile, Traversal.compile_eq, problems]
  split <;> simp [*]

/-! ## Offences -/

namespace Value

/-- Whether a value selects one predicate by its name. -/
def isPredicate : Value → Bool
  | selector (.predicates (.named (.one _))) => true
  | _ => false

/-- Whether a value selects one tag by its name. -/
def isTag : Value → Bool
  | selector (.tags (.one _)) => true
  | _ => false

theorem eq_of_predicates? {v : Value} {p : Predicates} (h : v.predicates? = some p) :
    v = .selector (.predicates p) := by
  cases v with
  | selector s =>
      cases s <;> cases h
      rfl
  | _ => cases h

theorem eq_of_choice?_tag {v : Value} {c : Choice} (h : v.choice? .tag = some c) :
    v = .selector (.tags c) := by
  cases v with
  | selector s =>
      cases s <;> cases h
      rfl
  | _ => cases h

@[simp] theorem isPredicate_named (c : Choice) :
    (selector (.predicates (.named c))).isPredicate = c.isOne := by
  cases c <;> rfl

@[simp] theorem isPredicate_found (p : Path) :
    (selector (.predicates (.found p))).isPredicate = false := rfl

@[simp] theorem isTag_tags (c : Choice) : (selector (.tags c)).isTag = c.isOne := by
  cases c <;> rfl

end Value

@[simp] theorem Workspace.display_selector (w : Workspace) (s : Selector) :
    w.display (.selector s) = s.display := by
  rw [display, Value.display]

namespace Build

/-- What is said against the arguments of a call once the path is compiled: only `Save` is choosy,
and the predicate is looked at before the tag. -/
def offences (w : Workspace) : Build → List String
  | .edge .save predicates second =>
    (if predicates.isPredicate then []
      else ["Save() needs exactly one predicate, got " ++ w.display predicates]) ++
    (if second.isTag then [] else ["Save() needs exactly one tag, got " ++ w.display second])
  | _ => []

/-- What can be said against a call is that it is `Save` with an argument that does not select
exactly one. -/
theorem offences_ne_nil_iff {w : Workspace} {call : Build} : call.offences w ≠ [] ↔
    ∃ predicates second, call = .edge .save predicates second ∧
      (predicates.isPredicate = false ∨ second.isTag = false) := by
  constructor
  · intro h
    unfold offences at h
    split at h
    · rename_i predicates second
      refine ⟨predicates, second, rfl, ?_⟩
      cases hp : predicates.isPredicate
      · exact .inl rfl
      · cases ht : second.isTag
        · exact .inr rfl
        · simp [hp, ht] at h
    · exact absurd rfl h
  · rintro ⟨predicates, second, rfl, h | h⟩ <;> simp [offences, h]

variable {w : Workspace} {p : Path} {call : Build} {next : Traversal} {brought : List PathId}

/-- The problems that a call adds are told as its offences. -/
theorem Adds.problems_eq (h : call.Adds w p next brought) :
    next.problems.map Problem.text = p.problems.map Problem.text ++ call.offences w := by
  cases h with
  | @named kind _ _ choice names hs hn =>
      obtain rfl := Value.eq_of_predicates? hs
      cases kind with
      | save =>
          obtain rfl := Value.eq_of_choice?_tag hn
          simp only [Traversal.problems_call, List.map_append, Call.problems, offences,
            Value.isPredicate_named, Value.isTag_tags, Path.problems, Workspace.display_selector]
          split <;> split <;> rfl
      | _ => simp [offences, Call.problems, Path.problems]
  | @found kind _ _ inner names hs hn =>
      obtain rfl := Value.eq_of_predicates? hs
      cases kind with
      | save =>
          obtain rfl := Value.eq_of_choice?_tag hn
          simp only [Traversal.problems_nest, List.map_append, NestCall.problems, offences,
            Value.isPredicate_found, Value.isTag_tags, Path.problems, Workspace.display_selector]
          split <;> rfl
      | _ => simp [offences, NestCall.problems, Path.problems]
  | _ => simp [offences, Call.problems, NestCall.problems, Path.problems]

theorem Adds.root_eq (h : call.Adds w p next brought) : next.root = p.traversal.root := by
  cases h <;> rfl

theorem Adds.text_eq (h : call.Adds w p next brought) :
    next.text = p.traversal.text ++ "." ++ next.lastSegment := by
  cases h <;> rfl

end Build

namespace Event

/-- What is said against the arguments of the call of an event. -/
def offences (e : Event) : List String :=
  match e.command with
  | .build _ call => call.offences e.before
  | _ => []

theorem offences_ne_nil_iff {e : Event} : e.offences ≠ [] ↔ ∃ k predicates second,
    e.command = .build k (.edge .save predicates second) ∧
      (predicates.isPredicate = false ∨ second.isTag = false) := by
  unfold offences
  split
  · rename_i k call hcommand
    rw [Build.offences_ne_nil_iff, hcommand]
    constructor
    · rintro ⟨predicates, second, rfl, h⟩
      exact ⟨k, predicates, second, rfl, h⟩
    · rintro ⟨_, predicates, second, ⟨⟩, h⟩
      exact ⟨predicates, second, rfl, h⟩
  · rename_i hcommand
    refine iff_of_false (fun h ↦ h rfl) ?_
    rintro ⟨k, _, _, h, _⟩
    exact hcommand k _ h

/-- The segment that the call of an event has put at the end of its path. -/
def segment (e : Event) : String :=
  match e.command with
  | .build k _ => (e.after.paths[k]?.map fun p ↦ p.traversal.lastSegment).getD ""
  | _ => ""

end Event

/-! ## Paths and their calls -/

namespace Grown

variable {calls : List Event} {p : Path}

/-- The problems of a path are told as the offences of its calls. -/
theorem problems_eq (h : Grown calls p) :
    p.problems.map Problem.text = calls.flatMap Event.offences := by
  induction h with
  | vertices => rfl
  | morphism => rfl
  | marked _ ih => exact ih
  | @added calls p e k call next brought _ hcommand _ hadds _ ih =>
      have hoffences : e.offences = call.offences e.before := by rw [Event.offences, hcommand]
      rw [List.flatMap_append, List.flatMap_singleton, hoffences, ← ih]
      exact hadds.problems_eq

/-- The segments of a path are that of its root and those that its calls have put behind it. -/
theorem segments_eq (h : Grown calls p) :
    p.segments = p.traversal.root.text :: calls.map Event.segment := by
  induction h with
  | vertices => rfl
  | morphism => rfl
  | marked _ ih => exact ih
  | @added calls p e k call next brought _ hcommand _ hadds hafter ih =>
      have hsegment : e.segment = next.lastSegment := by
        rw [Event.segment, hcommand]
        simp only [hafter, Option.map_some, Option.getD_some]
      have hroot : next.root = p.traversal.root := hadds.root_eq
      rw [List.map_append, List.map_singleton, hsegment, ← List.cons_append, hroot, ← ih]
      exact hadds.segments_eq

/-- A path tells the offences of its calls in order, or is its segments joined by dots. -/
theorem compile_eq (h : Grown calls p) : p.compile =
    if calls.flatMap Event.offences = [] then .ok (".".intercalate p.segments)
    else .error (.compilation ("; ".intercalate (calls.flatMap Event.offences))) := by
  rw [← h.problems_eq, Path.compile, Traversal.compile_eq, Traversal.text_eq_intercalate]
  simp only [List.map_eq_nil_iff]
  rfl

/-- A path fails exactly if one of its calls is `Save` with an argument that does not select exactly
one. -/
theorem fails_iff (h : Grown calls p) : p.Fails ↔ ∃ e ∈ calls, ∃ k predicates second,
    e.command = .build k (.edge .save predicates second) ∧
      (predicates.isPredicate = false ∨ second.isTag = false) := by
  have hoffences : p.problems = [] ↔ ∀ e ∈ calls, e.offences = [] := by
    rw [← List.map_eq_nil_iff (f := Problem.text), h.problems_eq, List.flatMap_eq_nil_iff]
  rw [Path.fails_iff, Ne, hoffences]
  simp only [not_forall, exists_prop]
  exact exists_congr fun e ↦ and_congr_right fun _ ↦ Event.offences_ne_nil_iff

end Grown

/-! ## How failing spreads -/

/-- The path `j` comes from the path `i`: it is that path, or a copy of it, or a copy of such a
copy, that was made by the events. -/
inductive Stems : List Event → PathId → PathId → Prop
  | self {i : PathId} : Stems [] i i
  | later {es : List Event} {e : Event} {i j : PathId} : Stems es i j → Stems (es ++ [e]) i j
  | copied {es : List Event} {e : Event} {i k j : PathId} : Stems es i k → e.command = .copy k →
      e.outcome = .ok (.path j) → Stems (es ++ [e]) i j

namespace Command

variable {w : Workspace} {c : Command} {i : PathId} {p q : Path}

/-- What a path has against it stays. -/
theorem Origin.fails (h : Origin w c i q) (hp : w.paths[i]? = some p) (hfails : p.Fails) :
    q.Fails := by
  rw [Path.fails_iff] at hfails ⊢
  rcases h.of_getElem? hp with rfl | ⟨call, next, brought, _, _, hadds, rfl⟩ | ⟨_, _, _, rfl⟩
  · exact hfails
  · intro hnone
    have hproblems := hadds.problems_eq
    rw [show next.problems = [] from hnone, List.map_nil, List.nil_eq, List.append_eq_nil_iff,
      List.map_eq_nil_iff] at hproblems
    exact hfails hproblems.1
  · exact hfails

/-- A copy has the path that it is a copy of. -/
theorem getElem?_run_copy {k j : PathId} (hp : w.paths[k]? = some p)
    (hok : ((copy k).run w).1 = .ok (.path j)) : ((copy k).run w).2.paths[j]? = some p := by
  rw [run_copy hp] at hok ⊢
  cases hok
  exact Array.getElem?_push_size

/-- What a builder call that succeeds has added is the segment of its event. -/
theorem exists_adds_segment {call : Build} {v : Value} (hok : ((build i call).run w).1 = .ok v) :
    ∃ p next brought, w.paths[i]? = some p ∧ call.Adds w p next brought ∧
      ((build i call).run w).2.paths[i]? =
        some { p with traversal := next, followed := absorb p.followed brought } ∧
      Event.segment ⟨w, build i call⟩ = next.lastSegment := by
  obtain ⟨p, next, brought, hp, _, hadds, hpaths⟩ := exists_adds_of_build_eq_ok hok
  have hq := hpaths ▸ getElem?_setIfInBounds_of_some hp
    { p with traversal := next, followed := absorb p.followed brought }
  refine ⟨p, next, brought, hp, hadds, hq, ?_⟩
  simp only [Event.segment, Event.after, hq, Option.map_some, Option.getD_some]

/-- A builder call that succeeds puts its segment at the end of the path, and leaves a query exactly
if it finds one and has no offences. -/
theorem exists_segment_of_build_eq_ok {call : Build} {v : Value} (hp : w.paths[i]? = some p)
    (hok : ((build i call).run w).1 = .ok v) :
    ∃ q, ((build i call).run w).2.paths[i]? = some q ∧
      q.segments = p.segments ++ [Event.segment ⟨w, build i call⟩] ∧
      ∀ t, q.compile = .ok t ↔ ∃ s, p.compile = .ok s ∧ call.offences w = [] ∧
        t = s ++ "." ++ Event.segment ⟨w, build i call⟩ := by
  obtain ⟨p', next, brought, hp', hadds, hq, hsegment⟩ := exists_adds_segment hok
  obtain rfl := Option.some.inj (hp.symm.trans hp')
  refine ⟨_, hq, ?_, fun t ↦ ?_⟩
  · rw [hsegment]
    exact hadds.segments_eq
  · have hproblems : next.problems = [] ↔ p.problems = [] ∧ call.offences w = [] := by
      rw [← List.map_eq_nil_iff (f := Problem.text), hadds.problems_eq, List.append_eq_nil_iff,
        List.map_eq_nil_iff]
    rw [hsegment, Path.compile, Traversal.compile_eq_ok_iff, hproblems, hadds.text_eq]
    simp only [Path.compile, Traversal.compile_eq_ok_iff]
    constructor
    · rintro ⟨⟨hp, hcall⟩, rfl⟩
      exact ⟨_, ⟨hp, rfl⟩, hcall, rfl⟩
    · rintro ⟨_, ⟨hp, rfl⟩, hcall, rfl⟩
      exact ⟨⟨hp, hcall⟩, rfl⟩

/-- What is joined is a path that is a query at that moment, and is written as such. -/
theorem exists_text_of_join_eq_ok {kind : Join} {other v : Value}
    (hok : ((build i (.join kind other)).run w).1 = .ok v) :
    ∃ o q text, other = .path o ∧ w.paths[o]? = some q ∧ q.compile = .ok text ∧
      Event.segment ⟨w, build i (.join kind other)⟩ = kind.word ++ "(" ++ text ++ ")" := by
  obtain ⟨p, next, brought, _, hadds, _, hsegment⟩ := exists_adds_segment hok
  rw [hsegment]
  cases hadds with
  | @join _ o q hq hbroken =>
      refine ⟨o, q, q.traversal.text, rfl, hq, ?_, ?_⟩
      · rw [Path.compile, Traversal.compile, hbroken]
        rfl
      · rw [Traversal.lastSegment, NestCall.text, Traversal.argument, hbroken]
        rfl

/-- A snapshot is written as the query that it is, or as `undefined` if it is none. -/
theorem exists_inner_of_found_eq_ok {kind : Edge} {predicates second v : Value} {s : Path}
    (hs : predicates.predicates? = some (.found s))
    (hok : ((build i (.edge kind predicates second)).run w).1 = .ok v) :
    ∃ names inner, second.choice? kind.secondAxis = some names ∧
      Event.segment ⟨w, build i (.edge kind predicates second)⟩ =
        kind.word ++ "(" ++ arguments inner names.text ++ ")" ∧
      (∀ t, s.compile = .ok t → inner = t) ∧ (s.Fails ↔ inner = "undefined") := by
  obtain ⟨p, next, brought, _, hadds, _, hsegment⟩ := exists_adds_segment hok
  rw [hsegment]
  cases hadds with
  | named hs' _ =>
      rw [hs] at hs'
      cases hs'
  | @found _ _ _ inner names hs' hn =>
      rw [hs] at hs'
      cases hs'
      refine ⟨names, s.traversal.argument, hn, rfl, ?_, ?_⟩
      · intro t ht
        obtain ⟨hbroken, rfl⟩ := Traversal.isBroken_of_compile_eq_ok ht
        rw [Traversal.argument, hbroken]
        rfl
      · rw [Path.fails_iff, Path.problems, Ne, ← Traversal.isBroken_eq_false_iff,
          Bool.not_eq_false, Traversal.argument]
        cases s.traversal.isBroken with
        | false => exact iff_of_false Bool.false_ne_true s.traversal.text_ne_undefined
        | true => exact iff_of_true rfl rfl

end Command

namespace Run

variable {es before after : List Event} {u w : Workspace} {i j : PathId} {p : Path}

/-- A path that fails does so for ever, and so do its copies and all that they are extended to. -/
theorem fails_of_stems (h : Run before u) (hp : u.paths[i]? = some p) (hfails : p.Fails)
    (hstems : Stems after i j) (h' : Run (before ++ after) w) :
    ∃ q, w.paths[j]? = some q ∧ q.Fails := by
  induction hstems generalizing w with
  | self =>
      rw [List.append_nil] at h'
      exact ⟨p, h.workspace_eq h' ▸ hp, hfails⟩
  | @later after e i j _ ih =>
      rw [← List.append_assoc] at h'
      obtain ⟨hrun, rfl, _⟩ := h'.of_concat
      obtain ⟨q, hq, hqfails⟩ := ih hp hrun
      obtain ⟨r, hr, horigin⟩ := Command.exists_of_getElem? (c := e.command) hq
      exact ⟨r, hr, horigin.fails hq hqfails⟩
  | @copied after e i k j _ hcommand hok ih =>
      rw [← List.append_assoc] at h'
      obtain ⟨hrun, rfl, _⟩ := h'.of_concat
      obtain ⟨q, hq, hqfails⟩ := ih hp hrun
      rw [Event.outcome, hcommand] at hok
      rw [Event.after, hcommand]
      exact ⟨q, Command.getElem?_run_copy hq hok, hqfails⟩

/-- When a path is a query.  It fails exactly if one of the calls that made it is `Save` with an
argument that does not select exactly one, and then tells all such arguments in order; otherwise it
is its segments joined by dots, and each call that succeeds adds one.  A path that fails does so for
ever, as do its copies; only queries are joined; and a nested path that fails is written as
`undefined`, which by itself is no offence. -/
theorem compile_eq_of_calls (h : Run es w) :
    (∀ (i : PathId) p, w.paths[i]? = some p →
      p.segments = p.traversal.root.text :: (callsOf es i).map Event.segment ∧
      p.compile = (let told := (callsOf es i).flatMap Event.offences
        if told = [] then .ok (".".intercalate p.segments)
        else .error (.compilation ("; ".intercalate told))) ∧
      (p.Fails ↔ ∃ e ∈ callsOf es i, ∃ k predicates second,
        e.command = .build k (.edge .save predicates second) ∧
          (predicates.isPredicate = false ∨ second.isTag = false))) ∧
    (∀ e ∈ es, ∀ i call v p, e.command = .build i call → e.outcome = .ok v →
      e.before.paths[i]? = some p → ∃ q, e.after.paths[i]? = some q ∧
        q.segments = p.segments ++ [e.segment] ∧
        ∀ t, q.compile = .ok t ↔
          ∃ s, p.compile = .ok s ∧ call.offences e.before = [] ∧ t = s ++ "." ++ e.segment) ∧
    (∀ before after u, es = before ++ after → Run before u →
      ∀ (i : PathId) p, u.paths[i]? = some p → p.Fails →
        ∀ j, Stems after i j → ∃ q, w.paths[j]? = some q ∧ q.Fails) ∧
    (∀ i, ∀ e ∈ callsOf es i, ∀ k kind other, e.command = .build k (.join kind other) →
      ∃ o q text, other = .path o ∧ e.before.paths[o]? = some q ∧ q.compile = .ok text ∧
        e.segment = kind.word ++ "(" ++ text ++ ")") ∧
    ∀ i, ∀ e ∈ callsOf es i, ∀ k kind predicates second s,
      e.command = .build k (.edge kind predicates second) →
      predicates.predicates? = some (.found s) → (kind ≠ .save → e.offences = []) ∧
        ∃ names inner, second.choice? kind.secondAxis = some names ∧
          e.segment = kind.word ++ "(" ++ arguments inner names.text ++ ")" ∧
          (∀ t, s.compile = .ok t → inner = t) ∧ (s.Fails ↔ inner = "undefined") := by
  refine ⟨?_, ?_, ?_, ?_, ?_⟩
  · intro i p hp
    have hgrown := h.grown hp
    exact ⟨hgrown.segments_eq, hgrown.compile_eq, hgrown.fails_iff⟩
  · rintro ⟨u, c⟩ _ i call v p rfl hok hp
    exact Command.exists_segment_of_build_eq_ok hp hok
  · rintro before after u rfl hbefore i p hp hfails j hstems
    exact hbefore.fails_of_stems hp hfails hstems h
  · rintro i ⟨u, c⟩ he k kind other rfl
    obtain ⟨_, k, _, v, ⟨⟩, hok⟩ := exists_of_mem_callsOf he
    exact Command.exists_text_of_join_eq_ok hok
  · rintro i ⟨u, c⟩ he k kind predicates second s rfl hs
    obtain ⟨_, k, _, v, ⟨⟩, hok⟩ := exists_of_mem_callsOf he
    refine ⟨fun hkind ↦ ?_, Command.exists_inner_of_found_eq_ok hs hok⟩
    cases kind with
    | save => exact absurd rfl hkind
    | _ => rfl

/-- A path that saves anything under any tag, its copy, and a path to nest it in. -/
def savingAnything : List Command := [
  .startVertices (.selector (.nodes .any)),
  .build 0 (.edge .save (.selector (.predicates (.named .any))) (.selector (.tags .any))),
  .copy 0,
  .startVertices (.selector (.nodes .any))]

/-- What goes along the edges that the failing path finds. -/
def nesting (p : Path) : Command :=
  .build 2 (.edge .out (.selector (.predicates (.found p))) (.selector (.tags .any)))

/-- The copy fails like its original, and the path that nests it is a query. -/
theorem compile_of_savingAnything :
    let w := (Command.runAll savingAnything .empty).2
    ∃ p q, w.paths[1]? = some p ∧ p.Fails ∧ ((nesting p).run w).2.paths[2]? = some q ∧
      q.compile = .ok "g.V().Out(undefined)" := by
  have hrun := Run.start.append_history savingAnything
    (by simp [savingAnything, Command.snapshot?, Build.snapshot?, Value.predicates?,
      Selector.predicates?])
  refine ⟨_, _, rfl, ?_, rfl, rfl⟩
  refine ((compile_eq_of_calls hrun).1 1 _ rfl).2.2.2 ?_
  exact ⟨_, List.mem_singleton.2 rfl, 0, _, _, rfl, .inl rfl⟩

end Run

end GraphQuery
