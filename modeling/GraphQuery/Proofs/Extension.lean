import GraphQuery.Proofs.Action

/-!
# What a builder call makes of a path

A builder call that succeeds puts one call at the end of the traversal and takes in the morphisms
that the call brings along.  `Build.Adds` lists, call by call, which traversal that is and which
morphisms those are; `extend_eq_ok` says that nothing else can come of a builder call, and
`onlyWarns_extend` that until then nothing was done but to warn.
-/

namespace GraphQuery

open Work

/-- What a builder call on the path `p` adds to it: the traversal with the call at its end, and the
morphisms that the call brings along. -/
inductive Build.Adds (w : Workspace) (p : Path) : Build → Traversal → List PathId → Prop
  /-- The predicates of an edge call are named. -/
  | named {kind : Edge} {predicates second : Value} {choice names : Choice} :
      predicates.predicates? = some (.named choice) → second.choice? kind.secondAxis = some names →
      Adds w p (.edge kind predicates second) (p.traversal.call (.edge kind choice names)) []
  /-- The predicates of an edge call are found by a path. -/
  | found {kind : Edge} {predicates second : Value} {inner : Path} {names : Choice} :
      predicates.predicates? = some (.found inner) → second.choice? kind.secondAxis = some names →
      Adds w p (.edge kind predicates second)
        (p.traversal.nest (.edge kind names) inner.traversal) inner.followed
  | mark {kind : Mark} {names : Value} {choice : Choice} :
      names.choice? kind.axis = some choice →
      Adds w p (.mark kind names) (p.traversal.call (.mark kind choice)) []
  /-- Only a path that is a query is joined. -/
  | join {kind : Join} {i : PathId} {other : Path} :
      w.paths[i]? = some other → other.traversal.isBroken = false →
      Adds w p (.join kind (.path i)) (p.traversal.nest (.join kind) other.traversal) other.followed
  /-- A morphism is followed by its name, and what it follows itself comes with it. -/
  | follow {direction : Direction} {i : PathId} {q : Path} {l : Label} :
      w.paths[i]? = some q → q.label = some l →
      Adds w p (.follow direction (.path i)) (p.traversal.call (.follow direction l.name))
        (i :: q.followed)
  /-- A morphism has no terminal calls. -/
  | finish {terminal : Terminal} : p.label = none →
      Adds w p (.finish terminal) (p.traversal.call (.finish terminal)) []
  | limit {n : Int} : p.label = none → 0 ≤ n → Number.isOverlong n = false →
      Adds w p (.limit (.plain (.int n))) (p.traversal.call (.finish (.limit n.toNat))) []

theorem Traversal.isBroken_of_compile_eq_ok {t : Traversal} {s : String}
    (h : t.compile = .ok s) : t.isBroken = false ∧ s = t.text := by
  unfold Traversal.compile at h
  split at h
  · cases h
  · rename_i hb
    exact ⟨by simpa using hb, by cases h; rfl⟩

theorem Path.push_eq_ok {p p' : Path} {next : Traversal} {brought : List PathId}
    (h : p.push next brought = .ok p') : p.isFinalized = false ∧
      p' = { p with traversal := next, followed := absorb p.followed brought } := by
  cases hf : p.isFinalized with
  | true => rw [push_of_finalized hf] at h; cases h
  | false =>
      rw [push_of_not_finalized hf] at h
      cases h
      exact ⟨rfl, rfl⟩

/-- What is joined is a query. -/
theorem Path.join_eq_ok {p p' other : Path} {kind : Join} (h : p.join kind other = .ok p') :
    other.traversal.isBroken = false ∧
      p.push (p.traversal.nest (.join kind) other.traversal) other.followed = .ok p' := by
  unfold Path.join at h
  cases hs : other.compile with
  | ok s =>
      rw [hs] at h
      exact ⟨(Traversal.isBroken_of_compile_eq_ok hs).1, h⟩
  | error e => rw [hs] at h; cases h

namespace Action

variable {α : Type}

/-! ## Looking at arguments -/

theorem ofResult_eq_ok {r : Except Error α} {w v : Workspace} {a : α}
    (h : (ofResult r).on w = (.ok a, v)) : r = .ok a := by
  rw [on_ofResult] at h
  exact (Prod.mk.inj h).1

theorem Keeps.expectChoice {γ : Type} {view : Workspace → γ} (axis : Axis) (v : Value) :
    Keeps view (Action.expectChoice axis v) := (Keeps.display v).bind fun _ ↦ Keeps.ofOption _ _

theorem Keeps.expectPredicates {γ : Type} {view : Workspace → γ} (v : Value) :
    Keeps view (Action.expectPredicates v) := by
  unfold Action.expectPredicates
  split
  · exact Keeps.lacks _ _
  · exact (Keeps.display _).bind fun _ ↦ Keeps.ofOption _ _

theorem Keeps.expectPath {γ : Type} {view : Workspace → γ} (v : Value) :
    Keeps view (Action.expectPath v) := by
  unfold Action.expectPath
  split
  · exact Keeps.getPath _
  · exact (Keeps.display _).bind fun _ ↦ Keeps.throw _

theorem Keeps.expectMorphism {γ : Type} {view : Workspace → γ} (v : Value) :
    Keeps view (Action.expectMorphism v) := by
  unfold Action.expectMorphism
  split
  · refine (Keeps.getPath _).bind fun p ↦ ?_
    cases p.label
    · exact (Keeps.display _).bind fun _ ↦ Keeps.throw _
    · exact Keeps.pure _
  · exact (Keeps.display _).bind fun _ ↦ Keeps.throw _

theorem Keeps.expectLimit {γ : Type} {view : Workspace → γ} (v : Value) :
    Keeps view (Action.expectLimit v) := by
  unfold Action.expectLimit
  split
  · refine (Keeps.display _).bind fun _ ↦ ?_
    split
    · exact Keeps.pure _
    · exact Keeps.throw _
  · exact (Keeps.display _).bind fun _ ↦ Keeps.throw _

theorem Keeps.expectName {γ : Type} {view : Workspace → γ} (v : Value) :
    Keeps view (Action.expectName v) := by
  unfold Action.expectName
  split
  · exact Keeps.ofResult _
  · exact (Keeps.display _).bind fun _ ↦ Keeps.throw _

theorem Keeps.expectEnding {γ : Type} {view : Workspace → γ} (p : Path) (operation : String) :
    Keeps view (Action.expectEnding p operation) := by
  unfold Action.expectEnding
  split
  · exact Keeps.throw _
  · exact Keeps.pure _

theorem Keeps.expectLabel {γ : Type} {view : Workspace → γ} (i : PathId) (operation : String) :
    Keeps view (Action.expectLabel i operation) := (Keeps.getPath i).bind fun _ ↦ Keeps.ofOption _ _

theorem onlyWarns_warnOfPredicates (p : Predicates) : OnlyWarns (warnOfPredicates p) := by
  unfold warnOfPredicates
  split
  · exact onlyWarns_note _
  · exact Keeps.pure _

theorem onlyWarns_warnOfMorphism (l : Label) : OnlyWarns (warnOfMorphism l) := by
  unfold warnOfMorphism
  split
  · exact onlyWarns_note _
  · exact Keeps.pure _

theorem expectChoice_eq_ok {axis : Axis} {v : Value} {w u : Workspace} {c : Choice}
    (h : (expectChoice axis v).on w = (.ok c, u)) : v.choice? axis = some c ∧ u = w := by
  have hu := (Keeps.expectChoice axis v).eq_of_on h
  obtain ⟨_, _, _, h⟩ := on_bind_eq_ok.1 h
  exact ⟨(on_ofOption_eq_ok.1 h).1, hu⟩

theorem expectPredicates_eq_ok {v : Value} {w u : Workspace} {p : Predicates}
    (h : (expectPredicates v).on w = (.ok p, u)) : v.predicates? = some p ∧ u = w := by
  have hu := (Keeps.expectPredicates v).eq_of_on h
  refine ⟨?_, hu⟩
  unfold expectPredicates at h
  split at h
  · obtain ⟨_, _, _, h⟩ := on_bind_eq_ok.1 h
    cases h
  · obtain ⟨_, _, _, h⟩ := on_bind_eq_ok.1 h
    exact (on_ofOption_eq_ok.1 h).1

theorem expectPath_eq_ok {v : Value} {w u : Workspace} {p : Path}
    (h : (expectPath v).on w = (.ok p, u)) : (∃ i, v = .path i ∧ w.paths[i]? = some p) ∧ u = w := by
  have hu := (Keeps.expectPath v).eq_of_on h
  refine ⟨?_, hu⟩
  unfold expectPath at h
  split at h
  · rename_i i
    exact ⟨i, rfl, (on_getPath_eq_ok.1 h).1⟩
  · obtain ⟨_, _, _, h⟩ := on_bind_eq_ok.1 h
    cases h

theorem expectMorphism_eq_ok {v : Value} {w u : Workspace} {i : PathId} {l : Label} {q : Path}
    (h : (expectMorphism v).on w = (.ok (i, l, q), u)) :
    v = .path i ∧ w.paths[i]? = some q ∧ q.label = some l ∧ u = w := by
  have hu := (Keeps.expectMorphism v).eq_of_on h
  unfold expectMorphism at h
  split at h
  · obtain ⟨p, v, hp, hr⟩ := on_bind_eq_ok.1 h
    obtain ⟨hp, rfl⟩ := on_getPath_eq_ok.1 hp
    split at hr
    · rename_i hl
      cases hr
      exact ⟨rfl, hp, hl, rfl⟩
    · obtain ⟨_, _, _, hr⟩ := on_bind_eq_ok.1 hr
      cases hr
  · obtain ⟨_, _, _, h⟩ := on_bind_eq_ok.1 h
    cases h

theorem expectLimit_eq_ok {v : Value} {w u : Workspace} {n : Nat}
    (h : (expectLimit v).on w = (.ok n, u)) :
    (∃ z : Int, v = .plain (.int z) ∧ 0 ≤ z ∧ Number.isOverlong z = false ∧ n = z.toNat) ∧
      u = w := by
  have hu := (Keeps.expectLimit v).eq_of_on h
  refine ⟨?_, hu⟩
  unfold expectLimit at h
  split at h
  · rename_i z
    obtain ⟨_, _, hshown, h⟩ := on_bind_eq_ok.1 h
    have hlong := displayFault?_eq_none hshown
    split at h
    · rename_i hz
      cases h
      exact ⟨z, rfl, hz, Value.isOverlong_eq_false hlong, rfl⟩
    · cases h
  · obtain ⟨_, _, _, h⟩ := on_bind_eq_ok.1 h
    cases h

theorem expectEnding_eq_ok {p : Path} {operation : String} {w u : Workspace} {a : Unit}
    (h : (expectEnding p operation).on w = (.ok a, u)) : p.label = none ∧ u = w := by
  have hu := (Keeps.expectEnding p operation).eq_of_on h
  refine ⟨?_, hu⟩
  unfold expectEnding at h
  split at h
  · cases h
  · rename_i hl
    simpa using hl

/-- A name that is expected is there as a text that is accepted as a name. -/
theorem expectName_eq_ok {v : Value} {w u : Workspace} {n : String}
    (h : (expectName v).on w = (.ok n, u)) :
    (∃ s, v = .text s ∧ Identifier.check s = .ok n) ∧ u = w := by
  have hu := (Keeps.expectName v).eq_of_on h
  refine ⟨?_, hu⟩
  unfold expectName at h
  split at h
  · rename_i p
    rw [on_ofResult] at h
    unfold Identifier.checkPlain at h
    split at h
    · exact ⟨_, rfl, (Prod.mk.inj h).1⟩
    · cases h
  · obtain ⟨_, _, _, h⟩ := on_bind_eq_ok.1 h
    cases h

/-! ## Extending a path -/

/-- Until a path is written back nothing is done but to warn. -/
theorem onlyWarns_extend (p : Path) (call : Build) : OnlyWarns (extend p call) := by
  cases call with
  | edge kind predicates second =>
      exact (Keeps.expectChoice _ _).bind fun _ ↦ (Keeps.expectPredicates _).bind fun _ ↦
        (onlyWarns_warnOfPredicates _).bind fun _ ↦ Keeps.ofResult _
  | mark kind names => exact (Keeps.expectChoice _ _).bind fun _ ↦ Keeps.ofResult _
  | join kind other => exact (Keeps.expectPath _).bind fun _ ↦ Keeps.ofResult _
  | follow direction morphism =>
      exact (Keeps.expectMorphism _).bind fun _ ↦
        (onlyWarns_warnOfMorphism _).bind fun _ ↦ Keeps.ofResult _
  | finish terminal => exact (Keeps.expectEnding _ _).bind fun _ ↦ Keeps.ofResult _
  | limit count =>
      exact (Keeps.expectEnding _ _).bind fun _ ↦ (Keeps.expectLimit _).bind fun _ ↦
        Keeps.ofResult _

/-- A builder call that succeeds adds to a path that is not finalized what the call says. -/
theorem extend_eq_ok {p p' : Path} {call : Build} {w v : Workspace}
    (h : (extend p call).on w = (.ok p', v)) : ∃ next brought, call.Adds w p next brought ∧
      p.isFinalized = false ∧
      p' = { p with traversal := next, followed := absorb p.followed brought } := by
  cases call with
  | edge kind predicates second =>
      obtain ⟨names, u, hc, h₁⟩ := on_bind_eq_ok.1 h
      obtain ⟨hnames, rfl⟩ := expectChoice_eq_ok hc
      obtain ⟨sought, u, hs, h₂⟩ := on_bind_eq_ok.1 h₁
      obtain ⟨hsought, rfl⟩ := expectPredicates_eq_ok hs
      obtain ⟨_, u, _, h₃⟩ := on_bind_eq_ok.1 h₂
      have hp := ofResult_eq_ok h₃
      cases sought with
      | named choice => exact ⟨_, _, .named hsought hnames, Path.push_eq_ok hp⟩
      | found inner => exact ⟨_, _, .found hsought hnames, Path.push_eq_ok hp⟩
  | mark kind names =>
      obtain ⟨choice, u, hc, h₁⟩ := on_bind_eq_ok.1 h
      obtain ⟨hchoice, rfl⟩ := expectChoice_eq_ok hc
      exact ⟨_, _, .mark hchoice, Path.push_eq_ok (ofResult_eq_ok h₁)⟩
  | join kind other =>
      obtain ⟨o, u, ho, h₁⟩ := on_bind_eq_ok.1 h
      obtain ⟨⟨i, rfl, hi⟩, rfl⟩ := expectPath_eq_ok ho
      obtain ⟨hb, hp⟩ := Path.join_eq_ok (ofResult_eq_ok h₁)
      exact ⟨_, _, .join hi hb, Path.push_eq_ok hp⟩
  | follow direction morphism =>
      obtain ⟨⟨i, l, q⟩, u, hm, h₁⟩ := on_bind_eq_ok.1 h
      obtain ⟨rfl, hq, hl, rfl⟩ := expectMorphism_eq_ok hm
      obtain ⟨_, u, _, h₂⟩ := on_bind_eq_ok.1 h₁
      exact ⟨_, _, .follow hq hl, Path.push_eq_ok (ofResult_eq_ok h₂)⟩
  | finish terminal =>
      obtain ⟨_, u, he, h₁⟩ := on_bind_eq_ok.1 h
      obtain ⟨hl, rfl⟩ := expectEnding_eq_ok he
      exact ⟨_, _, .finish hl, Path.push_eq_ok (ofResult_eq_ok h₁)⟩
  | limit count =>
      obtain ⟨_, u, he, h₁⟩ := on_bind_eq_ok.1 h
      obtain ⟨hl, rfl⟩ := expectEnding_eq_ok he
      obtain ⟨n, u, hn, h₂⟩ := on_bind_eq_ok.1 h₁
      obtain ⟨⟨z, rfl, hz, hlong, rfl⟩, rfl⟩ := expectLimit_eq_ok hn
      exact ⟨_, _, .limit hl hz hlong, Path.push_eq_ok (ofResult_eq_ok h₂)⟩

/-! ## What extends a path -/

theorem succeeds_warnOfPredicates (p : Predicates) : Succeeds (warnOfPredicates p) := by
  unfold warnOfPredicates
  split
  · exact succeeds_note _
  · exact succeeds_pure _

theorem succeeds_warnOfMorphism (l : Label) : Succeeds (warnOfMorphism l) := by
  unfold warnOfMorphism
  split
  · exact succeeds_note _
  · exact succeeds_pure _

variable {w : Workspace}

theorem on_expectChoice {axis : Axis} {v : Value} {c : Choice} (h : v.choice? axis = some c) :
    (expectChoice axis v).on w = (.ok c, w) := by
  have hshown : v.displayFault? = none := by
    cases v with
    | selector s => rfl
    | _ => cases h
  rw [expectChoice, on_bind_of_ok (on_display_of_none hshown), h]
  rfl

theorem on_expectPredicates {v : Value} {p : Predicates} (h : v.predicates? = some p) :
    (expectPredicates v).on w = (.ok p, w) := by
  cases v with
  | selector s =>
      have hshown : (Value.selector s).displayFault? = none := rfl
      change (display (.selector s) >>= fun shown ↦
        ofOption (.notSelector .predicate shown) (Value.selector s).predicates?).on w = _
      rw [on_bind_of_ok (on_display_of_none hshown), h]
      rfl
  | _ => cases h

theorem on_expectMorphism {i : PathId} {q : Path} {l : Label} (hq : w.paths[i]? = some q)
    (hl : q.label = some l) : (expectMorphism (.path i)).on w = (.ok (i, l, q), w) := by
  rw [expectMorphism, on_bind_of_ok (on_getPath_of_some hq), hl]
  rfl

theorem on_expectEnding {p : Path} (hl : p.label = none) (operation : String) :
    (expectEnding p operation).on w = (.ok (), w) := by
  rw [expectEnding, hl]
  rfl

theorem on_expectLimit {n : Int} (hn : 0 ≤ n) (hlong : Number.isOverlong n = false) :
    (expectLimit (.plain (.int n))).on w = (.ok n.toNat, w) := by
  have hshown : (Value.plain (.int n)).displayFault? = none := Value.displayFault?_plain hlong
  rw [expectLimit, on_bind_of_ok (on_display_of_none hshown), if_pos hn]
  rfl

/-- A call that adds something to a path does so, or is refused because the path is finalized. -/
theorem exists_extend_eq_push {p : Path} {call : Build} {next : Traversal} {brought : List PathId}
    (h : call.Adds w p next brought) : ∃ v, (extend p call).on w = (p.push next brought, v) := by
  cases h with
  | @named kind predicates second choice names hs hn =>
      obtain ⟨_, u, hwarn⟩ := succeeds_warnOfPredicates (.named choice) w
      refine ⟨u, ?_⟩
      rw [extend, on_bind_of_ok (on_expectChoice hn), on_bind_of_ok (on_expectPredicates hs),
        on_bind_of_ok hwarn, Path.edge, on_ofResult]
  | @found kind predicates second inner names hs hn =>
      obtain ⟨_, u, hwarn⟩ := succeeds_warnOfPredicates (.found inner) w
      refine ⟨u, ?_⟩
      rw [extend, on_bind_of_ok (on_expectChoice hn), on_bind_of_ok (on_expectPredicates hs),
        on_bind_of_ok hwarn, Path.edge, on_ofResult]
  | mark hn =>
      refine ⟨w, ?_⟩
      rw [extend, on_bind_of_ok (on_expectChoice hn), Path.mark, on_ofResult]
  | @join kind i other ho hb =>
      have hpath : (expectPath (.path i)).on w = (.ok other, w) := on_getPath_of_some ho
      have hcompile : other.compile = .ok other.traversal.text := by
        rw [Path.compile, Traversal.compile, hb]
        rfl
      refine ⟨w, ?_⟩
      rw [extend, on_bind_of_ok hpath, Path.join, hcompile]
      exact on_ofResult _ w
  | @follow direction i q l hq hl =>
      obtain ⟨_, u, hwarn⟩ := succeeds_warnOfMorphism l w
      refine ⟨u, ?_⟩
      rw [extend, on_bind_of_ok (on_expectMorphism hq hl), on_bind_of_ok hwarn, Path.follow,
        on_ofResult]
  | finish hl =>
      refine ⟨w, ?_⟩
      rw [extend, on_bind_of_ok (on_expectEnding hl _), Path.finish, on_ofResult]
  | limit hl hn hlong =>
      refine ⟨w, ?_⟩
      rw [extend, on_bind_of_ok (on_expectEnding hl _), on_bind_of_ok (on_expectLimit hn hlong),
        Path.finish, on_ofResult]

/-- What a builder call has to add to a path that is not finalized it adds. -/
theorem exists_extend_of_adds {p : Path} {call : Build} {next : Traversal} {brought : List PathId}
    (hopen : p.isFinalized = false) (h : call.Adds w p next brought) :
    ∃ v, (extend p call).on w =
      (.ok { p with traversal := next, followed := absorb p.followed brought }, v) := by
  rw [← Path.push_of_not_finalized hopen]
  exact exists_extend_eq_push h

end Action

end GraphQuery
