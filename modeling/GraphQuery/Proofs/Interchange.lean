import GraphQuery.Equality
import GraphQuery.Proofs.Absorption
import GraphQuery.Proofs.Slot

/-!
# Equal selectors in the same slot

Selectors of names are equal only if they are the same.  Two selectors whose predicates are found by
a path are always equal, but what becomes of them in a slot is settled by the paths: by what these
are written as and by the morphisms that they bring along.

So equal selectors cannot be put in the place of each other in general, and `shows_fill_eq_iff` says
when they can: exactly if they are written alike and bring the same morphisms along.
-/

namespace GraphQuery

/-- The axis of the argument that a problem is about. -/
def Problem.axis : Problem → Axis
  | predicates _ | foundPredicates _ => .predicate
  | tags _ => .tag

/-- What a path shows of itself, up to the wording of its problems. -/
@[ext]
structure Profile where
  segments : List String
  problems : List Axis
  followed : List PathId
  /-- The query that the path stands for, if it has no problem. -/
  query : Option String
  isFinalized : Bool
  label : Option Label
deriving DecidableEq

/-- The profile of a path. -/
def Path.profile (p : Path) : Profile where
  segments := p.segments
  problems := p.problems.map Problem.axis
  followed := p.followed
  query := p.compile.toOption
  isFinalized := p.isFinalized
  label := p.label

/-- What comes of a command: its outcome, and what all paths show after it. -/
def Command.shows (c : Command) (w : Workspace) : Except Error Value × Array Profile :=
  ((c.run w).1, (c.run w).2.paths.map Path.profile)

namespace Selector

/-- The morphisms that a selector brings along. -/
def brought : Selector → List PathId
  | predicates (.found p) => p.followed
  | _ => []

/-- Only selectors whose predicates are found by paths are equal without being the same. -/
theorem compare_eq_true_iff {s t : Selector} :
    (Value.selector s).compare (.selector t) = .ok true ↔
      s = t ∨ ∃ p q, s = .predicates (.found p) ∧ t = .predicates (.found q) := by
  have hsame : (Value.selector s).compare (.selector t) = .ok (s.same t) := by
    rw [Value.compare] <;> first | rfl | nofun
  rw [hsame, Except.ok.injEq]
  constructor
  · intro h
    unfold same at h
    split at h
    · exact .inl (congrArg nodes (of_decide_eq_true h))
    · exact .inl (congrArg tags (of_decide_eq_true h))
    · exact .inl (congrArg (predicates ∘ .named) (of_decide_eq_true h))
    · exact .inr ⟨_, _, rfl, rfl⟩
    · cases h
  · rintro (rfl | ⟨p, q, rfl, rfl⟩)
    · cases s with
      | nodes c | tags c => exact decide_eq_true rfl
      | predicates p =>
          cases p with
          | named c => exact decide_eq_true rfl
          | found p => rfl
    · rfl

end Selector

/-! ## A path with a nested path -/

theorem Traversal.toOption_compile (t : Traversal) :
    t.compile.toOption = if t.problems = [] then some t.text else none := by
  rw [compile_eq]
  split <;> rfl

theorem NestCall.text_edge_inj {kind : Edge} {second : Choice} {a b : String} (ha : a ≠ "null")
    (hb : b ≠ "null") :
    (NestCall.edge kind second).text a = (NestCall.edge kind second).text b ↔ a = b :=
  (brackets_inj (kind.word ++ "(")).trans (arguments_left_inj ha hb)

namespace Path

/-- A path after a call whose predicates are found by another path. -/
def nested (r : Path) (kind : Edge) (second : Choice) (p : Path) : Path :=
  { r with
    traversal := r.traversal.nest (.edge kind second) p.traversal
    followed := absorb r.followed p.followed }

variable {r p q : Path} {kind : Edge} {second : Choice}

/-- Which arguments a call is told to have wrong does not depend on the path that finds its
predicates. -/
theorem axis_problems_nested (r p q : Path) (kind : Edge) (second : Choice) :
    (r.nested kind second p).problems.map Problem.axis =
      (r.nested kind second q).problems.map Problem.axis := by
  show List.map _ (r.problems ++ _) = List.map _ (r.problems ++ _)
  rw [List.map_append, List.map_append]
  cases kind with
  | save => rfl
  | _ => rfl

/-- What a path shows after a call settles what the nested path is written as and what it brings
along, and is settled by it. -/
theorem profile_nested_eq_iff :
    (r.nested kind second p).profile = (r.nested kind second q).profile ↔
      p.traversal.argument = q.traversal.argument ∧
        absorb r.followed p.followed = absorb r.followed q.followed := by
  constructor
  · intro h
    refine ⟨?_, congrArg Profile.followed h⟩
    have hsegments : r.segments ++ [_] = r.segments ++ [_] := congrArg Profile.segments h
    have hlast := List.singleton_inj.1 (List.append_cancel_left hsegments)
    exact (NestCall.text_edge_inj p.traversal.argument_ne_null q.traversal.argument_ne_null).1 hlast
  · rintro ⟨hargument, hfollowed⟩
    have hproblems := axis_problems_nested r p q kind second
    have hlast : (NestCall.edge kind second).text p.traversal.argument =
        (NestCall.edge kind second).text q.traversal.argument := by rw [hargument]
    ext1
    · exact congrArg (r.segments ++ [·]) hlast
    · exact hproblems
    · exact hfollowed
    · have hnone : (r.nested kind second p).problems = [] ↔
          (r.nested kind second q).problems = [] := by
        rw [← List.map_eq_nil_iff (f := Problem.axis), hproblems, List.map_eq_nil_iff]
      have htext : (r.nested kind second p).traversal.text =
          (r.nested kind second q).traversal.text :=
        congrArg (r.traversal.text ++ "." ++ ·) hlast
      simp only [profile, compile, Traversal.toOption_compile, htext]
      exact if_congr hnone rfl rfl
    · rfl
    · rfl

end Path

/-! ## Commands -/

namespace Command

open GraphQuery.Action

variable {w : Workspace} {i : PathId} {r : Path}

section Build

variable {call : Build} {next : Traversal} {brought : List PathId}

theorem shows_build_of_finalized (hr : w.paths[i]? = some r) (hfinal : r.isFinalized = true)
    (h : call.Adds w r next brought) : (build i call).shows w =
      (.error (.finalized (.text next.lastSegment)), w.paths.map Path.profile) := by
  obtain ⟨v, hpaths, hrun⟩ := exists_run_build_of_finalized hr hfinal h
  rw [shows, hrun, hpaths]

theorem shows_build_of_open (hr : w.paths[i]? = some r) (hopen : r.isFinalized = false)
    (h : call.Adds w r next brought) : (build i call).shows w =
      (.ok (.path i), (w.paths.setIfInBounds i
        { r with traversal := next, followed := absorb r.followed brought }).map Path.profile) := by
  obtain ⟨v, hrun⟩ := exists_run_build_of_open hr hopen h
  rw [shows, hrun]

end Build

/-- What is put in the place of a path shows what it is, up to the wording of its problems. -/
theorem map_profile_setIfInBounds_eq_iff (hr : w.paths[i]? = some r) {x y : Path} :
    (w.paths.setIfInBounds i x).map Path.profile = (w.paths.setIfInBounds i y).map Path.profile ↔
      x.profile = y.profile := by
  constructor
  · intro h
    have hat := congrArg (·[i]?) h
    simp only [Array.getElem?_map, getElem?_setIfInBounds_of_some hr] at hat
    exact Option.some.inj hat
  · intro h
    rw [Array.map_setIfInBounds, Array.map_setIfInBounds, h]

end Command

namespace Slot

open Command

variable {slot : Slot} {w : Workspace} {i : PathId} {r p q : Path}

/-- Which of two paths finds the predicates of an edge call shows on a path that is not finalized if
they are written otherwise or bring other morphisms along, and on a finalized path only if they are
written otherwise. -/
theorem shows_edge_found_eq_iff {kind : Edge} {other : Value} {c : Choice}
    (hr : w.paths[i]? = some r) (hc : other.choice? kind.secondAxis = some c) :
    ((predicates kind other).fill i (.predicates (.found p))).shows w =
        ((predicates kind other).fill i (.predicates (.found q))).shows w ↔
      p.traversal.argument = q.traversal.argument ∧ (r.isFinalized = false →
        absorb r.followed p.followed = absorb r.followed q.followed) := by
  have hadds (p : Path) : (Build.edge kind (.selector (.predicates (.found p))) other).Adds w r
      (r.traversal.nest (.edge kind c) p.traversal) p.followed := .found rfl hc
  cases hfinal : r.isFinalized with
  | true =>
      rw [fill, fill, shows_build_of_finalized hr hfinal (hadds p),
        shows_build_of_finalized hr hfinal (hadds q)]
      have hsegment : (NestCall.edge kind c).text p.traversal.argument =
          (NestCall.edge kind c).text q.traversal.argument ↔ _ :=
        NestCall.text_edge_inj p.traversal.argument_ne_null q.traversal.argument_ne_null
      simpa [Traversal.lastSegment] using hsegment
  | false =>
      rw [fill, fill, shows_build_of_open hr hfinal (hadds p),
        shows_build_of_open hr hfinal (hadds q), Prod.mk.injEq, and_iff_right rfl,
        map_profile_setIfInBounds_eq_iff hr]
      refine Path.profile_nested_eq_iff.trans (and_congr_right fun _ ↦ ?_)
      exact ⟨fun h _ ↦ h, fun h ↦ h rfl⟩

theorem exists_of_fits (hfits : slot.Fits i w) (haxis : slot.axis = .predicate) :
    ∃ kind other r c, slot = .predicates kind other ∧ w.paths[i]? = some r ∧
      other.choice? kind.secondAxis = some c := by
  cases slot with
  | start => cases haxis
  | mark kind => cases kind <;> cases haxis
  | predicates kind other =>
      obtain ⟨⟨r, hr⟩, c, hc⟩ := hfits
      exact ⟨kind, other, r, c, rfl, hr, hc⟩
  | second kind other => cases kind <;> cases haxis

theorem shows_fill_found_eq_iff (hfits : slot.Fits i w) (haxis : slot.axis = .predicate) :
    (slot.fill i (.predicates (.found p))).shows w =
        (slot.fill i (.predicates (.found q))).shows w ↔
      p.traversal.argument = q.traversal.argument ∧ ∀ r, w.paths[i]? = some r →
        r.isFinalized = false →
          absorb r.followed p.followed = absorb r.followed q.followed := by
  obtain ⟨kind, other, r, c, rfl, hr, hc⟩ := exists_of_fits hfits haxis
  rw [shows_edge_found_eq_iff hr hc]
  refine and_congr_right fun _ ↦ ⟨?_, fun h ↦ h r hr⟩
  intro h r' hr'
  obtain rfl := Option.some.inj (hr.symm.trans hr')
  exact h

/-- Which of two paths finds predicates shows nowhere exactly if they are written alike and bring
the same morphisms along. -/
theorem forall_shows_found_eq_iff :
    (∀ (slot : Slot) i w, slot.Fits i w → slot.axis = .predicate →
      (slot.fill i (.predicates (.found p))).shows w =
        (slot.fill i (.predicates (.found q))).shows w) ↔
      p.traversal.argument = q.traversal.argument ∧
        p.followed.eraseDups = q.followed.eraseDups := by
  constructor
  · intro h
    -- a path that follows nothing shows all that is brought along
    have hfits : (predicates .out (.selector (.tags .any))).Fits 0 everywhere :=
      ⟨⟨_, rfl⟩, .any, rfl⟩
    obtain ⟨hargument, hfollowed⟩ := (shows_fill_found_eq_iff hfits rfl).1 (h _ _ _ hfits rfl)
    refine ⟨hargument, ?_⟩
    have hnew : absorb [] p.followed = absorb [] q.followed := hfollowed _ rfl rfl
    simpa [absorb_eq_append] using hnew
  · rintro ⟨hargument, hfollowed⟩ slot i w hfits haxis
    refine (shows_fill_found_eq_iff hfits haxis).2 ⟨hargument, fun r _ _ ↦ ?_⟩
    rw [absorb_eq_append, absorb_eq_append, hfollowed]

/-- Equal selectors, and when one can be put in the place of the other.  Two selectors are equal
exactly if they are the same or the predicates of both are found by paths.  In a slot that fits,
equal selectors come to the same exactly if they are written alike and, unless the path is
finalized, make it follow the same; and they come to the same in all slots exactly if they are
written alike and bring the same morphisms along in the same order. -/
theorem shows_fill_eq_iff (s t : Selector) :
    ((Value.selector s).compare (.selector t) = .ok true ↔
      s = t ∨ ∃ p q, s = .predicates (.found p) ∧ t = .predicates (.found q)) ∧
    ((Value.selector s).compare (.selector t) = .ok true →
      (∀ (slot : Slot) i w, slot.Fits i w → slot.axis = s.axis →
        ((slot.fill i s).shows w = (slot.fill i t).shows w ↔ s.text = t.text ∧
          ∀ r, w.paths[i]? = some r → r.isFinalized = false →
            absorb r.followed s.brought = absorb r.followed t.brought)) ∧
      ((∀ (slot : Slot) i w, slot.Fits i w → slot.axis = s.axis →
        (slot.fill i s).shows w = (slot.fill i t).shows w) ↔
          s.text = t.text ∧ s.brought.eraseDups = t.brought.eraseDups)) := by
  refine ⟨Selector.compare_eq_true_iff, fun h ↦ ?_⟩
  rcases Selector.compare_eq_true_iff.1 h with rfl | ⟨p, q, rfl, rfl⟩
  · refine ⟨fun slot i w _ _ ↦ ?_, ?_⟩
    · exact iff_of_true rfl ⟨rfl, fun _ _ _ ↦ rfl⟩
    · exact iff_of_true (fun _ _ _ _ _ ↦ rfl) ⟨rfl, rfl⟩
  · refine ⟨fun slot i w hfits haxis ↦ ?_, ?_⟩
    · exact shows_fill_found_eq_iff hfits haxis
    · exact forall_shows_found_eq_iff

/-- The predicates that are found by a path at the given vertices. -/
def foundAt (nodes : Choice) : Selector := .predicates (.found (.vertices nodes))

/-- What is found at a vertex is what is found at a list of that vertex alone, in all slots. -/
theorem shows_fill_of_oneVertex :
    foundAt (.one "a") ≠ foundAt (.many ["a"]) ∧
    (Value.selector (foundAt (.one "a"))).compare (.selector (foundAt (.many ["a"]))) = .ok true ∧
    ∀ (slot : Slot) i w, slot.Fits i w → slot.axis = .predicate →
      (slot.fill i (foundAt (.one "a"))).shows w =
        (slot.fill i (foundAt (.many ["a"]))).shows w := by
  have h := shows_fill_eq_iff (foundAt (.one "a")) (foundAt (.many ["a"]))
  have hequal := h.1.2 (.inr ⟨_, _, rfl, rfl⟩)
  exact ⟨by decide, hequal, (h.2 hequal).2.2 ⟨rfl, rfl⟩⟩

/-- What is found at one vertex is equal to what is found at another one, and written otherwise. -/
theorem not_forall_shows_eq : ¬ ∀ s t : Selector,
    (Value.selector s).compare (.selector t) = .ok true →
      ∀ (slot : Slot) i w, slot.Fits i w → slot.axis = s.axis →
        (slot.fill i s).shows w = (slot.fill i t).shows w := by
  intro h
  have hequal : (Value.selector (foundAt (.one "a"))).compare (.selector (foundAt (.one "b"))) =
      .ok true := Selector.compare_eq_true_iff.2 (.inr ⟨_, _, rfl, rfl⟩)
  have hargument := (forall_shows_found_eq_iff.1 (h _ _ hequal)).1
  exact absurd hargument (by decide)

end Slot

end GraphQuery
