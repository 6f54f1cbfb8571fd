import GraphQuery.Proofs.Heap.Growth
import GraphQuery.Proofs.Locality

/-!
# Calls look at views only

What a call comes to, and what it makes of the path that it is on, is settled by what is stored of
this path and of those that its arguments mention.  It makes no difference where the lists are, nor
what else there is, nor which of several like paths the call is on.

Two heaps `Agree` if some paths of the one are like paths of the other.  A call on a path of the one
and the same call on its counterpart then come to the same, and the heaps agree after it
(`Heap.matches_callPath`); each step of a call is told of separately.
-/

namespace GraphQuery

open Work

namespace Heap

variable {S : PathId → Prop} {r : PathId → PathId} {h u h' u' : Heap} {o n : PathId} {v : View}

/-! ## Heaps that agree -/

/-- Some paths are like their counterparts in another heap.  Paths that are not there yet are their
own counterparts. -/
structure Agree (S : PathId → Prop) (r : PathId → PathId) (h u : Heap) : Prop where
  sound : h.Sound
  sound' : u.Sound
  size : h.objects.size = u.objects.size
  views : ∀ i, S i → h.view? i = u.view? (r i)
  apart : ∀ i k, S i → S k → r i = r k → i = k
  later : ∀ i, h.objects.size ≤ i → r i = i

/-- A path that an argument may mention: it is its own counterpart. -/
def Fixed (S : PathId → Prop) (r : PathId → PathId) (i : PathId) : Prop := S i ∧ r i = i

namespace Agree

theorem of_silent (ha : Agree S r h u) (hh : h'.silent = h.silent) (hu : u'.silent = u.silent) :
    Agree S r h' u' where
  sound := sound_of_silent hh ha.sound
  sound' := sound_of_silent hu ha.sound'
  size := by rw [size_of_silent hh, size_of_silent hu, ha.size]
  views i hi := by rw [view?_of_silent hh, view?_of_silent hu, ha.views i hi]
  apart := ha.apart
  later i hi := ha.later i (size_of_silent hh ▸ hi)

/-- What is written for a path on the one side is written for its counterpart on the other. -/
theorem becomes (ha : Agree S r h u) (ho : S o) (hh : h.Becomes o v h')
    (hu : u.Becomes (r o) v u') : Agree S r h' u' where
  sound := hh.sound
  sound' := hu.sound
  size := hh.size.trans (ha.size.trans hu.size.symm)
  views i hi := by
    by_cases hio : i = o
    · rw [hio, hh.here, hu.here]
    · rw [hh.elsewhere i hio, hu.elsewhere _ fun heq ↦ hio (ha.apart i o hi ho heq), ha.views i hi]
  apart := ha.apart
  later i hi := ha.later i (hh.size ▸ hi)

/-- The counterpart of a path that is not the next one is not the next one either. -/
theorem ne_size (ha : Agree S r h u) {i : PathId} (hi : S i) (hne : i ≠ h.objects.size) :
    r i ≠ u.objects.size := by
  rcases Nat.lt_or_gt_of_ne hne with hlt | hgt
  · obtain ⟨w, hw⟩ := ha.sound.exists_view?_of_lt hlt
    exact Nat.ne_of_lt (lt_of_view? ((ha.views i hi).symm.trans hw))
  · rw [ha.later i (Nat.le_of_lt hgt), ← ha.size]
    exact hne

/-- What is made on both sides is its own counterpart. -/
theorem adding (ha : Agree S r h u) (v : View) : Agree S r (h.adding v) (u.adding v) where
  sound := ha.sound.adding v
  sound' := ha.sound'.adding v
  size := by rw [size_adding, size_adding, ha.size]
  views i hi := by
    by_cases hlast : i = h.objects.size
    · rw [hlast, ha.later _ (Nat.le_refl _), view?_adding_size, ha.size, view?_adding_size]
    · rw [view?_adding ha.sound v hlast, view?_adding ha.sound' v (ha.ne_size hi hlast),
        ha.views i hi]
  apart := ha.apart
  later i hi := ha.later i (by rw [size_adding] at hi; exact Nat.le_of_succ_le hi)

end Agree

/-! ## Steps -/

/-- Both sides look their objects up, and find the same fields. -/
theorem matches_object (ho : S o) : Matches (Agree S r)
    (fun x y ↦ x.finalized = y.finalized ∧ x.label = y.label) (object o) (object (r o)) := by
  intro h u ha
  have hviews := ha.views o ho
  cases hv : h.view? o with
  | none =>
      rw [on_object_of_none (ha.sound.objects_eq_none hv),
        on_object_of_none (ha.sound'.objects_eq_none (hviews.symm.trans hv))]
      exact ⟨.error _, ha⟩
  | some v =>
      obtain ⟨x, hx, hholds⟩ := view?_eq_some_iff.1 hv
      obtain ⟨y, hy, hholds'⟩ := view?_eq_some_iff.1 (hviews.symm.trans hv)
      rw [on_object_of_some hx, on_object_of_some hy]
      exact ⟨.ok ⟨hholds.finalized.trans hholds'.finalized.symm,
        hholds.label.trans hholds'.label.symm⟩, ha⟩

/-- What is read off the view of a path comes to the same on both sides. -/
theorem matches_of_view {α : Type} {x : PathId → Work Heap α} {f : View → Except Error α}
    (hsome : ∀ (h : Heap) o v, h.view? o = some v → (x o).on h = (f v, h))
    (hnone : ∀ (h : Heap) o, h.objects[o]? = none → (x o).on h = (.error .noObject, h)) (ho : S o) :
    Matches (Agree S r) Eq (x o) (x (r o)) := by
  intro h u ha
  have hviews := ha.views o ho
  cases hv : h.view? o with
  | none =>
      rw [hnone h o (ha.sound.objects_eq_none hv),
        hnone u (r o) (ha.sound'.objects_eq_none (hviews.symm.trans hv))]
      exact ⟨.error _, ha⟩
  | some v =>
      rw [hsome h o v hv, hsome u (r o) v (hviews.symm.trans hv)]
      cases f v with
      | ok a => exact ⟨.ok rfl, ha⟩
      | error e => exact ⟨.error e, ha⟩

theorem matches_segments (ho : S o) : Matches (Agree S r) Eq (segments o) (segments (r o)) := by
  refine matches_of_view (f := fun v ↦ .ok v.segments) (fun _ _ _ hv ↦ on_segments hv)
    (fun h o hx ↦ ?_) ho
  rw [segments, on_bind_of_error (on_object_of_none hx)]

theorem matches_follows (ho : S o) : Matches (Agree S r) Eq (follows o) (follows (r o)) := by
  refine matches_of_view (f := fun v ↦ .ok v.follows) (fun _ _ _ hv ↦ on_follows hv)
    (fun h o hx ↦ ?_) ho
  rw [follows, on_bind_of_error (on_object_of_none hx)]

theorem matches_compile (ho : S o) : Matches (Agree S r) Eq (compile o) (compile (r o)) := by
  refine matches_of_view (f := View.compile) (fun _ _ _ hv ↦ on_compile hv) (fun h o hx ↦ ?_) ho
  rw [compile, problems, bind_assoc, on_bind_of_error (on_object_of_none hx)]

/-- What is written for a path comes to the same on both sides. -/
theorem Writes.matches {f : View → View} {x y : Work Heap Unit} (hx : Writes o f x)
    (hy : Writes (r o) f y) (ho : S o) : Matches (Agree S r) Eq x y := by
  intro h u ha
  have hviews := ha.views o ho
  cases hv : h.view? o with
  | none =>
      rw [(hx h ha.sound).2 hv, (hy u ha.sound').2 (hviews.symm.trans hv)]
      exact ⟨.error _, ha⟩
  | some v =>
      obtain ⟨h', hh, hbecomes⟩ := (hx h ha.sound).1 v hv
      obtain ⟨u', hu, hbecomes'⟩ := (hy u ha.sound').1 v (hviews.symm.trans hv)
      rw [hh, hu]
      exact ⟨.ok rfl, ha.becomes ho hbecomes hbecomes'⟩

theorem matches_note (entry : LogEntry) : Matches (Agree S r) Eq (note entry) (note entry) :=
  fun _ _ ha ↦ ⟨.ok rfl, ha.of_silent rfl rfl⟩

theorem Agree.display_eq (ha : Agree S r h u) {v : Value} (hv : v.Within (Fixed S r)) :
    v.display h.displayPath = v.display u.displayPath := by
  refine Value.display_congr v fun i hi ↦ ?_
  obtain ⟨hi, hfixed⟩ := hv i hi
  rw [ha.sound.displayPath_eq, ha.sound'.displayPath_eq, ha.views i hi, hfixed]

/-- Adding a segment comes to the same on both sides. -/
theorem matches_add (ho : S o) (s : String) : Matches (Agree S r) Eq (add o s) (add (r o) s) := by
  refine (matches_object ho).bind fun x y hxy ↦ ?_
  have hwrite := (writes_addSegment o s).matches (writes_addSegment (r o) s) ho
  rw [hxy.1]
  cases y.finalized with
  | true => exact (Matches.throw _).bind_eq fun _ ↦ hwrite
  | false => exact hwrite

theorem matches_takeIn (ho : S o) (i : PathId) :
    Matches (Agree S r) Eq (takeIn o i) (takeIn (r o) i) :=
  (writes_takeIn o i).matches (writes_takeIn (r o) i) ho

theorem matches_absorb (ho : S o) (hn : Fixed S r n) :
    Matches (Agree S r) Eq (absorb o n) (absorb (r o) n) := by
  have hfollows : Matches (Agree S r) Eq (follows n) (follows n) := by
    have hmatches := matches_follows (r := r) hn.1
    rwa [hn.2] at hmatches
  have hrest (rounds position : Nat) : Matches (Agree S r) Eq (absorbFrom o n position rounds)
      (absorbFrom (r o) n position rounds) := by
    induction rounds generalizing position with
    | zero => exact .throw _
    | succ rounds ih =>
        refine hfollows.bind_eq fun l ↦ ?_
        cases l[position]? with
        | none => exact .pure rfl
        | some i => exact (matches_takeIn ho i).bind_eq fun _ ↦ ih _
  exact hfollows.bind_eq fun l ↦ hrest _ _

/-! ## Arguments -/

theorem Agree.nested?_eq (ha : Agree S r h u) (a : Value) : h.nested? a = u.nested? a := by
  unfold nested?
  rw [ha.size]

section Arguments

variable {a : Value} (hfixed : a.Within (Fixed S r))

include hfixed

theorem matches_display : Matches (Agree S r) Eq (display a) (display a) :=
  (Matches.expectNone _).bind_eq fun _ ↦ .get_bind fun _ _ ha ↦ .pure (ha.display_eq hfixed)

theorem matches_lacks {α : Type} {R : α → α → Prop} (operation : String) :
    Matches (Agree S r) R (lacks a operation) (lacks a operation) := by
  refine .get_bind fun h u ha ↦ ?_
  have hlacking : a.lacking h.title operation = a.lacking u.title operation := by
    refine Value.lacking_congr (fun i hi ↦ ?_) operation
    obtain ⟨hi, hri⟩ := hfixed i hi
    rw [ha.sound.title_eq, ha.sound'.title_eq, ha.views i hi, hri]
  rw [hlacking]
  exact .throw _

theorem matches_expectChoice (axis : Axis) :
    Matches (Agree S r) Eq (expectChoice axis a) (expectChoice axis a) :=
  (matches_display hfixed).bind_eq fun _ ↦ .ofOption _ _

theorem matches_expectPredicates :
    Matches (Agree S r) Eq (expectPredicates a) (expectPredicates a) := by
  unfold expectPredicates
  split
  · exact .pure rfl
  · exact .pure rfl
  · exact (matches_display hfixed).bind_eq fun _ ↦ .throw _

theorem matches_formatPredicates :
    Matches (Agree S r) Eq (formatPredicates a) (formatPredicates a) := by
  refine .get_bind fun h u ha ↦ ?_
  rw [ha.nested?_eq]
  cases hn : u.nested? a with
  | some n =>
      obtain ⟨rfl, -⟩ := lt_of_nested? hn
      obtain ⟨hS, hr⟩ := hfixed n (.foundBy .path)
      have hcompile := matches_compile (r := r) hS
      rw [hr] at hcompile
      refine hcompile.tryCatch fun e ↦ ?_
      cases e with
      | compilation _ => exact (matches_note _).bind_eq fun _ ↦ .pure rfl
      | _ => exact .throw _
  | none =>
      cases a with
      | foundBy query => exact matches_lacks (fun i hi ↦ hfixed i (.foundBy hi)) _
      | selector s =>
          cases s with
          | predicates p =>
              cases p with
              | named choice => exact .pure rfl
              | found p => exact .throw _
          | _ => exact .throw _
      | _ => exact .throw _

theorem matches_expectPath : Matches (Agree S r) (fun n n' ↦ n' = n ∧ Fixed S r n)
    (expectPath a) (expectPath a) := by
  unfold expectPath
  split
  · rename_i n
    have hn := hfixed n .path
    have hobject := matches_object (r := r) hn.1
    rw [hn.2] at hobject
    have hthere : Matches (Agree S r) Eq (discard (object n)) (discard (object n)) :=
      hobject.bind fun _ _ _ ↦ .pure rfl
    exact hthere.bind_eq fun _ ↦ .pure ⟨rfl, hn⟩
  · exact (matches_display hfixed).bind_eq fun _ ↦ .throw _

theorem matches_expectMorphism : Matches (Agree S r) (fun m m' ↦ m' = m ∧ Fixed S r m.1)
    (expectMorphism a) (expectMorphism a) := by
  unfold expectMorphism
  split
  · rename_i n
    have hn := hfixed n .path
    have hobject := matches_object (r := r) hn.1
    rw [hn.2] at hobject
    refine hobject.bind fun x y hxy ↦ ?_
    rw [hxy.2]
    cases y.label with
    | some label => exact .pure ⟨rfl, hn⟩
    | none => exact (matches_display hfixed).bind_eq fun _ ↦ .throw _
  · exact (matches_display hfixed).bind_eq fun _ ↦ .throw _

theorem matches_expectLimit : Matches (Agree S r) Eq (expectLimit a) (expectLimit a) := by
  unfold expectLimit
  split
  · refine (matches_display hfixed).bind_eq fun _ ↦ ?_
    split
    · exact .pure rfl
    · exact .throw _
  · exact (matches_display hfixed).bind_eq fun _ ↦ .throw _

theorem matches_expectName : Matches (Agree S r) Eq (expectName a) (expectName a) := by
  unfold expectName
  split
  · exact .ofResult _
  · exact (matches_display hfixed).bind_eq fun _ ↦ .throw _

end Arguments

theorem title_eq_of_label {x y : Object} (h : x.label = y.label) : x.title = y.title := by
  rw [Object.title, Object.title, h]

theorem matches_expectEnding (ho : S o) (operation : String) :
    Matches (Agree S r) Eq (expectEnding o operation) (expectEnding (r o) operation) := by
  refine (matches_object ho).bind fun x y hxy ↦ ?_
  rw [title_eq_of_label hxy.2, hxy.2]
  split
  · exact .throw _
  · exact .pure rfl

theorem matches_warnOfMorphism (label : Label) :
    Matches (Agree S r) Eq (warnOfMorphism label) (warnOfMorphism label) := by
  unfold warnOfMorphism
  split
  · exact matches_note _
  · exact .pure rfl

theorem matches_expectOne (ho : S o) (what : String) (isOne : Bool) {a : Value}
    (hfixed : a.Within (Fixed S r)) :
    Matches (Agree S r) Eq (expectOne o what isOne a) (expectOne (r o) what isOne a) := by
  unfold expectOne
  split
  · exact (matches_display hfixed).bind_eq fun _ ↦
      (writes_addProblem o _).matches (writes_addProblem (r o) _) ho
  · exact .pure rfl

/-! ## Calls -/

section

open Session (argument argumentOr anyOf anyPredicate buildOf? inspectionOf?)

variable {name : String} {args : List Value}

section

variable {P : Value → Prop} (hargs : ∀ a ∈ args, P a)

include hargs

/-- What holds of all arguments holds of each, also if it stands for one that is left out. -/
theorem argumentOr_of_forall {default : Value} (hdefault : P default) (position : Nat) :
    P (argumentOr args position default) := by
  rw [argumentOr]
  cases ha : args[position]? with
  | some a => exact hargs a (List.mem_of_getElem? ha)
  | none => exact hdefault

/-- A builder call has the arguments of the operation that makes it. -/
theorem forall_arguments_of_buildOf? (hnone : P .none) (hany : ∀ axis, P (anyOf axis))
    {call : Build} (h : buildOf? name args = some call) : ∀ a ∈ call.arguments, P a := by
  have hfirst : P (argument args 0) := argumentOr_of_forall hargs hnone 0
  unfold buildOf? at h
  simp only [Option.orElse_eq_orElse, Option.orElse_eq_or, Option.or_eq_some_iff,
    Option.map_eq_some_iff] at h
  rcases h with ⟨kind, -, rfl⟩ | ⟨-, ⟨kind, -, rfl⟩ | ⟨-, ⟨kind, -, rfl⟩ | ⟨-, ⟨direction, -, rfl⟩ |
    ⟨-, ⟨terminal, -, rfl⟩ | ⟨-, h⟩⟩⟩⟩⟩
  · refine List.forall_mem_cons.2 ⟨argumentOr_of_forall hargs (hany .predicate) 0, ?_⟩
    exact List.forall_mem_singleton.2 (argumentOr_of_forall hargs (hany _) 1)
  · exact List.forall_mem_singleton.2 (argumentOr_of_forall hargs (hany _) 0)
  · exact List.forall_mem_singleton.2 hfirst
  · exact List.forall_mem_singleton.2 hfirst
  · nofun
  · split at h <;> cases h
    exact List.forall_mem_singleton.2 hfirst

end

/-- Plain values and selectors mention no paths. -/
theorem within_plain (p : Plain) : (Value.plain p).Within S := nofun

theorem within_anyOf (axis : Axis) : (anyOf axis).Within S := by
  cases axis <;> nofun

theorem within_arguments_of_buildOf? (hargs : ∀ a ∈ args, a.Within S) {call : Build}
    (h : buildOf? name args = some call) : ∀ a ∈ call.arguments, a.Within S :=
  forall_arguments_of_buildOf? hargs (within_plain _) within_anyOf h

theorem within_of_inspectionOf? (hargs : ∀ a ∈ args, a.Within S) {a : Value}
    (h : inspectionOf? name args = some (.statementAs a)) : a.Within S := by
  unfold inspectionOf? at h
  split at h <;> cases h
  exact argumentOr_of_forall hargs (within_plain _) 0

end

theorem matches_edge (ho : S o) (word : String) {a : Value} (hfixed : a.Within (Fixed S r))
    (second : Choice) :
    Matches (Agree S r) Eq (edge o word a second) (edge (r o) word a second) := by
  refine (matches_expectPredicates hfixed).bind_eq fun _ ↦ ?_
  refine (matches_formatPredicates hfixed).bind_eq fun _ ↦ ?_
  refine (matches_add ho _).bind_eq fun _ ↦ .get_bind fun h u ha ↦ ?_
  rw [ha.nested?_eq]
  cases hn : u.nested? a with
  | none => exact .pure rfl
  | some n =>
      obtain ⟨rfl, -⟩ := lt_of_nested? hn
      exact matches_absorb ho (hfixed n (.foundBy .path))

theorem matches_finish (ho : S o) (s : String) :
    Matches (Agree S r) Eq (finish o s) (finish (r o) s) :=
  (matches_add ho s).bind_eq fun _ ↦ (writes_setFinalized o).matches (writes_setFinalized (r o)) ho

/-- A builder call comes to the same on both sides. -/
theorem matches_build (ho : S o) {call : Build}
    (hcall : ∀ a ∈ call.arguments, a.Within (Fixed S r)) :
    Matches (Agree S r) Eq (build o call) (build (r o) call) := by
  cases call with
  | edge kind predicates second =>
      obtain ⟨hpredicates, hsecond⟩ := List.forall_mem_cons.1 hcall
      have hsecond := List.forall_mem_singleton.1 hsecond
      refine (matches_expectChoice hsecond _).bind_eq fun names ↦ ?_
      refine (matches_edge ho _ hpredicates _).bind_eq fun _ ↦ ?_
      split
      · exact (matches_expectOne ho _ _ hpredicates).bind_eq fun _ ↦
          matches_expectOne ho _ _ hsecond
      · exact .pure rfl
  | mark kind names =>
      exact (matches_expectChoice (List.forall_mem_singleton.1 hcall) _).bind_eq fun _ ↦
        matches_add ho _
  | join kind other =>
      refine (matches_expectPath (List.forall_mem_singleton.1 hcall)).bind fun n n' hn ↦ ?_
      obtain ⟨rfl, hn⟩ := hn
      have hcompile := matches_compile (r := r) hn.1
      rw [hn.2] at hcompile
      exact hcompile.bind_eq fun _ ↦ (matches_add ho _).bind_eq fun _ ↦ matches_absorb ho hn
  | follow direction morphism =>
      refine (matches_expectMorphism (List.forall_mem_singleton.1 hcall)).bind fun m m' hm ↦ ?_
      obtain ⟨rfl, hm⟩ := hm
      exact (matches_warnOfMorphism _).bind_eq fun _ ↦ (matches_add ho _).bind_eq fun _ ↦
        (matches_takeIn ho _).bind_eq fun _ ↦ matches_absorb ho hm
  | finish terminal =>
      exact (matches_expectEnding ho _).bind_eq fun _ ↦ matches_finish ho _
  | limit count =>
      exact (matches_expectEnding ho _).bind_eq fun _ ↦
        (matches_expectLimit (List.forall_mem_singleton.1 hcall)).bind_eq fun _ ↦
          matches_finish ho _

theorem matches_copy (ho : S o) : Matches (Agree S r) Eq (copy o) (copy (r o)) := by
  intro h u ha
  have hviews := ha.views o ho
  cases hv : h.view? o with
  | none =>
      rw [copy, copy, on_bind_of_error (on_object_of_none (ha.sound.objects_eq_none hv)),
        on_bind_of_error (on_object_of_none (ha.sound'.objects_eq_none (hviews.symm.trans hv)))]
      exact ⟨.error _, ha⟩
  | some v =>
      rw [on_copy ha.sound hv, on_copy ha.sound' (hviews.symm.trans hv)]
      exact ⟨.ok ha.size, ha.adding v⟩

theorem matches_newPath (root : String) (label : Option Label) :
    Matches (Agree S r) Eq (newPath root label) (newPath root label) := by
  intro h u ha
  rw [on_newPath, on_newPath]
  exact ⟨.ok ha.size, ha.adding _⟩

theorem matches_expectLabel (ho : S o) (operation : String) :
    Matches (Agree S r) Eq (expectLabel o operation) (expectLabel (r o) operation) := by
  refine (matches_object ho).bind fun x y hxy ↦ ?_
  rw [title_eq_of_label hxy.2, hxy.2]
  exact .ofOption _ _

theorem matches_statementAs (ho : S o) (label : Label) {a : Value}
    (hfixed : a.Within (Fixed S r)) :
    Matches (Agree S r) Eq (statementAs o label a) (statementAs (r o) label a) := by
  refine (matches_expectName hfixed).bind_eq fun name ↦ ?_
  refine Matches.tryCatch ((matches_compile ho).bind_eq fun _ ↦ .pure rfl) fun e ↦ ?_
  cases e <;> exact .throw _

/-- A question is answered alike on both sides. -/
theorem matches_answer (ho : S o) {question : Inspection}
    (hquestion : ∀ a, question = .statementAs a → a.Within (Fixed S r)) :
    Matches (Agree S r) Eq (answer o question) (answer (r o) question) := by
  cases question with
  | compile => exact (matches_compile ho).bind_eq fun _ ↦ .pure rfl
  | segments => exact (matches_segments ho).bind_eq fun _ ↦ .pure rfl
  | display =>
      have hthere : Matches (Agree S r) Eq (discard (object o)) (discard (object (r o))) :=
        (matches_object ho).bind fun _ _ _ ↦ .pure rfl
      refine hthere.bind_eq fun _ ↦ .get_bind fun h u ha ↦ .pure ?_
      rw [ha.sound.displayPath_eq, ha.sound'.displayPath_eq, ha.views o ho]
  | isFinalized =>
      refine (matches_object ho).bind fun x y hxy ↦ .pure ?_
      rw [hxy.1]
  | followed => exact (matches_follows ho).bind_eq fun _ ↦ .pure rfl
  | name => exact (matches_expectLabel ho _).bind_eq fun _ ↦ .pure rfl
  | isSaved => exact (matches_expectLabel ho _).bind_eq fun _ ↦ .pure rfl
  | statement =>
      refine (matches_expectLabel ho _).bind_eq fun label ↦ ?_
      exact (matches_statementAs ho label (within_plain _)).bind_eq fun _ ↦ .pure rfl
  | statementAs target =>
      refine (matches_expectLabel ho _).bind_eq fun label ↦ ?_
      exact (matches_statementAs ho label (hquestion target rfl)).bind_eq fun _ ↦ .pure rfl

/-- A path has no operation that its counterpart does not have. -/
theorem matches_lacks_path {α : Type} {R : α → α → Prop} (ho : S o) (name : String) :
    Matches (Agree S r) R (lacks (.path o) name) (lacks (.path (r o)) name) := by
  refine .get_bind fun h u ha ↦ ?_
  have htitle : h.title o = u.title (r o) := by
    rw [ha.sound.title_eq, ha.sound'.title_eq, ha.views o ho]
  change Matches (Agree S r) R (throw (.noAttribute (h.title o) name))
    (throw (.noAttribute (u.title (r o)) name))
  rw [htitle]
  exact .throw _

theorem matches_expectOperation (ho : S o) (name : String) (args : List Value) :
    Matches (Agree S r) Eq (expectOperation o name args) (expectOperation (r o) name args) := by
  refine (matches_object ho).bind fun x y hxy ↦ ?_
  rw [hxy.2]
  split
  · rename_i family signature _
    cases family.admits y.label with
    | true => exact .expectArguments _ _
    | false =>
        have hlacks : Matches (Agree S r) Eq (lacks (.path o) name : Work Heap Unit)
            (lacks (.path (r o)) name) := matches_lacks_path ho name
        exact hlacks.bind_eq fun _ ↦ .expectArguments _ _
  · exact .pure rfl

/-- What is handed out on both sides is the same, or it is a path and its counterpart. -/
inductive Handed (r : PathId → PathId) : Value → Value → Prop
  | same {a : Value} : Handed r a a
  | path {o : PathId} : Handed r (.path o) (.path (r o))

/-- What is handed out is the same if every path is its own counterpart. -/
theorem Handed.eq {a b : Value} (h : Handed id a b) : a = b := by
  cases h <;> rfl

/-- An operation that is called on a path and on its counterpart comes to the same, and the heaps go
on agreeing. -/
theorem matches_callPath (ho : S o) (name : String) {args : List Value}
    (hargs : ∀ a ∈ args, a.Within (Fixed S r)) :
    Matches (Agree S r) (Handed r) (callPath o name args) (callPath (r o) name args) := by
  unfold callPath
  refine (matches_expectOperation ho name args).bind_eq fun _ ↦ ?_
  split
  · rename_i call hcall
    exact (matches_build ho (within_arguments_of_buildOf? hargs hcall)).bind_eq fun _ ↦ .pure .path
  · rename_i question _ hquestion
    have hanswer : Matches (Agree S r) Eq (answer o question) (answer (r o) question) := by
      refine matches_answer ho ?_
      rintro a rfl
      exact within_of_inspectionOf? hargs hquestion
    exact hanswer.mono fun _ _ hab ↦ hab ▸ .same
  · exact (matches_copy ho).bind_eq fun _ ↦ .pure .same
  · have hlabel : Matches (Agree S r) Eq (discard (expectLabel o "mark_saved"))
        (discard (expectLabel (r o) "mark_saved")) :=
      (matches_expectLabel ho _).bind_eq fun _ ↦ .pure rfl
    exact hlabel.bind_eq fun _ ↦
      ((writes_markSaved o).matches (writes_markSaved (r o)) ho).bind_eq fun _ ↦ .pure .same
  · exact matches_lacks_path ho _

end Heap

end GraphQuery
