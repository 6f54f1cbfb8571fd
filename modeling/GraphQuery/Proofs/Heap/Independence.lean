import Mathlib.Data.List.Forall2
import GraphQuery.Proofs.Heap.Likeness
import GraphQuery.Proofs.Heap.Snapshot

/-!
# Copies and snapshots change on their own

A family of paths is left alone if no call on another path mentions a member; copies of members are
members.  Whatever is done to the members can then be left out of a run, and it makes no difference
to all other paths, nor to what the calls on them come to (`Heap.Agree.leaveOut`, by induction on
the moves, with two heaps that agree on all paths outside of the family).  A path and its copy are
in two such families as long as nothing that is done to the one mentions the other.

The same induction tells what comes of the calls on the copy if they are made on the original
instead: the copy is then the counterpart of the original.

A snapshot inside a selector is a path that no call is on, so it stays as it was, and whatever uses
the selector uses the path as it was when the selector was made.
-/

namespace GraphQuery

open Work

namespace Heap

/-! ## Runs -/

/-- A move and the heap that it is made on. -/
structure Event where
  before : Heap
  move : Move

/-- What a move comes to. -/
def Event.outcome (e : Event) : Except Error Value := (e.move.run e.before).1

namespace Move

/-- Moves that are made one after the other. -/
def history : List Move → Heap → List Event
  | [], _ => []
  | m :: ms, h => ⟨h, m⟩ :: history ms (m.run h).2

theorem move_mem_of_mem_history {ms : List Move} {h : Heap} {e : Event}
    (he : e ∈ history ms h) : e.move ∈ ms := by
  induction ms generalizing h with
  | nil => cases he
  | cons m ms ih =>
      rcases List.mem_cons.1 he with rfl | he
      · exact List.mem_cons_self
      · exact List.mem_cons_of_mem _ (ih he)

/-- The path that a call is on. -/
def target? : Move → Option PathId
  | call o _ _ => some o
  | _ => none

/-- What is passed along. -/
def arguments : Move → List Value
  | startVertices nodes => [nodes]
  | startMorphism name => [name]
  | call _ _ args => args

/-- A path is mentioned in an argument. -/
def Mentions (m : Move) (i : PathId) : Prop := ∃ a ∈ m.arguments, a.Mentions i

variable (C : PathId → Bool)

/-- Whether a call is on a path of a family. -/
def isOn (m : Move) : Bool := m.target?.any C

/-- Whether a call on a path of a family may change the path.  A copy is made of it as it is. -/
def acts : Move → Bool
  | call o name _ => C o && name != "copy"
  | _ => false

/-- Moves without the calls that may change paths of a family. -/
def leaveOut (ms : List Move) : List Move := ms.filter fun m ↦ !m.acts C

/-- What the other moves come to. -/
def otherOutcomes (ms : List Move) (h : Heap) : List (Except Error Value) :=
  ((history ms h).filter fun e ↦ !e.move.acts C).map Event.outcome

/-- A call on a path becomes a call on its counterpart. -/
def redirect (r : PathId → PathId) : Move → Move
  | call o name args => call (r o) name args
  | m => m

/-- A family of paths is closed under copying, and it is left alone: a call on any other path
mentions no member. -/
structure LeavesAlone (C : PathId → Bool) (ms : List Move) (h : Heap) : Prop where
  copies : ∀ e ∈ history ms h, ∀ o args n, e.move = .call o "copy" args → C o = true →
    e.outcome = .ok (.path n) → C n = true
  mentions : ∀ m ∈ ms, m.isOn C = false → ∀ i, m.Mentions i → C i = false

end Move

/-- A call on a member that cannot change it makes a copy. -/
theorem Move.exists_copy_of_isOn {C : PathId → Bool} {m : Move} (hon : m.isOn C = true)
    (hacts : m.acts C = false) : ∃ o args, m = .call o "copy" args ∧ C o = true := by
  cases m with
  | startVertices nodes => cases hon
  | startMorphism name => cases hon
  | call o name args =>
      have ho : C o = true := hon
      rw [acts, ho, Bool.true_and, bne_eq_false_iff_eq] at hacts
      exact ⟨o, args, by rw [hacts], ho⟩

variable {S : PathId → Prop} {r : PathId → PathId} {C : PathId → Bool} {h h' u : Heap} {m : Move}
  {ms : List Move} {o : PathId} {v : View}

/-! ## What is done to a family -/

namespace Agree

/-- What is written for a path outside makes no difference. -/
theorem becomes_outside (ha : Agree S r h u) (ho : ¬S o) (hh : h.Becomes o v h') :
    Agree S r h' u where
  sound := hh.sound
  sound' := ha.sound'
  size := hh.size.trans ha.size
  views i hi := by
    rw [hh.elsewhere i fun heq ↦ ho (heq ▸ hi), ha.views i hi]
  apart := ha.apart
  later i hi := ha.later i (hh.size ▸ hi)

/-- What is made outside may be unlike its counterpart. -/
theorem adding_outside (ha : Agree S r h u) (hn : ¬S h.objects.size) (v w : View) :
    Agree S r (h.adding v) (u.adding w) where
  sound := ha.sound.adding v
  sound' := ha.sound'.adding w
  size := by rw [size_adding, size_adding, ha.size]
  views i hi := by
    have hne : i ≠ h.objects.size := fun heq ↦ hn (heq ▸ hi)
    rw [view?_adding ha.sound v hne, view?_adding ha.sound' w (ha.ne_size hi hne), ha.views i hi]
  apart := ha.apart
  later i hi := ha.later i (by rw [size_adding] at hi; exact Nat.le_of_succ_le hi)

/-- A call that may change a member changes nothing outside of the family. -/
theorem of_acts (ha : Agree (fun i ↦ C i = false) r h u) (hm : m.acts C = true) :
    Agree (fun i ↦ C i = false) r (m.run h).2 u := by
  cases m with
  | startVertices nodes => cases hm
  | startMorphism name => cases hm
  | call o name args =>
      obtain ⟨ho, hcopy⟩ := Bool.and_eq_true_iff.1 hm
      have houtside : ¬C o = false := by simp [ho]
      have heffect := effect_run ha.sound (.call o name args)
      generalize (Move.call o name args).run h = x at heffect
      cases heffect with
      | failed hsilent => exact ha.of_silent hsilent rfl
      | built _ hsilent _ hbecomes _ =>
          exact (ha.of_silent hsilent rfl).becomes_outside houtside hbecomes
      | asked _ => exact ha
      | copied _ => simp at hcopy
      | marked _ _ hbecomes => exact ha.becomes_outside houtside hbecomes

end Agree

/-- Making a copy of something fails only if it is not there or too much is passed along. -/
theorem callPath_copy (o : PathId) (args : List Value) : callPath o "copy" args = (do
    let _ ← object o
    expectArguments (Session.Family.path.signature "copy" [] []).2 args
    return .path (← copy o)) :=
  bind_assoc (object o)
    (fun _ ↦ expectArguments (Session.Family.path.signature "copy" [] []).2 args)
    fun _ ↦ copy o >>= fun n ↦ pure (Value.path n)

theorem on_callPath_copy (hs : h.Sound) (hv : h.view? o = some v) :
    (callPath o "copy" []).on h = (.ok (.path h.objects.size), h.adding v) := by
  obtain ⟨x, hx, -⟩ := view?_eq_some_iff.1 hv
  rw [callPath_copy, on_bind_of_ok (on_object_of_some hx)]
  exact on_bind_of_ok (on_copy hs hv) _

namespace Agree

/-- Copies of a member are members, so they may be unlike each other. -/
theorem copy_outside (ha : Agree S r h u) (o : PathId) (args : List Value)
    (hn : ∀ n, ((callPath o "copy" args).on h).1 = .ok (.path n) → ¬S n) :
    ((callPath o "copy" args).on h).1 = ((callPath o "copy" args).on u).1 ∧
      Agree S r ((callPath o "copy" args).on h).2 ((callPath o "copy" args).on u).2 := by
  rw [callPath_copy] at hn ⊢
  cases hv : h.view? o with
  | none =>
      have hv' : u.view? o = none := by
        refine view?_eq_none (ha.size ▸ Nat.le_of_not_lt fun ho ↦ ?_)
        obtain ⟨v, hv'⟩ := ha.sound.exists_view?_of_lt ho
        rw [hv] at hv'
        cases hv'
      rw [on_bind_of_error (on_object_of_none (ha.sound.objects_eq_none hv)),
        on_bind_of_error (on_object_of_none (ha.sound'.objects_eq_none hv'))]
      exact ⟨rfl, ha⟩
  | some v =>
      obtain ⟨w, hw⟩ := ha.sound'.exists_view?_of_lt (ha.size ▸ lt_of_view? hv)
      obtain ⟨x, hx, -⟩ := view?_eq_some_iff.1 hv
      obtain ⟨y, hy, -⟩ := view?_eq_some_iff.1 hw
      rw [on_bind_of_ok (on_object_of_some hx)] at hn ⊢
      rw [on_bind_of_ok (on_object_of_some hy)]
      rw [expectArguments, expectNone] at hn ⊢
      generalize (Session.Family.path.signature "copy" [] []).2.fault? args.length [] = fault
        at hn ⊢
      cases fault with
      | some f => exact ⟨rfl, ha⟩
      | none =>
          have hcopied := on_bind_of_ok (on_copy ha.sound hv) fun n ↦ pure (Value.path n)
          have hcopied' := on_bind_of_ok (on_copy ha.sound' hw) fun n ↦ pure (Value.path n)
          have hnew := hn h.objects.size (congrArg Prod.fst hcopied)
          change ((copy o >>= fun n ↦ pure (Value.path n)).on h).1 =
            ((copy o >>= fun n ↦ pure (Value.path n)).on u).1 ∧
              Agree S r ((copy o >>= fun n ↦ pure (Value.path n)).on h).2
                ((copy o >>= fun n ↦ pure (Value.path n)).on u).2
          rw [hcopied, hcopied']
          exact ⟨congrArg (fun n ↦ Except.ok (Value.path n)) ha.size, ha.adding_outside hnew v w⟩

/-- Any other move comes to the same on both sides. -/
theorem of_not_acts (ha : Agree S r h u) {m : Move} (hm : ∀ o, m.target? = some o → S o)
    (hfixed : ∀ i, m.Mentions i → Fixed S r i) :
    Ends (Handed r) (m.run h).1 ((m.redirect r).run u).1 ∧
      Agree S r (m.run h).2 ((m.redirect r).run u).2 := by
  have hargs : ∀ a ∈ m.arguments, a.Within (Fixed S r) := fun a ha i hi ↦ hfixed i ⟨a, ha, hi⟩
  cases m with
  | startVertices nodes =>
      have hnodes := hargs nodes List.mem_cons_self
      refine Matches.bind_eq (P := Handed r) ?_ (fun _ ↦ .pure .same) h u ha
      exact (matches_expectChoice hnodes _).bind_eq fun _ ↦ matches_newPath _ _
  | startMorphism name =>
      have hname := hargs name List.mem_cons_self
      refine Matches.bind_eq (P := Handed r) ?_ (fun _ ↦ .pure .same) h u ha
      exact (matches_expectName hname).bind_eq fun _ ↦ matches_newPath _ _
  | call o name args => exact matches_callPath (hm o rfl) name hargs h u ha

/-- What may change members of a family that is left alone can be left out.  All other moves come to
the same, and so do all other paths, even with calls on their counterparts. -/
theorem leaveOut (hr : ∀ i, C i = true → r i = i) {ms : List Move}
    (ha : Agree (fun i ↦ C i = false) r h u) (hC : Move.LeavesAlone C ms h)
    (hfixed : ∀ m ∈ ms, m.isOn C = false → ∀ i, m.Mentions i → r i = i) :
    List.Forall₂ (Ends (Handed r)) (Move.otherOutcomes C ms h)
        (Move.runAll ((Move.leaveOut C ms).map (Move.redirect r)) u).1 ∧
      Agree (fun i ↦ C i = false) r (Move.runAll ms h).2
        (Move.runAll ((Move.leaveOut C ms).map (Move.redirect r)) u).2 := by
  induction ms generalizing h u with
  | nil => exact ⟨.nil, ha⟩
  | cons m ms ih =>
      have hrest : Move.LeavesAlone C ms (m.run h).2 :=
        ⟨fun e he ↦ hC.copies e (List.mem_cons_of_mem _ he),
          fun d hd ↦ hC.mentions d (List.mem_cons_of_mem _ hd)⟩
      have hfixed' : ∀ m ∈ ms, m.isOn C = false → ∀ i, m.Mentions i → r i = i :=
        fun d hd ↦ hfixed d (List.mem_cons_of_mem _ hd)
      cases hacts : m.acts C with
      | true =>
          have hstep := ih (ha.of_acts hacts) hrest hfixed'
          have hleave : Move.leaveOut C (m :: ms) = Move.leaveOut C ms := by
            simp [Move.leaveOut, hacts]
          have hothers : Move.otherOutcomes C (m :: ms) h =
              Move.otherOutcomes C ms (m.run h).2 := by
            simp [Move.otherOutcomes, Move.history, hacts]
          rw [hleave, hothers]
          exact hstep
      | false =>
          have hstep : Ends (Handed r) (m.run h).1 ((m.redirect r).run u).1 ∧
              Agree (fun i ↦ C i = false) r (m.run h).2 ((m.redirect r).run u).2 := by
            cases hon : m.isOn C with
            | false =>
                refine ha.of_not_acts (fun o ho ↦ ?_) fun i hi ↦ ⟨?_, ?_⟩
                · simpa [Move.isOn, ho] using hon
                · exact hC.mentions m List.mem_cons_self hon i hi
                · exact hfixed m List.mem_cons_self hon i hi
            | true =>
                obtain ⟨o, args, rfl, ho⟩ := Move.exists_copy_of_isOn hon hacts
                rw [Move.redirect, hr o ho]
                obtain ⟨houtcome, hafter⟩ := ha.copy_outside o args fun n hn ↦ by
                  simp [hC.copies ⟨h, _⟩ List.mem_cons_self o args n rfl ho hn]
                refine ⟨?_, hafter⟩
                change Ends (Handed r) ((callPath o "copy" args).on h).1
                  ((callPath o "copy" args).on u).1
                rw [houtcome]
                exact .of_eq fun _ ↦ .same
          have hleave : (Move.leaveOut C (m :: ms)).map (Move.redirect r) =
              m.redirect r :: (Move.leaveOut C ms).map (Move.redirect r) := by
            simp [Move.leaveOut, hacts]
          have hothers : Move.otherOutcomes C (m :: ms) h =
              (m.run h).1 :: Move.otherOutcomes C ms (m.run h).2 := by
            simp [Move.otherOutcomes, Move.history, hacts, Event.outcome]
          obtain ⟨houtcomes, hafter⟩ := ih hstep.2 hrest hfixed'
          rw [hleave, hothers]
          exact ⟨.cons hstep.1 houtcomes, hafter⟩

end Agree

/-! ## Copies -/

theorem Agree.refl (hs : h.Sound) : Agree S id h h :=
  ⟨hs, hs, rfl, fun _ _ ↦ rfl, fun _ _ _ _ heq ↦ heq, fun _ _ ↦ rfl⟩

theorem Move.redirect_id (m : Move) : m.redirect id = m := by
  cases m <;> rfl

/-- What is left of a run without the calls that may change members of a family. -/
theorem eq_leaveOut (hs : h.Sound) (hC : Move.LeavesAlone C ms h) :
    (∀ i, C i = false →
      (Move.runAll ms h).2.view? i = (Move.runAll (Move.leaveOut C ms) h).2.view? i) ∧
    Move.otherOutcomes C ms h = (Move.runAll (Move.leaveOut C ms) h).1 := by
  have hmoves : (Move.leaveOut C ms).map (Move.redirect id) = Move.leaveOut C ms := by
    rw [funext Move.redirect_id, List.map_id']
  obtain ⟨houtcomes, hafter⟩ :=
    Agree.leaveOut (r := id) (fun _ _ ↦ rfl) (.refl hs) hC fun _ _ _ _ _ ↦ rfl
  rw [hmoves] at houtcomes hafter
  refine ⟨hafter.views, ?_⟩
  rw [← List.forall₂_eq_eq_eq]
  refine houtcomes.imp fun a b hab ↦ ?_
  cases hab with
  | ok hab => rw [hab.eq]
  | error e => rfl

/-- A path stands for another one, and all others stand for themselves. -/
def inPlaceOf (c p i : PathId) : PathId := if i = c then p else i

/-- A copy that was just made is like the original. -/
theorem Agree.of_copy {P : PathId → Bool} {p : PathId} (hs : h.Sound) (hv : h.view? p = some v)
    (hp : P p = true) : Agree (fun i ↦ P i = false) (inPlaceOf h.objects.size p) (h.adding v)
      (h.adding v) where
  sound := hs.adding v
  sound' := hs.adding v
  size := rfl
  views i hi := by
    rw [inPlaceOf]
    split
    · rename_i heq
      rw [heq, view?_adding_size, view?_adding hs v (Nat.ne_of_lt (lt_of_view? hv)), hv]
    · rfl
  apart i k hi hk heq := by
    have hne {l : PathId} (hl : P l = false) : l ≠ p := fun h ↦ by simp [h, hp] at hl
    unfold inPlaceOf at heq
    split at heq <;> split at heq
    · simp only [*]
    · exact absurd heq.symm (hne hk)
    · exact absurd heq (hne hi)
    · exact heq
  later i hi := by
    rw [size_adding] at hi
    exact if_neg (Nat.ne_of_gt hi)

/-- What is left of a run without the calls on a path can be made on the path instead of its
copy. -/
theorem leaveOut_inPlaceOf {P : PathId → Bool} {p : PathId} (hs : h.Sound)
    (hv : h.view? p = some v) (hp : P p = true) (hc : P h.objects.size = false)
    (hP : Move.LeavesAlone P ms (h.adding v))
    (hmentions : ∀ m ∈ ms, m.isOn P = false → ¬m.Mentions h.objects.size) :
    let r := inPlaceOf h.objects.size p
    let direct := Move.runAll ((Move.leaveOut P ms).map (Move.redirect r)) (h.adding v)
    (Move.runAll ms (h.adding v)).2.view? h.objects.size = direct.2.view? p ∧
      List.Forall₂ (Ends (Handed r)) (Move.otherOutcomes P ms (h.adding v)) direct.1 := by
  have hself (i : PathId) (hi : i ≠ h.objects.size) : inPlaceOf h.objects.size p i = i := if_neg hi
  obtain ⟨houtcomes, hafter⟩ := (Agree.of_copy hs hv hp).leaveOut
    (fun i hi ↦ hself i fun heq ↦ by simp [heq, hc] at hi) hP
    fun m hm hon i hi ↦ hself i fun heq ↦ hmentions m hm hon (heq ▸ hi)
  refine ⟨(hafter.views _ hc).trans ?_, houtcomes⟩
  rw [inPlaceOf, if_pos rfl]

/-! ## Snapshots -/

theorem Effect.view?_of_ne {i : PathId} {r : Except Error Value × Heap} (hs : h.Sound)
    (he : Effect h m r) (hi : i < h.objects.size) (hm : m.target? ≠ some i) :
    r.2.view? i = h.view? i := by
  have hne {o : PathId} {name : String} {args : List Value} (h : m = .call o name args) : i ≠ o :=
    fun heq ↦ hm (by rw [h, heq]; rfl)
  cases he with
  | failed hsilent => exact congrFun (view?_of_silent hsilent) i
  | vertices _ => exact view?_adding hs _ (Nat.ne_of_lt hi)
  | morphism _ => exact view?_adding hs _ (Nat.ne_of_lt hi)
  | built _ hsilent _ hbecomes _ =>
      exact (hbecomes.elsewhere i (hne rfl)).trans (congrFun (view?_of_silent hsilent) i)
  | asked _ => rfl
  | copied _ => exact view?_adding hs _ (Nat.ne_of_lt hi)
  | marked _ _ hbecomes => exact hbecomes.elsewhere i (hne rfl)

/-- A path that no call is on stays as it is. -/
theorem view?_runAll {i : PathId} (hs : h.Sound) (hv : h.view? i = some v)
    (hms : ∀ m ∈ ms, m.target? ≠ some i) : (Move.runAll ms h).2.view? i = some v := by
  induction ms generalizing h with
  | nil => exact hv
  | cons m ms ih =>
      have heffect := effect_run hs m
      have hstep := heffect.view?_of_ne hs (lt_of_view? hv) (hms m List.mem_cons_self)
      exact ih (heffect.sound hs) (hstep.trans hv) fun d hd ↦ hms d (List.mem_cons_of_mem _ hd)

open Session (edgeOf? argumentOr anyOf)

/-- Calls along edges take up to two arguments. -/
theorem exists_signature_of_edgeOf? {name : String} {args : List Value} {kind : Edge}
    (hname : edgeOf? name = some kind) (hargs : args.length ≤ 2) :
    ∃ signature, Session.pathSignature? name = some (.path, signature) ∧
      signature.fault? args.length [] = none := by
  have hcount : args.length = 0 ∨ args.length = 1 ∨ args.length = 2 := by omega
  unfold edgeOf? at hname
  split at hname <;> cases hname <;>
    refine ⟨_, rfl, ?_⟩ <;>
    rcases hcount with hcount | hcount | hcount <;>
    rw [hcount] <;> rfl

/-- No path lacks the operations along edges. -/
theorem on_expectOperation_edge (hv : h.view? o = some v) {name : String} {args : List Value}
    {kind : Edge} (hname : edgeOf? name = some kind) (hargs : args.length ≤ 2) :
    (expectOperation o name args).on h = (.ok (), h) := by
  obtain ⟨x, hx, -⟩ := view?_eq_some_iff.1 hv
  obtain ⟨signature, hsignature, hfault⟩ := exists_signature_of_edgeOf? hname hargs
  rw [expectOperation, on_bind_of_ok (on_object_of_some hx), hsignature]
  simp only [Session.Family.admits]
  rw [expectArguments, hfault]
  rfl

/-- Going along edges that a path finds, by name. -/
theorem on_callPath_found {n : PathId} {u : View} {name : String} {kind : Edge}
    {args : List Value} {names : Choice} (hs : h.Sound) (hu : h.view? o = some u)
    (hopen : u.finalized = false) (hv : h.view? n = some v) (hne : n ≠ o)
    (hname : edgeOf? name = some kind) (hargs : args.length ≤ 2)
    (hfound : args[0]? = some (.foundBy (.path n)))
    (hnames : (argumentOr args 1 (anyOf kind.secondAxis)).choice? kind.secondAxis = some names) :
    ((callPath o name args).on h).1 = .ok (.path o) ∧
      ((callPath o name args).on h).2.view? o = some (u.alongFound v kind names) := by
  have hbuild : Session.buildOf? name args =
      some (.edge kind (.foundBy (.path n)) (argumentOr args 1 (anyOf kind.secondAxis))) := by
    rw [Session.buildOf?, hname]
    simp [argumentOr, hfound]
  obtain ⟨h', hbuilt, hbecomes⟩ := on_build_found hs hu hopen hv hne hnames
  have hcall : (callPath o name args).on h = (.ok (.path o), h') := by
    unfold callPath
    rw [on_bind_of_ok (on_expectOperation_edge hu hname hargs), hbuild]
    exact on_bind_of_ok hbuilt _
  rw [hcall]
  exact ⟨rfl, hbecomes.here⟩

/-! ## Independence -/

/-- For every path `p` that calls made, and a copy `c` of it:

* a call on one path changes no other path;
* for any later calls, and any family of paths that is left alone by the calls on other paths, these
  calls come to the same if what is done to the family is left out, and all other paths are the same
  then;  this holds for `p` and its copies as well as for `c` and its copies;
* with nothing done to `p` the copy becomes what `p` would if all was done to `p` instead, and each
  call comes to the same;
* if `c` is inside a selector, whatever path goes along the edges that the selector finds gets what
  `p` stood for when the copy was made, whatever was done in between. -/
theorem independent_of_view? (ms₀ : List Move) {p : PathId} {v : View}
    (hv : (Move.runAll ms₀ .empty).2.view? p = some v) :
    let h := (Move.runAll ms₀ .empty).2
    let c := h.objects.size
    let h₁ := ((callPath p "copy" []).on h).2
    (∀ o name args i, i ≠ o → i < h.objects.size →
      ((callPath o name args).on h).2.view? i = h.view? i) ∧
    ((callPath p "copy" []).on h).1 = .ok (.path c) ∧ h₁.view? c = some v ∧
    (∀ ms C, Move.LeavesAlone C ms h₁ →
      let alone := Move.runAll (Move.leaveOut C ms) h₁
      (∀ i, C i = false → (Move.runAll ms h₁).2.view? i = alone.2.view? i) ∧
        Move.otherOutcomes C ms h₁ = alone.1) ∧
    (∀ ms P, P p = true → P c = false → Move.LeavesAlone P ms h₁ →
      (∀ m ∈ ms, m.isOn P = false → ¬m.Mentions c) →
      let direct := Move.runAll ((Move.leaveOut P ms).map (Move.redirect (inPlaceOf c p))) h₁
      (Move.runAll ms h₁).2.view? c = direct.2.view? p ∧
        List.Forall₂ (Ends (Handed (inPlaceOf c p))) (Move.otherOutcomes P ms h₁) direct.1) ∧
    ∀ ms j u name kind args names, (∀ m ∈ ms, m.target? ≠ some c) →
      let h₂ := (Move.runAll ms h₁).2
      j ≠ c → h₂.view? j = some u → u.finalized = false → edgeOf? name = some kind →
      args.length ≤ 2 → args[0]? = some (.foundBy (.path c)) →
      (argumentOr args 1 (anyOf kind.secondAxis)).choice? kind.secondAxis = some names →
      ((callPath j name args).on h₂).1 = .ok (.path j) ∧
        ((callPath j name args).on h₂).2.view? j = some (u.alongFound v kind names) := by
  intro h c h₁
  have hs : h.Sound := sound_empty.runAll ms₀
  have hcopied : (callPath p "copy" []).on h = (.ok (.path c), h.adding v) := on_callPath_copy hs hv
  have hs₁ : (h.adding v).Sound := hs.adding v
  have hc : (h.adding v).view? c = some v := view?_adding_size h v
  have hh₁ : h₁ = h.adding v := congrArg Prod.snd hcopied
  rw [hh₁]
  refine ⟨fun o name args i hio hi ↦ view?_of_callPath_ne hs name args hi hio,
    congrArg Prod.fst hcopied, hc, fun ms C hC ↦ eq_leaveOut hs₁ hC,
    fun ms P hp hcP hP hmentions ↦ leaveOut_inPlaceOf hs hv hp hcP hP hmentions, ?_⟩
  intro ms j u name kind args names hms h₂ hj hu hopen hname hargs hfound hnames
  exact on_callPath_found (hs₁.runAll ms) hu hopen (view?_runAll hs₁ hc hms) hj.symm hname hargs
    hfound hnames

/-- A morphism and its copy are both joined with a path that starts later, and the copy is
marked. -/
def joinedCopies : List Move :=
  [.startVertices (.selector (.nodes (.one "x"))), .call 0 "and_" [.path 2],
    .call 1 "mark_saved" [], .call 1 "or_" [.path 2], .call 0 "out" []]

/-- The copy is then what the morphism would be if it was marked and joined in that way. -/
theorem independent_of_joinedCopies :
    let h := (Move.runAll [.startMorphism (.text "m")] .empty).2
    let h₁ := ((callPath 0 "copy" []).on h).2
    let direct : List Move := [.startVertices (.selector (.nodes (.one "x"))),
      .call 0 "mark_saved" [], .call 0 "or_" [.path 2]]
    (Move.runAll joinedCopies h₁).2.view? 1 = (Move.runAll direct h₁).2.view? 0 := by
  intro h h₁ direct
  have hnames : ∀ m ∈ joinedCopies, ∀ o args, m ≠ .call o "copy" args := by
    simp [joinedCopies]
  have hmentions : ∀ m ∈ joinedCopies, ∀ i, m.Mentions i → i = 2 := by
    rintro m hm i ⟨a, ha, hi⟩
    simp only [joinedCopies, List.mem_cons, List.not_mem_nil, or_false] at hm
    rcases hm with rfl | rfl | rfl | rfl | rfl <;>
      simp only [Move.arguments, List.mem_cons, List.not_mem_nil, or_false] at ha <;>
      subst ha <;> cases hi <;> rfl
  have halone : Move.LeavesAlone (· == 0) joinedCopies h₁ := by
    refine ⟨fun e he o args n hcall ↦ ?_, fun m hm _ i hi ↦ ?_⟩
    · exact absurd hcall (hnames _ (Move.move_mem_of_mem_history he) o args)
    · rw [hmentions m hm i hi]
      rfl
  obtain ⟨-, -, -, -, hdirect, -⟩ :=
    independent_of_view? [.startMorphism (.text "m")] (p := 0)
      (v := ⟨["g.M()"], [], [], false, some ⟨"m", false⟩⟩) rfl
  obtain ⟨hcopy, -⟩ := hdirect joinedCopies (· == 0) rfl rfl halone fun m hm _ hi ↦ by
    cases hmentions m hm _ hi
  exact hcopy

end Heap

end GraphQuery
