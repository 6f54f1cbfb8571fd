import GraphQuery.Proofs.Calls
import GraphQuery.Proofs.Operation
import GraphQuery.Proofs.Members
import GraphQuery.Proofs.Script.Reference

/-!
# What a path follows

A call brings morphisms along: the one that it follows and all that this one follows, all that a
joined path follows, or all that a snapshot follows.  They are taken in one by one, each at the end
if it is not there yet, and so a path follows exactly what its calls brought along, each where it
came first (`Grown.followed_eq`).

A path may be joined to itself, and a morphism may follow itself.  The loop that takes morphisms in
then goes over the very list that it extends.  `Absorption` is this loop as it is, and it ends with
the same list as if it went over a list that stands still (`Command.ends_of_absorption?`).
-/

namespace GraphQuery

open Work

/-! ## Taking in -/

/-- What is taken in is kept where it came first. -/
theorem absorb_eraseDups (old new : List PathId) :
    absorb old.eraseDups new = (old ++ new).eraseDups :=
  foldl_putNew_eraseDups old new

theorem nodup_absorb {old : List PathId} (h : old.Nodup) (new : List PathId) :
    (absorb old new).Nodup := by
  induction new generalizing old with
  | nil => exact h
  | cons i new ih =>
      rw [absorb_cons]
      split
      · exact ih h
      · exact ih (List.concat_eq_append ▸ h.concat ‹_›)

theorem absorb_concat (old new : List PathId) (i : PathId) : absorb old (new ++ [i]) =
    if i ∈ absorb old new then absorb old new else absorb old new ++ [i] :=
  List.foldl_append

/-- What is taken in is what is not there yet, each where it came first. -/
theorem absorb_eq_append (old new : List PathId) :
    absorb old new = old ++ new.eraseDups.filter (· ∉ old) := by
  induction new using List.reverseRecOn with
  | nil => exact (List.append_nil old).symm
  | append_singleton new i ih =>
      rw [absorb_concat, eraseDups_concat]
      by_cases hold : i ∈ old
      · rw [if_pos (mem_absorb.2 (.inl hold)), ih]
        split <;> simp [hold]
      · by_cases hnew : i ∈ new
        · rw [if_pos (mem_absorb.2 (.inr hnew)), if_pos hnew, ih]
        · rw [if_neg (by simp [hold, hnew]), if_neg hnew, ih]
          simp [hold]

/-! ## The loop -/

/-- A loop that goes over a list by position and puts at the end of another list what is not there
yet. -/
structure Absorption where
  /-- The list that is extended. -/
  own : List PathId
  /-- The list that is gone over, unless it is the one that is extended. -/
  other : Option (List PathId)
  position : Nat

namespace Absorption

/-- The loop a round later, unless it is at the end of the list that it goes over. -/
def step? (a : Absorption) : Option Absorption :=
  (a.other.getD a.own)[a.position]?.map fun i ↦
    { a with own := if i ∈ a.own then a.own else a.own ++ [i], position := a.position + 1 }

/-- The loop ends after some rounds, and the list that it extends is then `l`. -/
inductive Ends : Absorption → List PathId → Prop
  | stop {a : Absorption} : a.step? = none → Ends a a.own
  | next {a b : Absorption} {l : List PathId} : a.step? = some b → Ends b l → Ends a l

theorem ends_of_rest (own seen rest : List PathId) :
    Ends ⟨own, some (seen ++ rest), seen.length⟩ (absorb own rest) := by
  induction rest generalizing own seen with
  | nil => exact .stop (by simp [step?])
  | cons i rest ih =>
      let taken := if i ∈ own then own else own ++ [i]
      refine .next (b := ⟨taken, some (seen ++ i :: rest), seen.length + 1⟩)
        (by simp [step?, taken]) ?_
      have hrest := ih taken (seen ++ [i])
      rwa [← List.append_cons, List.length_append] at hrest

/-- Over another list the loop ends with what is to be taken in. -/
theorem ends_other (own other : List PathId) : Ends ⟨own, some other, 0⟩ (absorb own other) :=
  ends_of_rest own [] other

theorem ends_of_own (seen rest : List PathId) :
    Ends ⟨seen ++ rest, none, seen.length⟩ (seen ++ rest) := by
  induction rest generalizing seen with
  | nil => exact .stop (by simp [step?])
  | cons i rest ih =>
      refine .next (b := ⟨seen ++ i :: rest, none, seen.length + 1⟩) (by simp [step?]) ?_
      have hrest := ih (seen ++ [i])
      rwa [← List.append_cons, List.length_append] at hrest

/-- Over the list that it extends the loop ends with that list, to which it adds nothing. -/
theorem ends_own (own : List PathId) : Ends ⟨own, none, 0⟩ own := ends_of_own [] own

/-- Over either list the loop ends with what is to be taken in, as what the list that it extends
holds is there already. -/
theorem ends_ite {own other : List PathId} {same : Prop} [Decidable same] (h : same → other ⊆ own) :
    Ends ⟨own, if same then none else some other, 0⟩ (absorb own other) := by
  split
  · rw [absorb_of_subset (h ‹_›)]
    exact ends_own own
  · exact ends_other own other

end Absorption

/-! ## What a call brings along -/

namespace Build

/-- The morphisms that a call brings along, as they are in the workspace before it. -/
def brings (w : Workspace) : Build → List PathId
  | .follow _ (.path m) => m :: w.followedBy m
  | .join _ (.path o) => w.followedBy o
  | call => (call.snapshot?.map Path.followed).getD []

/-- The loop in which a call on the path `i` takes in morphisms, if there is one.  A morphism that
is followed is itself put at the end before the loop. -/
def absorption? (w : Workspace) (i : PathId) : Build → Option Absorption
  | .follow _ (.path m) =>
    some ⟨absorb (w.followedBy i) [m],
      if m = i then none else some (w.followedBy m), 0⟩
  | .join _ (.path o) =>
    some ⟨w.followedBy i, if o = i then none else some (w.followedBy o), 0⟩
  | call => call.snapshot?.map fun s ↦ ⟨w.followedBy i, some s.followed, 0⟩

variable {w : Workspace} {p : Path} {call : Build} {next : Traversal} {brought : List PathId}

theorem Adds.brings_eq (h : call.Adds w p next brought) : call.brings w = brought := by
  cases h with
  | named hs _ => simp [brings, snapshot?, hs]
  | found hs _ => simp [brings, snapshot?, hs]
  | join ho _ => exact Workspace.followedBy_of_getElem? ho
  | follow hq _ => exact congrArg _ (Workspace.followedBy_of_getElem? hq)
  | _ => rfl

end Build

/-- The morphisms that the call of an event brings along. -/
def Event.brings (e : Event) : List PathId :=
  match e.command with
  | .build _ call => call.brings e.before
  | _ => []

/-- The loop in which the call of an event on the path `i` takes in morphisms. -/
theorem Command.ends_of_absorption? {w : Workspace} {i : PathId} {call : Build} {v : Value}
    (hok : ((build i call).run w).1 = .ok v) :
    (∀ a, call.absorption? w i = some a → a.Ends (((build i call).run w).2.followedBy i)) ∧
    (call.absorption? w i = none → ((build i call).run w).2.followedBy i = w.followedBy i) := by
  obtain ⟨p, next, brought, hp, _, hadds, hpaths⟩ := exists_adds_of_build_eq_ok hok
  have hbefore := Workspace.followedBy_of_getElem? hp
  have hafter : ((build i call).run w).2.followedBy i = absorb p.followed brought :=
    Workspace.followedBy_of_getElem? (by rw [hpaths]; exact getElem?_setIfInBounds_of_some hp _)
  rw [hbefore, hafter]
  cases hadds with
  | named hs _ => simp [Build.absorption?, Build.snapshot?, hs]
  | @found _ _ _ inner _ hs _ =>
      simp only [Build.absorption?, Build.snapshot?, hs, hbefore, Option.map_some]
      refine ⟨?_, fun hnone ↦ (by cases hnone)⟩
      rintro _ ⟨⟩
      exact Absorption.ends_other _ _
  | mark hchoice => exact ⟨fun _ hsome ↦ (by cases hsome), fun _ ↦ rfl⟩
  | @join _ o other ho _ =>
      refine ⟨?_, fun hnone ↦ (by cases hnone)⟩
      rintro _ ⟨⟩
      rw [hbefore, Workspace.followedBy_of_getElem? ho]
      refine Absorption.ends_ite ?_
      rintro rfl
      obtain rfl := Option.some.inj (hp.symm.trans ho)
      exact List.Subset.refl _
  | @follow _ m q l hq _ =>
      refine ⟨?_, fun hnone ↦ (by cases hnone)⟩
      rintro _ ⟨⟩
      rw [hbefore, Workspace.followedBy_of_getElem? hq]
      refine Absorption.ends_ite ?_
      rintro rfl
      obtain rfl := Option.some.inj (hp.symm.trans hq)
      exact (prefix_absorb _ _).subset
  | finish _ => exact ⟨fun _ hsome ↦ (by cases hsome), fun _ ↦ rfl⟩
  | limit _ _ => exact ⟨fun _ hsome ↦ (by cases hsome), fun _ ↦ rfl⟩

/-! ## What calls bring along -/

namespace Grown

variable {calls : List Event} {p : Path}

theorem nodup_followed (h : Grown calls p) : p.followed.Nodup := by
  induction h with
  | vertices => exact List.nodup_nil
  | morphism => exact List.nodup_nil
  | marked _ ih => exact ih
  | added _ _ _ _ _ ih => exact nodup_absorb ih _

/-- A path follows what its calls brought along, each morphism where it came first. -/
theorem followed_eq (h : Grown calls p) :
    p.followed = (calls.flatMap Event.brings).eraseDups := by
  induction h with
  | vertices => rfl
  | morphism => rfl
  | marked _ ih => exact ih
  | @added calls p e k call next brought _ hcommand _ hadds _ ih =>
      have hbrings : e.brings = brought := by
        rw [Event.brings, hcommand]
        exact hadds.brings_eq
      rw [List.flatMap_append, List.flatMap_singleton, ← absorb_eraseDups, ← ih, hbrings]

end Grown

namespace Run

variable {es : List Event} {w : Workspace} {p : Path}

/-- A path takes morphisms in at the end of its list only. -/
theorem followedBy_prefix {before after : List Event} {e : Event}
    (h : Run (before ++ e :: after) w) (i : PathId) : e.before.followedBy i <+: w.followedBy i := by
  refine (h.forall_later (P := fun u ↦ e.before.followedBy i <+: u.followedBy i)
    (List.prefix_refl _) fun d _ hd ↦ hd.trans ?_).1
  cases hp : d.before.paths[i]? with
  | none =>
      rw [Workspace.followedBy, hp]
      exact List.nil_prefix
  | some p =>
      obtain ⟨q, hq, horigin⟩ := Command.exists_of_getElem? (c := d.command) hp
      rw [Workspace.followedBy_of_getElem? hp, Event.after, Workspace.followedBy_of_getElem? hq]
      rcases horigin.of_getElem? hp with rfl | ⟨_, _, _, _, _, _, rfl⟩ | ⟨_, _, _, rfl⟩
      · exact List.prefix_refl _
      · exact prefix_absorb _ _
      · exact List.prefix_refl _

/-- The names that the segments of a path refer to are names of morphisms that it follows. -/
theorem exists_followed_of_mem_segments (h : Run es w) (hp : Seen es w p) {s n : String}
    (hs : s ∈ p.segments) (hn : n ∈ Script.references s) : ∃ j ∈ p.followed, w.name? j = some n :=
  h.exists_followed_of_mem_references hp
    (Traversal.mem_references_of_mem_segments (h.isWord_of_mem_references hp) hs hn)

/-- What a path follows.  It is what the calls that made the path brought along, each morphism once
and where it came first; it only ever grows at its end; and the names that the path refers to at any
depth are names of morphisms in it.  A snapshot that a call uses is as some path was at that moment
or earlier, namely when its selector was made; and the loop in which a call takes morphisms in ends
with the list of the path, be it the list that the loop goes over or not. -/
theorem followed_eq_of_calls (h : Run es w) :
    (∀ (i : PathId) p, w.paths[i]? = some p → p.followed.Nodup ∧
      p.followed = ((callsOf es i).flatMap Event.brings).eraseDups ∧
      ∀ s ∈ p.segments, ∀ n ∈ Script.references s, ∃ j ∈ p.followed, w.name? j = some n) ∧
    (∀ before e after, es = before ++ e :: after →
      (∀ i, e.before.followedBy i <+: w.followedBy i) ∧
      ∀ p, e.command.snapshot? = some p → Seen before e.before p) ∧
    (∀ registers a v u i p, (Session.evaluate registers a).on v = (.ok (.path i), u) →
      u.paths[i]? = some p → (Session.evaluate registers (.found a)).on v =
        (.ok (.selector (.predicates (.found p))), u)) ∧
    ∀ e ∈ es, ∀ i call v, e.command = .build i call → e.outcome = .ok v →
      (∀ a, call.absorption? e.before i = some a → a.Ends (e.after.followedBy i)) ∧
      (call.absorption? e.before i = none → e.after.followedBy i = e.before.followedBy i) := by
  refine ⟨?_, ?_, ?_, ?_⟩
  · intro i p hp
    have hgrown := h.grown hp
    exact ⟨hgrown.nodup_followed, hgrown.followed_eq,
      fun s hs n ↦ h.exists_followed_of_mem_segments (seen_of_getElem? hp) hs⟩
  · rintro before e after rfl
    exact ⟨h.followedBy_prefix, fun p ↦ h.seen_of_snapshot⟩
  · exact fun registers a v u i p ↦ Session.evaluate_found_of_path
  · rintro ⟨u, c⟩ _ i call v rfl hok
    exact Command.ends_of_absorption? hok

/-- A morphism follows itself and another one that follows it, and is joined to itself. -/
def followingInCircles : List Command := [
  .startMorphism (.text "m"),
  .startMorphism (.text "n"),
  .build 0 (.follow .forward (.path 0)),
  .build 1 (.follow .forward (.path 0)),
  .build 0 (.follow .reverse (.path 1)),
  .build 0 (.join .union (.path 0)),
  .copy 0]

/-- Its copy follows both of them, each once. -/
theorem followed_of_followingInCircles :
    let es := Command.history followingInCircles .empty
    (callsOf es 2).flatMap Event.brings = [0, 1, 0, 0, 1] ∧
      (Command.runAll followingInCircles .empty).2.followedBy 2 =
        ((callsOf es 2).flatMap Event.brings).eraseDups := by
  have hrun := Run.start.append_history followingInCircles
    (by simp [followingInCircles, Command.snapshot?, Build.snapshot?])
  refine ⟨rfl, ?_⟩
  exact ((followed_eq_of_calls hrun).1 2 _ rfl).2.1

end Run

end GraphQuery
