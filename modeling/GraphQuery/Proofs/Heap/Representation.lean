import GraphQuery.Proofs.Heap.Likeness
import GraphQuery.Proofs.Heap.Snapshot
import GraphQuery.Proofs.Run

/-!
# Stored paths stand for traversals

A path says nothing but its calls, and everything else is read off them: segments, problems, and
whether it is finalized (`Path.view`).  A stored path has all of this in lists of its own, which its
calls write step by step.  A heap `Represents` a workspace if what is stored of each path is what is
read off it.

A selector of predicates that a path finds holds the path as it is in a workspace, while a stored
path has the place of a private copy; `Value.resolve` puts the one in the place of the other.

Whatever is only looked at comes to the same on both sides, and leaves a heap and the workspace that
it represents as they are but for the log (`Heap.Stands`): arguments first of all.
-/

namespace GraphQuery

open Work

/-! ## What is read off a path -/

namespace Path

/-- What is stored of a path. -/
def view (p : Path) : View :=
  ⟨p.traversal.segments, p.traversal.problems.map Problem.text, p.followed, p.isFinalized, p.label⟩

/-- A path with another traversal, which brings morphisms along. -/
def extended (p : Path) (next : Traversal) (brought : List PathId) : Path :=
  { p with traversal := next, followed := absorb p.followed brought }

theorem view_call {p : Path} (hopen : p.isFinalized = false) {c : Call} (hc : c.isTerminal = false)
    (brought : List PathId) : (p.extended (p.traversal.call c) brought).view =
      ((p.view.addSegment c.text).takeIn brought).addProblems (c.problems.map Problem.text) :=
  View.ext rfl List.map_append rfl (hc.trans hopen.symm) rfl

theorem view_nest {p : Path} (hopen : p.isFinalized = false) (c : NestCall) (inner : Traversal)
    (brought : List PathId) : (p.extended (p.traversal.nest c inner) brought).view =
      ((p.view.addSegment (c.text inner.argument)).takeIn brought).addProblems
        ((c.problems inner).map Problem.text) :=
  View.ext rfl List.map_append rfl hopen.symm rfl

theorem view_finish (p : Path) (terminal : Terminal) :
    (p.extended (p.traversal.call (.finish terminal)) []).view =
      (p.view.addSegment terminal.text).finish :=
  View.ext rfl (congrArg (List.map Problem.text) (List.append_nil _)) rfl rfl rfl

/-- A path begins as what it is called. -/
def IsTitled (p : Path) : Prop := p.view.title = p.traversal.root.title

theorem text_view (p : Path) : p.view.text = p.traversal.text :=
  p.traversal.text_eq_intercalate.symm

theorem display_view {p : Path} (h : p.IsTitled) : p.view.display = p.display := by
  rw [View.display, h, text_view]
  rfl

theorem compile_view (p : Path) : p.view.compile = p.compile := by
  have hproblems : p.view.problems ≠ [] ↔ p.traversal.isBroken = true := by
    simp [view, Traversal.isBroken]
  rw [View.compile, compile, Traversal.compile, text_view]
  by_cases hbroken : p.traversal.isBroken = true
  · rw [if_pos (hproblems.2 hbroken), if_pos hbroken]
    rfl
  · rw [if_neg ((not_congr hproblems).2 hbroken), if_neg hbroken]

/-- A path as an argument is written alike. -/
theorem argument_view (p : Path) : p.view.argument = p.traversal.argument := by
  rw [View.argument, compile_view, compile, Traversal.compile, Traversal.argument]
  cases p.traversal.isBroken <;> rfl

/-- A path as an argument is warned of alike. -/
theorem on_warnOfPredicates (p : Path) (w : Workspace) :
    (Action.warnOfPredicates (.found p)).on w =
      (.ok (), { w with log := w.log ++ p.view.warnings }) := by
  rw [Action.warnOfPredicates, Predicates.failure?, View.warnings, compile_view]
  cases p.compile with
  | ok s =>
      rw [List.append_nil]
      rfl
  | error e => rfl

end Path

/-- A value as it is passed where paths are not stored: a selector by a private path holds this path
as it is. -/
def Value.resolve (paths : Array Path) : Value → Value
  | foundBy (path n) =>
    (paths[n]?).elim (foundBy (path n)) fun p ↦ selector (.predicates (.found p))
  | v => v

/-- Only a selector by a private path is passed in another way. -/
theorem Value.resolve_cases (paths : Array Path) (v : Value) : v.resolve paths = v ∨
    ∃ n p, v = foundBy (path n) ∧ paths[n]? = some p ∧
      v.resolve paths = selector (.predicates (.found p)) := by
  unfold resolve
  split
  · rename_i n
    cases hp : paths[n]? with
    | none => exact .inl rfl
    | some p => exact .inr ⟨n, p, rfl, hp, rfl⟩
  · exact .inl rfl

theorem Value.choice?_resolve (paths : Array Path) (v : Value) (axis : Axis) :
    (v.resolve paths).choice? axis = v.choice? axis := by
  rcases v.resolve_cases paths with h | ⟨n, p, rfl, -, h⟩ <;> rw [h]
  cases axis <;> rfl

/-- A call with its arguments as they are passed where paths are not stored. -/
def Build.resolve (paths : Array Path) : Build → Build
  | .edge kind predicates second => .edge kind (predicates.resolve paths) (second.resolve paths)
  | .mark kind names => .mark kind (names.resolve paths)
  | .join kind other => .join kind (other.resolve paths)
  | .follow direction morphism => .follow direction (morphism.resolve paths)
  | .finish terminal => .finish terminal
  | .limit count => .limit (count.resolve paths)

/-- A question as it is asked where paths are not stored. -/
def Inspection.resolve (paths : Array Path) : Inspection → Inspection
  | .statementAs target => .statementAs (target.resolve paths)
  | question => question

/-- A value is fit to be passed to a call on a stored path.  A selector in it holds no path as it
is, but has the place of a private copy, and no call is on that copy. -/
structure Value.IsProper (o : PathId) (a : Value) : Prop where
  stored : ∀ p, a ≠ .selector (.predicates (.found p))
  other : a ≠ .foundBy (.path o)

theorem Value.isProper_foundBy {o n : PathId} (h : n ≠ o) : (foundBy (path n)).IsProper o :=
  ⟨nofun, fun heq ↦ h (path.inj (foundBy.inj heq))⟩

namespace Heap

/-- What is stored of each path is what is read off it. -/
structure Represents (h : Heap) (w : Workspace) : Prop where
  sound : h.Sound
  views : ∀ i, h.view? i = w.paths[i]?.map Path.view
  titled : ∀ (i : PathId) p, w.paths[i]? = some p → p.IsTitled
  log : h.log = w.log

/-- A heap represents a workspace with given paths. -/
def Stands (paths : Array Path) (h : Heap) (w : Workspace) : Prop :=
  h.Represents w ∧ w.paths = paths

variable {paths : Array Path} {h h' : Heap} {w : Workspace} {o : PathId} {p : Path} {a : Value}

namespace Represents

theorem view?_eq (hr : h.Represents w) (hp : w.paths[o]? = some p) : h.view? o = some p.view := by
  rw [hr.views, hp]
  rfl

theorem view?_eq_none (hr : h.Represents w) (hp : w.paths[o]? = none) : h.view? o = none := by
  rw [hr.views, hp]
  rfl

theorem size (hr : h.Represents w) : h.objects.size = w.paths.size := by
  have hiff (i : PathId) : i < h.objects.size ↔ i < w.paths.size := by
    constructor
    · intro hi
      obtain ⟨v, hv⟩ := hr.sound.exists_view?_of_lt hi
      rw [hr.views] at hv
      obtain ⟨p, hp, -⟩ := Option.map_eq_some_iff.1 hv
      exact (Array.getElem?_eq_some_iff.1 hp).choose
    · intro hi
      exact lt_of_view? (hr.view?_eq (Array.getElem?_eq_getElem hi))
  exact Nat.le_antisymm (Nat.le_of_not_lt fun hlt ↦ Nat.lt_irrefl _ ((hiff _).1 hlt))
    (Nat.le_of_not_lt fun hlt ↦ Nat.lt_irrefl _ ((hiff _).2 hlt))

theorem displayPath_eq (hr : h.Represents w) : h.displayPath = w.displayPath := by
  funext i
  rw [hr.sound.displayPath_eq, hr.views, Workspace.displayPath]
  cases hp : w.paths[i]? with
  | none => rfl
  | some p => exact Path.display_view (hr.titled i p hp)

theorem title_eq (hr : h.Represents w) : h.title = w.pathTitle := by
  funext i
  rw [hr.sound.title_eq, hr.views, Workspace.pathTitle]
  cases hp : w.paths[i]? with
  | none => rfl
  | some p => exact hr.titled i p hp

/-- What is noted is noted on both sides. -/
theorem noting (hr : h.Represents w) (entries : List LogEntry) :
    Represents { h with log := h.log ++ entries } { w with log := w.log ++ entries } where
  sound := sound_of_silent (h := h) rfl hr.sound
  views := hr.views
  titled := hr.titled
  log := congrArg (· ++ entries) hr.log

/-- What is written for a stored path is written for the path that it represents. -/
theorem becomes (hr : h.Represents w) (hp : w.paths[o]? = some p) {q : Path} (hq : q.IsTitled)
    (hb : h.Becomes o q.view h') :
    h'.Represents { w with paths := w.paths.setIfInBounds o q } where
  sound := hb.sound
  views i := by
    by_cases hi : i = o
    · rw [hi, hb.here, Array.getElem?_setIfInBounds_self_of_lt
        (Array.getElem?_eq_some_iff.1 hp).choose]
      rfl
    · rw [hb.elsewhere i hi, hr.views, Array.getElem?_setIfInBounds_ne (Ne.symm hi)]
  titled i q' hq' := by
    by_cases hi : i = o
    · rw [hi, Array.getElem?_setIfInBounds_self_of_lt
        (Array.getElem?_eq_some_iff.1 hp).choose] at hq'
      exact Option.some.inj hq' ▸ hq
    · rw [Array.getElem?_setIfInBounds_ne (Ne.symm hi)] at hq'
      exact hr.titled i q' hq'
  log := hb.log.trans hr.log

/-- A path that is new is new on both sides. -/
theorem adding (hr : h.Represents w) {q : Path} (hq : q.IsTitled) :
    (h.adding q.view).Represents { w with paths := w.paths.push q } where
  sound := hr.sound.adding _
  views i := by
    by_cases hi : i = h.objects.size
    · rw [hi, view?_adding_size, hr.size, Array.getElem?_push_size]
      rfl
    · rw [view?_adding hr.sound _ hi, hr.views, Array.getElem?_push, if_neg (hr.size ▸ hi)]
  titled i q' hq' := by
    rw [Array.getElem?_push] at hq'
    split at hq'
    · exact Option.some.inj hq' ▸ hq
    · exact hr.titled i q' hq'
  log := hr.log

end Represents

/-! ## Arguments -/

theorem stands_display (a : Value) : Matches (Stands paths) Eq (display a)
    (Action.display (a.resolve paths)) := by
  have hfault : (a.resolve paths).displayFault? = a.displayFault? := by
    rcases a.resolve_cases paths with ha | ⟨n, p, rfl, -, ha⟩ <;> rw [ha]
    exact (displayFault?_foundBy_path n).symm
  rw [display, Action.display, hfault]
  refine (Matches.expectNone _).bind_eq fun _ ↦ .get_bind fun h w hs ↦ .pure ?_
  obtain ⟨hr, rfl⟩ := hs
  rw [hr.displayPath_eq, Workspace.display]
  rcases a.resolve_cases w.paths with ha | ⟨n, p, rfl, hp, ha⟩
  · rw [ha]
  · have hshown : w.displayPath n = p.display := by
      rw [Workspace.displayPath, hp]
      rfl
    rw [ha, Value.display, Value.display, Value.display, hshown]
    rfl

/-- Something that is no path and no private one lacks an operation on both sides. -/
theorem stands_lacks {α β : Type} {R : α → β → Prop} (a : Value) (operation : String) :
    Matches (Stands paths) R (lacks a operation) (Action.lacks a operation) := by
  refine .get_bind fun h w hs ↦ ?_
  rw [hs.1.title_eq]
  exact .throw _

theorem stands_expectChoice (axis : Axis) (a : Value) : Matches (Stands paths)
    (fun c c' ↦ c' = c ∧ a.choice? axis = some c)
    (expectChoice axis a) (Action.expectChoice axis (a.resolve paths)) := by
  refine (stands_display a).bind_eq fun _ ↦ ?_
  rw [Value.choice?_resolve]
  cases a.choice? axis with
  | some c => exact .pure ⟨rfl, rfl⟩
  | none => exact .throw _

/-- A path that is there is looked up, and its fields are known. -/
theorem leads_object {α β : Type} {R : Heap → Workspace → Prop} {Q : α → β → Prop}
    (hp : paths[o]? = some p) {f : Object → Work Heap α} {y : Action β}
    (hf : ∀ x, x.finalized = p.isFinalized → x.label = p.label →
      x.title = p.traversal.root.title → Leads (Stands paths) R Q (f x) y) :
    Leads (Stands paths) R Q (object o >>= f) y := by
  rintro h w ⟨hr, rfl⟩
  obtain ⟨x, hx, hholds⟩ := view?_eq_some_iff.1 (hr.view?_eq hp)
  have htitle : x.title = p.view.title := by
    rw [Object.title, View.title, hholds.label]
  rw [on_bind_of_ok (on_object_of_some hx)]
  exact hf x hholds.finalized hholds.label (htitle.trans (hr.titled o p hp)) h w ⟨hr, rfl⟩

/-- Both sides look a path up, be it there or not. -/
theorem leads_lookup {α β : Type} {R : Heap → Workspace → Prop} {Q : α → β → Prop}
    (hR : ∀ h w, Stands paths h w → R h w) {f : Object → Work Heap α} {g : Path → Action β}
    (hf : ∀ x p, paths[o]? = some p → x.finalized = p.isFinalized → x.label = p.label →
      x.title = p.traversal.root.title → Leads (Stands paths) R Q (f x) (g p)) :
    Leads (Stands paths) R Q (object o >>= f) (Action.getPath o >>= g) := by
  cases hp : paths[o]? with
  | none =>
      rintro h w ⟨hr, rfl⟩
      have hnone := hr.sound.objects_eq_none (hr.view?_eq_none hp)
      have hgone : (Action.getPath o).on w = (.error .noObject, w) := by
        rw [Action.on_getPath, hp]
        rfl
      rw [on_bind_of_error (on_object_of_none hnone), on_bind_of_error hgone]
      exact ⟨.error _, hR _ _ ⟨hr, rfl⟩⟩
  | some p =>
      have hlooked := leads_object (y := g p) hp fun x ↦ hf x p hp
      rintro h w ⟨hr, rfl⟩
      rw [on_bind_of_ok (Action.on_getPath_of_some hp)]
      exact hlooked h w ⟨hr, rfl⟩

/-- What is read off the view of a path is read off the path. -/
theorem stands_of_view {α : Type} {x : Work Heap α} {r : Except Error α} (hp : paths[o]? = some p)
    (hx : ∀ h : Heap, h.view? o = some p.view → x.on h = (r, h)) :
    Matches (Stands paths) (fun a b ↦ b = a ∧ r = .ok a) x (ofResult r) := by
  rintro h w ⟨hr, rfl⟩
  rw [hx h (hr.view?_eq hp), on_ofResult]
  cases r with
  | ok a => exact ⟨.ok ⟨rfl, rfl⟩, hr, rfl⟩
  | error e => exact ⟨.error e, hr, rfl⟩

theorem stands_compile (hp : paths[o]? = some p) :
    Matches (Stands paths) (fun a b ↦ b = a ∧ p.compile = .ok a) (compile o)
      (ofResult p.compile) :=
  stands_of_view hp fun _ hv ↦ p.compile_view ▸ on_compile hv

theorem stands_note (entry : LogEntry) :
    Matches (Stands paths) Eq (note entry) (Action.note entry) :=
  fun _ _ hs ↦ ⟨.ok rfl, hs.1.noting [entry], hs.2⟩

/-- What is no path is refused with what it is shown as. -/
theorem stands_refuse {α β : Type} {R : α → β → Prop} (a : Value) (error : String → Error) :
    Matches (Stands paths) R (display a >>= fun shown ↦ throw (error shown))
      (Action.display (a.resolve paths) >>= fun shown ↦ throw (error shown)) :=
  (stands_display a).bind_eq fun _ ↦ .throw _

/-- A selector is refused, whether it holds a path or the place of one. -/
theorem stands_refuse_foundBy {α β : Type} {R : α → β → Prop} (query : Value)
    (error : String → Error) {x : Work Heap α} {y : Value → Action β}
    (hx : x = display (.foundBy query) >>= fun shown ↦ throw (error shown))
    (hy : ∀ v, (v = .foundBy query ∨ ∃ p, v = .selector (.predicates (.found p))) →
      y v = Action.display v >>= fun shown ↦ throw (error shown)) :
    Matches (Stands paths) R x (y ((Value.foundBy query).resolve paths)) := by
  have hholds : (Value.foundBy query).resolve paths = .foundBy query ∨
      ∃ p, (Value.foundBy query).resolve paths = .selector (.predicates (.found p)) := by
    rcases Value.resolve_cases paths (.foundBy query) with h | ⟨_, p, -, -, h⟩
    · exact .inl h
    · exact .inr ⟨p, h⟩
  rw [hx, hy _ hholds]
  exact stands_refuse _ error

theorem stands_expectPath (a : Value) : Matches (Stands paths)
    (fun n q ↦ a = .path n ∧ paths[n]? = some q)
    (expectPath a) (Action.expectPath (a.resolve paths)) := by
  cases a with
  | path n =>
      have hthere : Matches (Stands paths) (fun _ q ↦ paths[n]? = some q) (discard (object n))
          (Action.getPath n >>= pure) :=
        leads_lookup (fun _ _ h ↦ h) fun _ _ hq _ _ _ ↦ Matches.pure hq
      rw [bind_pure] at hthere
      change Matches (Stands paths) _ _ (Action.getPath n)
      rw [← bind_pure (Action.getPath n)]
      exact hthere.bind fun _ _ hq ↦ .pure ⟨rfl, hq⟩
  | foundBy query =>
      exact stands_refuse_foundBy (y := Action.expectPath) query Error.notPath rfl
        (by rintro _ (rfl | ⟨_, rfl⟩) <;> rfl)
  | _ => exact stands_refuse _ _

theorem stands_expectMorphism (a : Value) : Matches (Stands paths)
    (fun x y ↦ a = .path x.1 ∧ y.1 = x.1 ∧ y.2.1 = x.2 ∧ paths[x.1]? = some y.2.2)
    (expectMorphism a) (Action.expectMorphism (a.resolve paths)) := by
  cases a with
  | path n =>
      refine leads_lookup (fun _ _ h ↦ h) fun x q hq _ hlabel _ ↦ ?_
      rw [hlabel]
      cases q.label with
      | some label => exact Matches.pure ⟨rfl, rfl, rfl, hq⟩
      | none => exact stands_refuse (.path n) _
  | foundBy query =>
      exact stands_refuse_foundBy (y := Action.expectMorphism) query Error.notMorphism rfl
        (by rintro _ (rfl | ⟨_, rfl⟩) <;> rfl)
  | _ => exact stands_refuse _ _

theorem stands_expectLimit (a : Value) : Matches (Stands paths) Eq (expectLimit a)
    (Action.expectLimit (a.resolve paths)) := by
  cases a with
  | plain p =>
      cases p with
      | int n =>
          refine (stands_display (.plain (.int n))).bind_eq fun _ ↦ ?_
          split
          · exact .pure rfl
          · exact .throw _
      | _ => exact stands_refuse (.plain _) _
  | foundBy query =>
      exact stands_refuse_foundBy (y := Action.expectLimit) query Error.badLimit rfl
        (by rintro _ (rfl | ⟨_, rfl⟩) <;> rfl)
  | _ => exact stands_refuse _ _

theorem stands_expectName (a : Value) : Matches (Stands paths) Eq (expectName a)
    (Action.expectName (a.resolve paths)) := by
  cases a with
  | plain p => exact .ofResult _
  | foundBy query =>
      exact stands_refuse_foundBy (y := Action.expectName) query Error.badName rfl
        (by rintro _ (rfl | ⟨_, rfl⟩) <;> rfl)
  | _ => exact stands_refuse _ _

/-- What a selector of predicates stands for. -/
inductive Finds (paths : Array Path) : Value → Predicates → Prop
  | named {choice : Choice} : Finds paths (.selector (.predicates (.named choice))) (.named choice)
  | found {n : PathId} {p : Path} : paths[n]? = some p → Finds paths (.foundBy (.path n)) (.found p)

/-- A selector of predicates is written and warned of. -/
abbrev StandsPredicates (paths : Array Path) (a : Value) : Prop :=
  Matches (Stands paths) (fun text p ↦ text = p.text ∧ Finds paths a p)
    (expectPredicates a >>= fun _ ↦ formatPredicates a)
    (Action.expectPredicates (a.resolve paths) >>= fun p ↦
      Action.warnOfPredicates p >>= fun _ ↦ pure p)

/-- What a private path finds is compiled on both sides; all else that finds predicates lacks the
operation. -/
theorem stands_predicates_foundBy (query : Value) : StandsPredicates paths (.foundBy query) := by
  rintro h w ⟨hr, rfl⟩
  cases hn : h.nested? (.foundBy query) with
  | some n =>
      obtain ⟨hquery, hlt⟩ := lt_of_nested? hn
      cases hquery
      obtain ⟨p, hp⟩ : ∃ p, w.paths[n]? = some p :=
        ⟨_, Array.getElem?_eq_getElem (hr.size ▸ hlt)⟩
      have hfound : (Value.foundBy (.path n)).resolve w.paths =
          .selector (.predicates (.found p)) := by
        rw [Value.resolve, hp]
        rfl
      have hwritten := on_formatPredicates_found (hr.view?_eq hp)
      rw [on_bind_of_ok (show (expectPredicates _).on h = (.ok (), h) from rfl), hwritten,
        hfound, on_bind_of_ok (Action.on_expectPredicates rfl),
        on_bind_of_ok (p.on_warnOfPredicates w)]
      exact ⟨.ok ⟨p.argument_view, .found hp⟩, hr.noting _, rfl⟩
  | none =>
      have hfound : (Value.foundBy query).resolve w.paths = .foundBy query := by
        rcases Value.resolve_cases w.paths (.foundBy query) with h | ⟨n, p, hquery, hp, -⟩
        · exact h
        · rw [hquery, nested?_found (hr.view?_eq hp)] at hn
          cases hn
      have hlacks : Matches (Stands w.paths) (fun text p ↦ text = p.text ∧
          Finds w.paths (.foundBy query) p) (lacks query "compile" >>= pure)
          ((Action.lacks query "compile" : Action Predicates) >>= fun p ↦
            Action.warnOfPredicates p >>= fun _ ↦ pure p) :=
        (stands_lacks (R := fun (_ : String) _ ↦ False) query "compile").bind
          fun _ _ hno ↦ hno.elim
      rw [bind_pure] at hlacks
      rw [on_bind_of_ok (show (expectPredicates _).on h = (.ok (), h) from rfl), hfound,
        formatPredicates, on_bind_of_ok (on_get h), hn]
      exact hlacks h w ⟨hr, rfl⟩

theorem stands_predicates (ha : ∀ p, a ≠ .selector (.predicates (.found p))) :
    StandsPredicates paths a := by
  cases a with
  | selector s =>
      cases s with
      | predicates q =>
          cases q with
          | named choice =>
              rintro h w ⟨hr, rfl⟩
              exact ⟨.ok ⟨rfl, .named⟩, hr, rfl⟩
          | found p => exact absurd rfl (ha p)
      | _ =>
          exact (stands_refuse (R := fun _ _ ↦ False) (.selector _) _).bind fun _ _ hno ↦ hno.elim
  | foundBy query => exact stands_predicates_foundBy query
  | _ => exact (stands_refuse (R := fun _ _ ↦ False) _ _).bind fun _ _ hno ↦ hno.elim

theorem stands_warnOfMorphism (label : Label) : Matches (Stands paths) Eq (warnOfMorphism label)
    (Action.warnOfMorphism label) := by
  unfold warnOfMorphism Action.warnOfMorphism
  split
  · exact stands_note _
  · exact .pure rfl

end Heap

end GraphQuery
