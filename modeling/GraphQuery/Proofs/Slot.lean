import GraphQuery.Proofs.Operation
import GraphQuery.Proofs.Script.Arguments

/-!
# What is written for a selector

A slot is a call with all but one selector.  Whatever selector of its axis is put into it, the call
renders a segment, which is put at the end of the path or, if the path is finalized, told by the
refusal.  The segment is settled by the text of the selector (`rendered?_fill`), and this text can
be read off it (`segment_inj`), so what is told apart in one slot is told apart in all of them.

Two lists of names are always told apart.  A list is taken for no choice at all if and only if it is
empty, since all that is left of either is the empty text.
-/

namespace GraphQuery

open Work

namespace Selector

/-- The axis of a selector. -/
def axis : Selector → Axis
  | nodes _ => .node
  | tags _ => .tag
  | predicates _ => .predicate

/-- A selector as an argument of a call. -/
def text : Selector → String
  | nodes c | tags c => c.text
  | predicates p => p.text

theorem text_ne_null (s : Selector) : s.text ≠ "null" := by
  cases s with
  | nodes c | tags c => exact c.text_ne_null
  | predicates p => exact p.text_ne_null

/-- A selector of a given axis of plain names selects names there. -/
theorem exists_choice? {s : Selector} {axis : Axis} (h : s.axis = axis)
    (hplain : axis ≠ .predicate) :
    ∃ c, (Value.selector s).choice? axis = some c ∧ s.text = c.text := by
  subst h
  cases s with
  | nodes c | tags c => exact ⟨c, rfl, rfl⟩
  | predicates p => exact absurd rfl hplain

theorem exists_predicates {s : Selector} (h : s.axis = .predicate) : ∃ p, s = .predicates p := by
  cases s with
  | nodes c | tags c => cases h
  | predicates p => exact ⟨p, rfl⟩

end Selector

/-- The selector of a choice on an axis. -/
def Axis.selector : Axis → Choice → Selector
  | node, c => .nodes c
  | tag, c => .tags c
  | predicate, c => .predicates (.named c)

theorem Axis.axis_selector (axis : Axis) (c : Choice) : (axis.selector c).axis = axis := by
  cases axis <;> rfl

theorem Axis.text_selector (axis : Axis) (c : Choice) : (axis.selector c).text = c.text := by
  cases axis <;> rfl

namespace Value

/-- The text of a selector that is passed as an argument. -/
def written : Value → String
  | selector s => s.text
  | _ => ""

variable {v : Value}

theorem written_of_choice? {axis : Axis} {c : Choice} (h : v.choice? axis = some c) :
    v.written = c.text := by
  unfold choice? at h
  split at h
  · unfold Selector.choice? at h
    split at h <;> cases h <;> rfl
  · cases h

theorem written_of_predicates? {p : Predicates} (h : v.predicates? = some p) :
    v.written = p.text := by
  rw [eq_of_predicates? h]
  rfl

end Value

/-- A slot for a selector: a call with all but this argument. -/
inductive Slot
  /-- Where a path starts. -/
  | start
  /-- The argument of a call with names of one axis. -/
  | mark (kind : Mark)
  /-- The predicates of an edge call. -/
  | predicates (kind : Edge) (other : Value)
  /-- The second argument of an edge call. -/
  | second (kind : Edge) (other : Value)

namespace Slot

/-- The axis of the selectors that a slot takes. -/
def axis : Slot → Axis
  | start => .node
  | mark kind => kind.axis
  | predicates _ _ => .predicate
  | second kind _ => kind.secondAxis

/-- The command with a selector in the slot.  Calls are made on the path `i`. -/
def fill (i : PathId) (s : Selector) : Slot → Command
  | start => .startVertices (.selector s)
  | mark kind => .build i (.mark kind (.selector s))
  | predicates kind other => .build i (.edge kind (.selector s) other)
  | second kind other => .build i (.edge kind other (.selector s))

/-- The command with a choice on the axis of the slot. -/
def choose (i : PathId) (c : Choice) (slot : Slot) : Command := slot.fill i (slot.axis.selector c)

/-- The path `i` is there to make the call on, and the argument beside the slot is a selector of its
axis. -/
def Fits (i : PathId) (w : Workspace) : Slot → Prop
  | start => True
  | mark _ => ∃ r, w.paths[i]? = some r
  | predicates kind other =>
    (∃ r, w.paths[i]? = some r) ∧ ∃ c, other.choice? kind.secondAxis = some c
  | second _ other => (∃ r, w.paths[i]? = some r) ∧ ∃ p, other.predicates? = some p

/-- The segment of the call with a text in the slot. -/
def segment (text : String) : Slot → String
  | start => "g.V(" ++ text ++ ")"
  | mark kind => kind.word ++ "(" ++ text ++ ")"
  | predicates kind other => kind.word ++ "(" ++ arguments text other.written ++ ")"
  | second kind other => kind.word ++ "(" ++ arguments other.written text ++ ")"

/-- The text in a slot can be read off the segment. -/
theorem segment_inj {slot : Slot} {a b : String} (ha : a ≠ "null") (hb : b ≠ "null") :
    slot.segment a = slot.segment b ↔ a = b := by
  cases slot with
  | start => exact brackets_inj "g.V("
  | mark kind => exact brackets_inj (kind.word ++ "(")
  | predicates kind other =>
      exact (brackets_inj (kind.word ++ "(")).trans (arguments_left_inj ha hb)
  | second kind other => exact (brackets_inj (kind.word ++ "(")).trans arguments_right_inj

end Slot

/-- The segment that a command renders: the last one of the path that it gives back, or the one that
is refused because the path is finalized. -/
def Command.rendered? (c : Command) (w : Workspace) : Option String :=
  match c.run w with
  | (.ok (.path j), v) => v.paths[j]?.map fun p ↦ p.traversal.lastSegment
  | (.error (.finalized (.text segment)), _) => some segment
  | _ => none

namespace Command

open GraphQuery.Action

variable {w : Workspace} {i : PathId} {r : Path} {call : Build} {next : Traversal}
  {brought : List PathId}

/-- What a builder call has to add to a path it renders, whether the path is finalized or not. -/
theorem rendered?_build_of_adds (hr : w.paths[i]? = some r) (h : call.Adds w r next brought) :
    (build i call).rendered? w = some next.lastSegment := by
  rw [rendered?]
  cases hfinal : r.isFinalized with
  | true =>
      obtain ⟨v, _, hrun⟩ := exists_run_build_of_finalized hr hfinal h
      rw [hrun]
  | false =>
      obtain ⟨v, hrun⟩ := exists_run_build_of_open hr hfinal h
      rw [hrun]
      dsimp only
      rw [getElem?_setIfInBounds_of_some hr]
      rfl

theorem rendered?_startVertices {v : Value} {c : Choice} (h : v.choice? .node = some c) :
    (startVertices v).rendered? w = some ("g.V(" ++ c.text ++ ")") := by
  have hrun : (startVertices v).run w =
      (.ok (.path w.paths.size), { w with paths := w.paths.push (.vertices c) }) := by
    change (do return Value.path (← Action.startVertices v) : Action Value).on w = _
    rw [on_bind_pure, Action.startVertices, on_bind_of_ok (on_expectChoice h)]
    rfl
  rw [rendered?, hrun]
  dsimp only
  rw [Array.getElem?_push_size]
  rfl

end Command

namespace Slot

open Command

variable {slot : Slot} {i : PathId} {w : Workspace} {s : Selector}

/-- A selector of the axis of a slot makes the call render a segment with its text. -/
theorem rendered?_fill (hfits : slot.Fits i w) (hs : s.axis = slot.axis) :
    (slot.fill i s).rendered? w = some (slot.segment s.text) := by
  cases slot with
  | start =>
      obtain ⟨c, hc, htext⟩ := Selector.exists_choice? hs nofun
      rw [htext]
      exact rendered?_startVertices hc
  | mark kind =>
      obtain ⟨r, hr⟩ := hfits
      obtain ⟨c, hc, htext⟩ := Selector.exists_choice? hs (by cases kind <;> nofun)
      rw [htext]
      exact rendered?_build_of_adds hr (.mark hc)
  | predicates kind other =>
      obtain ⟨⟨r, hr⟩, c, hc⟩ := hfits
      obtain ⟨p, rfl⟩ := Selector.exists_predicates hs
      rw [segment, Value.written_of_choice? hc]
      cases p with
      | named choice => exact rendered?_build_of_adds hr (.named rfl hc)
      | found path => exact rendered?_build_of_adds hr (.found rfl hc)
  | second kind other =>
      obtain ⟨⟨r, hr⟩, p, hp⟩ := hfits
      obtain ⟨c, hc, htext⟩ := Selector.exists_choice? hs (by cases kind <;> nofun)
      rw [segment, Value.written_of_predicates? hp, htext]
      cases p with
      | named choice => exact rendered?_build_of_adds hr (.named hp hc)
      | found path => exact rendered?_build_of_adds hr (.found hp hc)

/-- Two choices are rendered alike exactly if they have the same names. -/
theorem rendered?_choose_eq_iff (hfits : slot.Fits i w) (c d : Choice) :
    (slot.choose i c).rendered? w = (slot.choose i d).rendered? w ↔ c.names = d.names := by
  rw [choose, choose, rendered?_fill hfits (Axis.axis_selector _ _),
    rendered?_fill hfits (Axis.axis_selector _ _), Option.some.injEq,
    segment_inj (Selector.text_ne_null _) (Selector.text_ne_null _), Axis.text_selector,
    Axis.text_selector, c.text_eq, d.text_eq, Script.quoteList_inj]

/-- What becomes of lists of names.  In every slot that fits, whatever is beside it, any choice is
rendered; a list is rendered like no choice exactly if it is empty, and two lists are rendered alike
exactly if they are equal. -/
theorem rendered?_of_lists (hfits : slot.Fits i w) :
    (∀ c, ∃ segment, (slot.choose i c).rendered? w = some segment) ∧
    (∀ names, (slot.choose i (.many names)).rendered? w = (slot.choose i .any).rendered? w ↔
      names = []) ∧
    ∀ names others, (slot.choose i (.many names)).rendered? w =
      (slot.choose i (.many others)).rendered? w ↔ names = others := by
  refine ⟨fun c ↦ ?_, fun names ↦ ?_, fun names others ↦ ?_⟩
  · exact ⟨_, rendered?_fill hfits (Axis.axis_selector _ c)⟩
  · exact rendered?_choose_eq_iff hfits (.many names) .any
  · exact rendered?_choose_eq_iff hfits (.many names) (.many others)

/-- A path at every vertex. -/
def everywhere : Workspace := ((Command.startVertices (.selector (.nodes .any))).run .empty).2

/-- It goes along the edges of a list otherwise than along all edges. -/
theorem rendered?_of_everywhere :
    let slot : Slot := .predicates .out (.selector (.tags (.one "t")))
    (slot.choose 0 (.many ["a"])).rendered? everywhere ≠
      (slot.choose 0 .any).rendered? everywhere := by
  intro slot
  have hfits : slot.Fits 0 everywhere := ⟨⟨_, rfl⟩, .one "t", rfl⟩
  exact fun h ↦ List.cons_ne_nil _ _ (((rendered?_of_lists hfits).2.1 ["a"]).1 h)

/-- A path that starts at the vertices of an empty list starts at every vertex. -/
theorem not_forall_rendered?_ne : ¬ ∀ (slot : Slot) (i : PathId) (w : Workspace), slot.Fits i w →
    (∀ names, (slot.choose i (.many names)).rendered? w ≠ (slot.choose i .any).rendered? w) ∧
    ∀ names others, (slot.choose i (.many names)).rendered? w =
      (slot.choose i (.many others)).rendered? w → names = others := by
  intro h
  have hany : (start.choose 0 .any).rendered? .empty = some "g.V()" := rfl
  have hempty : (start.choose 0 (.many [])).rendered? .empty = some "g.V()" := rfl
  exact (h .start 0 .empty trivial).1 [] (hempty.trans hany.symm)

end Slot

end GraphQuery
