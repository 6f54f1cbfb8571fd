import GraphQuery.Proofs.Failure
import GraphQuery.Proofs.Run
import GraphQuery.Proofs.Script.Parser

/-!
# The segments of a path

A path starts with its root, grows by one segment with every builder call that succeeds, and is
closed for good by a terminal call.  That a path is finalized is read off its last call, so what has
to be shown is that the texts of the segments tell the same: no other segment is written like that
of a terminal call (`Call.isTerminalText_iff`), because the word before the first bracket of a
segment is the name of its call.

* `Path.IsOrderly` says how the segments of a path of a run are at any time;
* `Event.Begins` says how a path of a run begins;
* `Event.Carries` says what an event makes of a path that was there before it.

`Run.segments_of_paths` puts them together, and with them that nothing is changed of a path any more
once it is finalized.
-/

namespace GraphQuery

open Work

/-! ## Segments of terminal calls -/

/-- A segment is written like that of a terminal call. -/
def IsTerminalText (segment : String) : Prop := ∃ terminal : Terminal, segment = terminal.text

namespace Script

/-- Whether a call is a terminal one. -/
def Verb.isFinish : Verb → Bool
  | finish _ => true
  | _ => false

/-- The name of a call tells whether it is a terminal one. -/
theorem Verb.isFinish_eq_of_word {verb other : Verb} (h : verb.word.toList = other.word.toList) :
    verb.isFinish = other.isFinish := by
  have hfinish : ∀ v : Verb, v.limitless.isFinish = v.isFinish := by
    intro v
    cases v with
    | finish terminal => cases terminal <;> rfl
    | _ => rfl
  have hfound := verb?_word verb
  rw [h, verb?_word other] at hfound
  rw [← hfinish verb, ← hfinish other, Option.some.inj hfound]

/-- What stands before the first bracket of a segment. -/
theorem takeWhile_of_isWord {word : List Char} (hword : IsWord word) (rest : List Char) :
    (word ++ '(' :: rest).takeWhile (fun c ↦ c ≠ '(') = word := by
  have hne : ∀ c ∈ word, decide (c ≠ '(') = true := by
    intro c hc
    apply decide_eq_true
    rintro rfl
    have hbracket := hword _ hc
    cases hbracket
  rw [List.takeWhile_append_of_pos hne, List.takeWhile_cons_of_neg (by simp), List.append_nil]

/-- Only a segment that begins with the name of a terminal call is written like that of one. -/
theorem isFinish_of_isTerminalText {segment : String} {verb : Verb} {rest : List Char}
    (hsegment : segment.toList = verb.word.toList ++ '(' :: rest) (h : IsTerminalText segment) :
    verb.isFinish = true := by
  obtain ⟨terminal, rfl⟩ := h
  have hword : verb.word.toList = (Verb.finish terminal).word.toList := by
    rw [← takeWhile_of_isWord (isWord_verb verb) rest, ← hsegment, Traversal.toList_terminal,
      ← takeWhile_of_isWord (isWord_verb (.finish terminal)) (terminal.operand ++ [')'])]
    rfl
  exact Verb.isFinish_eq_of_word hword

end Script

open Script (Verb)

/-- The name of a call. -/
def Call.verb : Call → Verb
  | edge kind _ _ => .edge kind
  | mark kind _ => .mark kind
  | follow direction _ => .follow direction
  | finish terminal => .finish terminal

/-- The name of a call around an inner traversal. -/
def NestCall.verb : NestCall → Verb
  | edge kind _ => .edge kind
  | join kind => .join kind

/-- The segment of a call begins with the name of the call. -/
theorem Call.exists_toList_text (c : Call) :
    ∃ rest, c.text.toList = c.verb.word.toList ++ '(' :: rest := by
  have hopen : "(".toList = ['('] := rfl
  cases c with
  | finish terminal => exact ⟨_, Traversal.toList_terminal terminal⟩
  | _ =>
      simp only [Call.text, Call.verb, Verb.word, String.toList_append, hopen, List.append_assoc,
        List.singleton_append]
      exact ⟨_, rfl⟩

theorem NestCall.exists_toList_text (c : NestCall) (inner : String) :
    ∃ rest, (c.text inner).toList = c.verb.word.toList ++ '(' :: rest := by
  have hopen : "(".toList = ['('] := rfl
  cases c <;>
    simp only [NestCall.text, NestCall.verb, Verb.word, String.toList_append, hopen,
      List.append_assoc, List.singleton_append] <;>
    exact ⟨_, rfl⟩

/-- Terminal calls, and no others, are written like terminal calls. -/
theorem Call.isTerminalText_iff (c : Call) : IsTerminalText c.text ↔ c.isTerminal = true := by
  constructor
  · intro h
    obtain ⟨rest, hrest⟩ := c.exists_toList_text
    have hfinish := Script.isFinish_of_isTerminalText hrest h
    cases c with
    | finish terminal => rfl
    | _ => cases hfinish
  · intro h
    cases c with
    | finish terminal => exact ⟨terminal, rfl⟩
    | _ => cases h

theorem NestCall.not_isTerminalText (c : NestCall) (inner : String) :
    ¬IsTerminalText (c.text inner) := by
  intro h
  obtain ⟨rest, hrest⟩ := c.exists_toList_text inner
  have hfinish := Script.isFinish_of_isTerminalText hrest h
  cases c <;> cases hfinish

/-- A root is written with a small letter first. -/
theorem Root.head?_toList_text (r : Root) : r.text.toList.head? = some 'g' := by
  cases r with
  | vertices nodes =>
      have hstart : "g.V(".toList = ['g', '.', 'V', '('] := rfl
      simp [Root.text, hstart]
  | fragment => rfl

theorem Root.not_isTerminalText (r : Root) : ¬IsTerminalText r.text := by
  rintro ⟨terminal, h⟩
  have hroot := r.head?_toList_text
  rw [h, Traversal.toList_terminal] at hroot
  cases terminal <;> simp [Terminal.word] at hroot

namespace Traversal

/-- A traversal is finalized exactly if its last segment is written like a terminal call. -/
theorem isFinalized_iff (t : Traversal) :
    t.isFinalized = true ↔ ∃ s, t.segments.getLast? = some s ∧ IsTerminalText s := by
  have hlast : (∃ s, t.segments.getLast? = some s ∧ IsTerminalText s) ↔
      IsTerminalText t.lastSegment := by
    simp [getLast?_segments]
  rw [hlast]
  cases t with
  | start r => exact iff_of_false Bool.false_ne_true r.not_isTerminalText
  | call before c => exact c.isTerminalText_iff.symm
  | nest before c inner => exact iff_of_false Bool.false_ne_true (c.not_isTerminalText _)

/-- The first segment is that of the root. -/
theorem head?_segments (t : Traversal) : t.segments.head? = some t.root.text := by
  induction t with
  | start r => rfl
  | call before c ih => simp [segments, root, List.head?_append, ih]
  | nest before c inner ih _ => simp [segments, root, List.head?_append, ih]

/-- No call comes after a terminal one. -/
def EndsOnce : Traversal → Prop
  | start _ => True
  | call before _ | nest before _ _ => before.isFinalized = false ∧ before.EndsOnce

/-- As long as a traversal is not finalized, its last segment is like those before it. -/
theorem not_isTerminalText_of_mem {t : Traversal} (hopen : t.isFinalized = false)
    (hinit : ∀ s ∈ t.segments.dropLast, ¬IsTerminalText s) :
    ∀ s ∈ t.segments, ¬IsTerminalText s := by
  intro s hs
  rw [← List.dropLast_concat_getLast t.segments_ne_nil, List.mem_append, List.mem_singleton] at hs
  rcases hs with hs | rfl
  · exact hinit s hs
  · intro hterminal
    have hfinal := t.isFinalized_iff.2 ⟨_, List.getLast?_eq_some_getLast _, hterminal⟩
    rw [hopen] at hfinal
    cases hfinal

/-- No segment before the last one is written like a terminal call. -/
theorem not_isTerminalText_of_mem_dropLast {t : Traversal} (h : t.EndsOnce) :
    ∀ s ∈ t.segments.dropLast, ¬IsTerminalText s := by
  induction t with
  | start r => simp [segments]
  | call before c ih =>
      rw [segments, List.dropLast_concat]
      exact not_isTerminalText_of_mem h.1 (ih h.2)
  | nest before c inner ih _ =>
      rw [segments, List.dropLast_concat]
      exact not_isTerminalText_of_mem h.1 (ih h.2)

end Traversal

/-! ## Paths at any time -/

namespace Path

/-- The segments of a path, root first. -/
def segments (p : Path) : List String := p.traversal.segments

/-- The problems of a path in the order of its calls. -/
def problems (p : Path) : List Problem := p.traversal.problems

/-- How the segments of a path are at any time. -/
structure IsOrderly (p : Path) : Prop where
  /-- There are segments, and the first of them is the root. -/
  root : p.segments.head? = some p.traversal.root.text
  /-- A path is finalized exactly if its last segment is written like a terminal call. -/
  finalized_iff : p.isFinalized = true ↔ ∃ s, p.segments.getLast? = some s ∧ IsTerminalText s
  /-- No other segment is written like a terminal call. -/
  inner : ∀ s ∈ p.segments.dropLast, ¬IsTerminalText s
  /-- A morphism is never finalized. -/
  morphism : p.label.isSome = true → p.isFinalized = false

end Path

namespace Build.Adds

variable {w : Workspace} {p : Path} {call : Build} {next : Traversal} {brought : List PathId}

/-- A builder call adds one segment. -/
theorem segments_eq (h : call.Adds w p next brought) :
    next.segments = p.segments ++ [next.lastSegment] := by
  cases h <;> rfl

theorem endsOnce (h : call.Adds w p next brought) (hopen : p.isFinalized = false)
    (hp : p.traversal.EndsOnce) : next.EndsOnce := by
  cases h <;> exact ⟨hopen, hp⟩

/-- A morphism is not finalized by a builder call. -/
theorem isFinalized_eq_false (h : call.Adds w p next brought) (hl : p.label.isSome = true) :
    next.isFinalized = false := by
  cases h with
  | finish hnone => rw [hnone] at hl; cases hl
  | limit hnone _ => rw [hnone] at hl; cases hl
  | _ => rfl

end Build.Adds

namespace Run

variable {es : List Event} {w : Workspace} {p : Path}

theorem endsOnce (h : Run es w) (hp : Seen es w p) : p.traversal.EndsOnce := by
  refine h.forall_seen (P := fun _ p ↦ p.traversal.EndsOnce) ?_ ?_ ?_ ?_ ?_ p hp
  · exact fun _ _ _ hp ↦ hp
  · exact fun _ _ ↦ trivial
  · exact fun _ _ _ ↦ trivial
  · exact fun _ _ hp ↦ hp
  · exact fun _ _ _ _ _ _ _ hp hopen hadds ↦ hadds.endsOnce hopen hp

/-- A morphism is never finalized. -/
theorem isFinalized_of_label (h : Run es w) (hp : Seen es w p) (hl : p.label.isSome = true) :
    p.isFinalized = false := by
  refine h.forall_seen (P := fun _ p ↦ p.label.isSome = true → p.isFinalized = false)
    ?_ ?_ ?_ ?_ ?_ p hp hl
  · exact fun _ _ _ hp ↦ hp
  · exact fun _ _ _ ↦ rfl
  · exact fun _ _ _ _ ↦ rfl
  · intro _ p hp hl
    rw [Path.markSaved, Option.isSome_map] at hl
    exact hp hl
  · exact fun _ _ _ _ _ _ _ _ _ hadds hl ↦ hadds.isFinalized_eq_false hl

theorem isOrderly (h : Run es w) (hp : Seen es w p) : p.IsOrderly where
  root := p.traversal.head?_segments
  finalized_iff := p.traversal.isFinalized_iff
  inner := Traversal.not_isTerminalText_of_mem_dropLast (h.endsOnce hp)
  morphism := h.isFinalized_of_label hp

end Run

/-! ## What becomes of a path -/

namespace Event

/-- A builder call on a path that succeeds. -/
def Extends (e : Event) (i : PathId) : Prop :=
  ∃ call v, e.command = .build i call ∧ e.outcome = .ok v

/-- How a new path begins: at vertices, as a morphism, or like the path that it is a copy of. -/
inductive Begins (e : Event) : Path → Prop
  | vertices {nodes : Value} {choice : Choice} : e.command = .startVertices nodes →
      nodes.choice? .node = some choice → Begins e (.vertices choice)
  | morphism {s n : String} : e.command = .startMorphism (.text s) →
      Identifier.check s = .ok n → Begins e (.morphism n)
  | copied {k : PathId} {p : Path} : e.command = .copy k → e.before.paths[k]? = some p →
      Begins e p

/-- What an event makes of a path that was `p` before it and is `q` after it. -/
structure Carries (e : Event) (i : PathId) (p q : Path) : Prop where
  /-- A builder call that succeeds puts one segment at the end. -/
  extended : e.Extends i → ∃ s, q.segments = p.segments ++ [s]
  /-- A builder call that fails, and anything else, leaves the path as it was, but for whether it
  counts as saved. -/
  kept : ¬e.Extends i → q.traversal = p.traversal ∧ q.followed = p.followed ∧
    q.label.map Label.name = p.label.map Label.name
  /-- On a finalized path every builder call fails, and nothing else changes it either. -/
  closed : p.isFinalized = true →
    (∀ call, e.command = .build i call → ∃ error, e.outcome = .error error) ∧ q = p

end Event

namespace Command

open GraphQuery.Action

variable {w : Workspace}

/-- What a builder call that succeeds has done. -/
theorem exists_adds_of_build_eq_ok {i : PathId} {call : Build} {v : Value}
    (h : ((Command.build i call).run w).1 = .ok v) :
    ∃ p next brought, w.paths[i]? = some p ∧ p.isFinalized = false ∧
      call.Adds w p next brought ∧ ((Command.build i call).run w).2.paths =
        w.paths.setIfInBounds i
          { p with traversal := next, followed := absorb p.followed brought } := by
  have hrun : ((Action.build i call >>= fun _ ↦ pure (Value.path i)).on w) =
      (.ok v, ((Command.build i call).run w).2) := Prod.ext h rfl
  obtain ⟨_, u, hbuild, hpure⟩ := on_bind_eq_ok.1 hrun
  rw [← (Prod.mk.inj hpure).2]
  obtain ⟨p, _, hp, hrest⟩ := on_bind_eq_ok.1 hbuild
  obtain ⟨hp, rfl⟩ := on_getPath_eq_ok.1 hp
  obtain ⟨q, t, hextend, hset⟩ := on_bind_eq_ok.1 hrest
  obtain ⟨next, brought, hadds, hopen, rfl⟩ := extend_eq_ok hextend
  refine ⟨p, next, brought, hp, hopen, hadds, ?_⟩
  rw [← (Prod.mk.inj hset).2, ← (keepsPaths_extend p call).state_eq hextend]

/-- A path that was not there before is one that the command started. -/
theorem begins_of_getElem?_eq_none {c : Command} {i : PathId} {q : Path}
    (hnone : w.paths[i]? = none) (hq : (c.run w).2.paths[i]? = some q) :
    (⟨w, c⟩ : Event).Begins q := by
  have heffect := effect_run w c
  generalize (c.run w).2.paths = paths at heffect hq
  have hold {r : Path} (hr : w.paths[i]? = some r) : (⟨w, c⟩ : Event).Begins q := by
    rw [hnone] at hr
    cases hr
  cases heffect with
  | kept => exact hold hq
  | vertices hchoice =>
      obtain ⟨_, rfl⟩ | hq := getElem?_push_eq_some hq
      · exact .vertices rfl hchoice
      · exact hold hq
  | morphism hn =>
      obtain ⟨_, rfl⟩ | hq := getElem?_push_eq_some hq
      · exact .morphism rfl hn
      · exact hold hq
  | copied hp =>
      obtain ⟨_, rfl⟩ | hq := getElem?_push_eq_some hq
      · exact .copied rfl hp
      · exact hold hq
  | built hp _ _ =>
      obtain ⟨rfl, _⟩ | hq := getElem?_setIfInBounds_eq_some hq
      · exact hold hp
      · exact hold hq
  | marked hp _ =>
      obtain ⟨rfl, _⟩ | hq := getElem?_setIfInBounds_eq_some hq
      · exact hold hp
      · exact hold hq
  | saved hp _ _ =>
      obtain ⟨rfl, _⟩ | hq := getElem?_setIfInBounds_eq_some hq
      · exact hold hp
      · exact hold hq

end Command

namespace Run

variable {es : List Event} {w : Workspace} {i : PathId} {p : Path}

/-- On a finalized path every builder call fails. -/
theorem exists_outcome_eq_error {e : Event} {call : Build} (hcall : e.command = .build i call)
    (hp : e.before.paths[i]? = some p) (hfinal : p.isFinalized = true) :
    ∃ error, e.outcome = .error error := by
  cases houtcome : e.outcome with
  | error error => exact ⟨error, rfl⟩
  | ok v =>
      rw [Event.outcome, hcall] at houtcome
      obtain ⟨p', _, _, hp', hopen, _, _⟩ := Command.exists_adds_of_build_eq_ok houtcome
      obtain rfl := Option.some.inj (hp.symm.trans hp')
      rw [hfinal] at hopen
      cases hopen

/-- What any command makes of a path of a run. -/
theorem exists_carries (h : Run es w) (c : Command) (hp : w.paths[i]? = some p) :
    ∃ q, (c.run w).2.paths[i]? = some q ∧ (⟨w, c⟩ : Event).Carries i p q := by
  obtain ⟨q, hq, horigin⟩ := Command.exists_of_getElem? (c := c) hp
  have hway := horigin.of_getElem? hp
  refine ⟨q, hq, ?_, ?_, ?_⟩
  · rintro ⟨call, v, hcall, hok⟩
    obtain rfl : c = .build i call := hcall
    obtain ⟨p', next, brought, hp', _, hadds, hpaths⟩ := Command.exists_adds_of_build_eq_ok hok
    obtain rfl := Option.some.inj (hp.symm.trans hp')
    rw [hpaths, Command.getElem?_setIfInBounds_of_some hp] at hq
    obtain rfl := Option.some.inj hq
    exact ⟨_, hadds.segments_eq⟩
  · intro hnot
    cases houtcome : (c.run w).1 with
    | error e =>
        rw [Command.paths_run_of_error houtcome, hp] at hq
        obtain rfl := Option.some.inj hq
        exact ⟨rfl, rfl, rfl⟩
    | ok v =>
        rcases hway with rfl | ⟨call, _, _, hcall, _⟩ | ⟨_, _, _, rfl⟩
        · exact ⟨rfl, rfl, rfl⟩
        · exact absurd ⟨call, v, hcall, houtcome⟩ hnot
        · exact ⟨rfl, rfl, by rw [Path.markSaved, Option.map_map]; rfl⟩
  · intro hfinal
    refine ⟨fun call hcall ↦ exists_outcome_eq_error hcall hp hfinal, ?_⟩
    rcases hway with rfl | ⟨_, _, _, _, hopen, _⟩ | ⟨l, hl, _, rfl⟩
    · rfl
    · rw [hfinal] at hopen
      cases hopen
    · have hopen := h.isFinalized_of_label (seen_of_getElem? hp) (by rw [hl]; rfl)
      rw [hfinal] at hopen
      cases hopen

/-- The segments that a path has at some moment are the first ones that it has ever after, and once
it is finalized nothing of it changes any more. -/
theorem exists_later {before after : List Event} {e : Event} (h : Run (before ++ e :: after) w)
    (hp : e.before.paths[i]? = some p) : ∃ q, w.paths[i]? = some q ∧ p.segments <+: q.segments ∧
      (p.isFinalized = true → q = p) := by
  have hstart : ∃ q, e.before.paths[i]? = some q ∧ p.segments <+: q.segments ∧
      (p.isFinalized = true → q = p) := ⟨p, hp, List.prefix_refl _, fun _ ↦ rfl⟩
  refine (h.forall_later (P := fun u ↦ ∃ q, u.paths[i]? = some q ∧ p.segments <+: q.segments ∧
    (p.isFinalized = true → q = p)) hstart ?_).1
  rintro d hd ⟨q, hq, hprefix, hsame⟩
  obtain ⟨earlier, hrun⟩ := h.exists_run_of_mem (List.mem_append_right before hd)
  obtain ⟨r, hr, hcarries⟩ := hrun.exists_carries d.command hq
  refine ⟨r, hr, ?_, ?_⟩
  · by_cases hext : d.Extends i
    · obtain ⟨s, hs⟩ := hcarries.extended hext
      rw [hs]
      exact hprefix.trans (List.prefix_append _ _)
    · have hsegments : r.segments = q.segments :=
        congrArg Traversal.segments (hcarries.kept hext).1
      rw [hsegments]
      exact hprefix
  · intro hfinal
    obtain rfl := hsame hfinal
    exact (hcarries.closed hfinal).2

/-- The life of a path.  At any time its segments are in order; it begins at its root or like the
path that it is a copy of; every event puts one segment at its end or none; and whatever segments it
has it keeps, and once it is finalized it stays as it is. -/
theorem segments_of_paths (h : Run es w) :
    (∀ (i : PathId) p, w.paths[i]? = some p → p.IsOrderly) ∧
    (∀ e ∈ es, ∀ (i : PathId) q, e.before.paths[i]? = none → e.after.paths[i]? = some q →
      e.Begins q) ∧
    (∀ e ∈ es, ∀ (i : PathId) p, e.before.paths[i]? = some p →
      ∃ q, e.after.paths[i]? = some q ∧ e.Carries i p q) ∧
    ∀ before e after, es = before ++ e :: after → ∀ (i : PathId) p,
      e.before.paths[i]? = some p → ∃ q, w.paths[i]? = some q ∧ p.segments <+: q.segments ∧
        (p.isFinalized = true → q = p) := by
  refine ⟨?_, ?_, ?_, ?_⟩
  · exact fun i p hp ↦ h.isOrderly (seen_of_getElem? hp)
  · exact fun e _ i q hnone hq ↦ Command.begins_of_getElem?_eq_none hnone hq
  · intro e he i p hp
    obtain ⟨before, hrun⟩ := h.exists_run_of_mem he
    exact hrun.exists_carries e.command hp
  · rintro before e after rfl i p hp
    exact h.exists_later hp

/-- A query that is finalized, copied, and then given one more call. -/
def callAfterTheEnd : List Command := [
  .startVertices (.selector (.nodes (.one "a"))),
  .build 0 (.edge .out (.selector (.predicates (.named (.one "b"))))
    (.selector (.tags .any))),
  .build 0 (.finish .all),
  .copy 0,
  .build 1 (.finish .value)]

/-- The copy is finalized like the query, and the late call adds nothing to it. -/
theorem segments_of_callAfterTheEnd :
    let w := (Command.runAll callAfterTheEnd .empty).2
    ∃ p, w.paths[1]? = some p ∧ p.IsOrderly ∧ p.isFinalized = true ∧
      p.segments = ["g.V(\"a\")", "Out(\"b\")", "All()"] := by
  have hrun := Run.start.append_history callAfterTheEnd
    (by simp [callAfterTheEnd, Command.snapshot?, Build.snapshot?, Value.predicates?,
      Selector.predicates?])
  exact ⟨_, rfl, (segments_of_paths hrun).1 1 _ rfl, rfl, rfl⟩

end Run

end GraphQuery
