import GraphQuery.Proofs.Script.Reference
import GraphQuery.Proofs.Segments

/-!
# Names that are accepted

Three calls give a name: starting a morphism, asking for its statement under another name, and
storing it under another name.  All of them look at the name alike, and what they accept is an
identifier that is not reserved, or one with a line break behind it, reserved or not
(`Identifier.Accepts`).  So no other name stands in a statement or is followed by a path
(`Run.takes_iff_accepts`), but the line break lets names pass that are written like the graph object
itself (`Identifier.not_forall_takes_iff`).
-/

namespace GraphQuery

open Work

namespace Identifier

/-! ## Identifiers -/

/-- A letter of ASCII. -/
def IsLetter (c : Char) : Prop := 'A' ≤ c ∧ c ≤ 'Z' ∨ 'a' ≤ c ∧ c ≤ 'z'

/-- A digit of ASCII. -/
def IsDigit (c : Char) : Prop := '0' ≤ c ∧ c ≤ '9'

/-- A text is an identifier. -/
structure IsName (n : String) : Prop where
  nonempty : n ≠ ""
  /-- It consists of letters, digits and two characters more. -/
  chars : ∀ c ∈ n.toList, IsLetter c ∨ IsDigit c ∨ c = '_' ∨ c = '$'
  /-- It does not start with a digit. -/
  first : ∀ c ∈ n.toList.head?, ¬IsDigit c

/-- What is accepted as a name: an identifier, with or without a line break behind it, as long as
the whole is not a reserved word. -/
def Accepts (n : String) : Prop := (∃ m, IsName m ∧ (n = m ∨ n = m ++ "\n")) ∧ n ∉ reserved

theorem isAlpha_iff {c : Char} : c.isAlpha = true ↔ IsLetter c := by
  have hsame : c.isAlpha = (decide ('A' ≤ c ∧ c ≤ 'Z') || decide ('a' ≤ c) && decide (c ≤ 'z')) :=
    rfl
  simp only [hsame, Bool.or_eq_true, Bool.and_eq_true, decide_eq_true_eq, IsLetter]

theorem isDigit_iff {c : Char} : c.isDigit = true ↔ IsDigit c := by
  simp only [Char.isDigit, Bool.and_eq_true, decide_eq_true_eq]
  rfl

theorem isStart_iff {c : Char} : isStart c = true ↔ IsLetter c ∨ c = '_' ∨ c = '$' := by
  simp only [isStart, Bool.or_eq_true, decide_eq_true_eq, isAlpha_iff, or_assoc]

theorem isPart_iff {c : Char} :
    isPart c = true ↔ IsLetter c ∨ IsDigit c ∨ c = '_' ∨ c = '$' := by
  rw [isPart, Bool.or_eq_true, isStart_iff, isDigit_iff, or_assoc, or_comm (b := IsDigit c)]

/-- No digit starts an identifier. -/
theorem isStart_iff_isPart {c : Char} : isStart c = true ↔ isPart c = true ∧ ¬IsDigit c := by
  rw [isPart, Bool.or_eq_true, isDigit_iff]
  constructor
  · intro h
    refine ⟨.inl h, fun hdigit ↦ ?_⟩
    obtain ⟨hlow, hhigh⟩ := hdigit
    rcases isStart_iff.1 h with (⟨h, _⟩ | ⟨h, _⟩) | rfl | rfl
    · exact absurd (Char.le_trans h hhigh) (by decide)
    · exact absurd (Char.le_trans h hhigh) (by decide)
    · exact absurd hhigh (by decide)
    · exact absurd hlow (by decide)
  · exact fun h ↦ h.1.resolve_right h.2

theorem isIdentifier_iff {n : String} : isIdentifier n.toList = true ↔ IsName n := by
  constructor
  · intro h
    cases hn : n.toList with
    | nil =>
        rw [hn] at h
        cases h
    | cons c cs =>
        rw [hn, isIdentifier, Bool.and_eq_true, isStart_iff_isPart, List.all_eq_true] at h
        obtain ⟨⟨hc, hdigit⟩, hcs⟩ := h
        have hparts : ∀ d ∈ c :: cs, isPart d = true := List.forall_mem_cons.2 ⟨hc, hcs⟩
        refine ⟨?_, ?_, ?_⟩
        · rintro rfl
          cases hn
        · rw [hn]
          exact fun d hd ↦ isPart_iff.1 (hparts d hd)
        · rw [hn]
          intro d hd
          obtain rfl := Option.some.inj hd
          exact hdigit
  · intro h
    cases hn : n.toList with
    | nil => exact absurd (String.toList_eq_nil_iff.1 hn) h.nonempty
    | cons c cs =>
        have hparts : ∀ d ∈ c :: cs, isPart d = true := fun d hd ↦
          isPart_iff.2 (h.chars d (hn ▸ hd))
        have hdigit : ¬IsDigit c := h.first c (by rw [hn]; rfl)
        rw [isIdentifier, Bool.and_eq_true, isStart_iff_isPart, List.all_eq_true]
        exact ⟨⟨hparts c List.mem_cons_self, hdigit⟩, (List.forall_mem_cons.1 hparts).2⟩

/-- A line break is no part of an identifier. -/
theorem IsName.getLast?_ne {n : String} (h : IsName n) : n.toList.getLast? ≠ some '\n' := by
  intro hlast
  have hpart := isPart_iff.2 (h.chars _ (List.mem_of_getLast? hlast))
  cases hpart

/-- One line break at the end of an identifier is overlooked. -/
theorem isIdentifier_dropLineBreak_iff {n : String} :
    isIdentifier (dropLineBreak n.toList) = true ↔ ∃ m, IsName m ∧ (n = m ∨ n = m ++ "\n") := by
  constructor
  · intro h
    unfold dropLineBreak at h
    split at h
    · rename_i hlast
      obtain ⟨cs, hcs⟩ := List.getLast?_eq_some_iff.1 hlast
      rw [hcs, List.dropLast_concat, ← String.toList_ofList (l := cs)] at h
      refine ⟨.ofList cs, isIdentifier_iff.1 h, .inr (String.toList_inj.1 ?_)⟩
      rw [hcs, String.toList_append, String.toList_ofList]
      rfl
    · exact ⟨n, isIdentifier_iff.1 h, .inl rfl⟩
  · rintro ⟨m, hm, rfl | rfl⟩
    · rw [dropLineBreak, if_neg hm.getLast?_ne]
      exact isIdentifier_iff.2 hm
    · have hbreak : (m ++ "\n").toList = m.toList ++ ['\n'] := String.toList_append
      rw [hbreak, dropLineBreak, if_pos List.getLast?_concat, List.dropLast_concat]
      exact isIdentifier_iff.2 hm

theorem check_eq_ok_iff {n : String} : check n = .ok n ↔ Accepts n := by
  rw [Accepts, ← isIdentifier_dropLineBreak_iff, check]
  cases isIdentifier (dropLineBreak n.toList)
  · simp
  · by_cases hn : n ∈ reserved <;> simp [hn]

end Identifier

/-! ## Calls that give a name -/

namespace Workspace

/-- Every call that gives the name `n` takes it. -/
structure Takes (w : Workspace) (n : String) : Prop where
  /-- A morphism of that name is started. -/
  start : (Command.startMorphism (.text n)).run w =
    (.ok (.path w.paths.size), { w with paths := w.paths.push (.morphism n) })
  /-- The statement of a morphism under that name depends on its body only. -/
  statementAs : ∀ i p l, w.paths[i]? = some p → p.label = some l →
    (Command.inspect i (.statementAs (.text n))).run w = ((p.statement l.name n).map .text, w)
  /-- A store is consulted with that statement. -/
  saveAs : ∀ g i p l, w.paths[i]? = some p → p.label = some l →
    (Command.saveAs g i (.text n)).run w =
      (Action.consult g p (p.statement l.name n) >>=
        (Errand.saveAs i (.text n)).conclude l).on w

/-- Every call that gives the name `n` fails with the error `e` and does nothing. -/
structure TurnsDown (w : Workspace) (n : String) (e : Error) : Prop where
  start : (Command.startMorphism (.text n)).run w = (.error e, w)
  statementAs : ∀ i l, w.label? i = some l →
    (Command.inspect i (.statementAs (.text n))).run w = (.error e, w)
  saveAs : ∀ g i l, w.label? i = some l →
    (Command.saveAs g i (.text n)).run w = (.error e, w)

end Workspace

/-- A statement that a command answers with, or that it hands to a store. -/
inductive Command.States (w : Workspace) (t : String) : Command → Prop
  | own {i : PathId} : ((inspect i .statement).run w).1 = .ok (.text t) →
      States w t (.inspect i .statement)
  | other {i : PathId} {v : Value} : ((inspect i (.statementAs v)).run w).1 = .ok (.text t) →
      States w t (.inspect i (.statementAs v))
  | save {g : StoreId} {i : PathId} : (Command.save g i).Hands w g t → States w t (.save g i)
  | saveAs {g : StoreId} {i : PathId} {v : Value} : (Command.saveAs g i v).Hands w g t →
      States w t (.saveAs g i v)

namespace Workspace

open GraphQuery.Action Errand

variable {w : Workspace} {n : String}

/-- What the check of names accepts is taken everywhere. -/
theorem takes_of_check (hn : Identifier.check n = .ok n) : w.Takes n where
  start := by
    have hname : (expectName (.text n)).on w = (.ok n, w) :=
      (on_ofResult (Identifier.check n) w).trans (by rw [hn])
    change (startMorphism (.text n) >>= fun i ↦ pure (Value.path i)).on w = _
    rw [startMorphism, bind_assoc, on_bind_of_ok hname]
    rfl
  statementAs i p l hp hl := by
    change (Inspection.answer i (.statementAs (.text n))).on w = _
    rw [Inspection.answer, on_bind_of_ok (on_getPath_of_some hp),
      on_bind_of_ok (on_expectLabel hp hl), on_bind, on_statementAs hp hn]
    cases p.statement l.name n <;> rfl
  saveAs g i p l hp hl := Errand.run_of_assigns (.other hp hl hn) hn

/-- What the check of names refuses is turned down everywhere. -/
theorem turnsDown_of_misnames {e : Error} (he : w.Misnames (.text n) e) : w.TurnsDown n e where
  start := by
    change (startMorphism (.text n) >>= fun i ↦ pure (Value.path i)).on w = _
    rw [startMorphism, bind_assoc, on_bind_of_error (on_expectName_of_misnames he)]
  statementAs i l hl := by
    obtain ⟨p, hp, hlabel⟩ := exists_of_label? hl
    change (Inspection.answer i (.statementAs (.text n))).on w = _
    rw [Inspection.answer, on_bind_of_ok (on_getPath_of_some hp),
      on_bind_of_ok (on_expectLabel hp hlabel)]
    exact on_bind_of_error (on_statementAs_of_misnames he i l) _
  saveAs g i l hl := run_saveAs_of_misnames hl he

/-- A text is taken as a name by all calls or turned down by all of them. -/
theorem takes_or_turnsDown (w : Workspace) (n : String) : Identifier.Accepts n ∧ w.Takes n ∨
    ¬Identifier.Accepts n ∧ ∃ e, w.Misnames (.text n) e ∧ w.TurnsDown n e := by
  rw [← Identifier.check_eq_ok_iff]
  obtain ⟨m, hm, hcheck⟩ | ⟨e, he⟩ := misnames_or_check (w := w) (.text n)
  · cases hm
    exact .inl ⟨hcheck, takes_of_check hcheck⟩
  · refine .inr ⟨fun hcheck ↦ ?_, e, he, turnsDown_of_misnames he⟩
    cases he with
    | notIdentifier h => simp [Identifier.check, h] at hcheck
    | reserved h hreserved => simp [Identifier.check, h, hreserved] at hcheck
    | noText h _ => exact h n rfl
    | unshowable h _ => exact h n rfl

/-- What is turned down is not taken. -/
theorem TurnsDown.not_takes {e : Error} (h : w.TurnsDown n e) : ¬w.Takes n := by
  intro htakes
  have hrun := h.start.symm.trans htakes.start
  cases hrun

end Workspace

/-! ## Statements and references -/

namespace Action

variable {w u : Workspace} {i : PathId} {l : Label} {v : Value} {t : String}

/-- A statement gives the query of a path to a name that is accepted. -/
theorem exists_of_statementAs_eq_ok (h : (statementAs i l v).on w = (.ok t, u)) :
    ∃ n body p, t = n ++ " = " ++ body ∧ Identifier.Accepts n ∧ w.paths[i]? = some p ∧
      p.compile = .ok body := by
  obtain ⟨n, w₁, hn, h₁⟩ := on_bind_eq_ok.1 h
  obtain ⟨⟨s, _, hcheck⟩, _⟩ := expectName_eq_ok hn
  obtain rfl := (Keeps.expectName v).eq_of_on hn
  obtain rfl := Identifier.eq_of_check hcheck
  obtain ⟨p, _, hp, h₂⟩ := on_bind_eq_ok.1 h₁
  have hstatement := ofResult_eq_ok h₂
  cases hbody : p.compile with
  | ok body =>
      rw [Path.statement_of_compile_eq_ok hbody] at hstatement
      exact ⟨n, body, p, (Except.ok.inj hstatement).symm, Identifier.check_eq_ok_iff.1 hcheck,
        (on_getPath_eq_ok.1 hp).1, hbody⟩
  | error e =>
      rw [Path.statement_of_compile_eq_error hbody] at hstatement
      cases hstatement

/-- An inspection that writes a statement answers with one. -/
theorem exists_of_answer_eq_ok {label : Action Label} (hlabel : Keeps id label)
    {name : Label → Value} (h : ((getPath i >>= fun _ ↦ label >>= fun l ↦
      statementAs i l (name l) >>= fun t ↦ pure (Value.text t)).on w).1 = .ok (.text t)) :
    ∃ n body p, t = n ++ " = " ++ body ∧ Identifier.Accepts n ∧ w.paths[i]? = some p ∧
      p.compile = .ok body := by
  obtain ⟨_, _, hp, h₁⟩ := on_bind_eq_ok.1 (Prod.ext h rfl)
  obtain ⟨l, _, hl, h₂⟩ := on_bind_eq_ok.1 h₁
  obtain ⟨_, _, hstatement, h₃⟩ := on_bind_eq_ok.1 h₂
  cases h₃
  rw [hlabel.eq_of_on hl, (on_getPath_eq_ok.1 hp).2] at hstatement
  exact exists_of_statementAs_eq_ok hstatement

end Action

namespace Run

open GraphQuery.Action

variable {es : List Event} {w : Workspace}

/-- In every statement a name that is accepted is given the query of a path. -/
theorem exists_of_states (h : Run es w) {c : Command} {t : String} (ht : c.States w t) :
    ∃ n body p, t = n ++ " = " ++ body ∧ Identifier.Accepts n ∧ Seen es w p ∧
      p.compile = .ok body := by
  have hsent {g : StoreId} {r : Errand} (hr : ∀ i, r ≠ .find i)
      (hhands : (r.command g).Hands w g t) :
      ∃ n body p, t = n ++ " = " ++ body ∧ Identifier.Accepts n ∧ Seen es w p ∧
        p.compile = .ok body := by
    cases h.admits_of_hands hhands with
    | query => exact absurd rfl (hr _)
    | @statement _ p _ n body ha hc _ =>
        exact ⟨n, body, p, rfl, Identifier.check_eq_ok_iff.1 (h.check_of_assigns ha),
          seen_of_getElem? ha.getElem?, hc⟩
  have hanswer {i : PathId} (hok : ∃ n body p, t = n ++ " = " ++ body ∧ Identifier.Accepts n ∧
      w.paths[i]? = some p ∧ p.compile = .ok body) : ∃ n body p, t = n ++ " = " ++ body ∧
        Identifier.Accepts n ∧ Seen es w p ∧ p.compile = .ok body := by
    obtain ⟨n, body, p, ht, hn, hp, hc⟩ := hok
    exact ⟨n, body, p, ht, hn, seen_of_getElem? hp, hc⟩
  cases ht with
  | own hok => exact hanswer (exists_of_answer_eq_ok (Keeps.expectLabel _ _) hok)
  | other hok => exact hanswer (exists_of_answer_eq_ok (Keeps.expectLabel _ _) hok)
  | save hhands => exact hsent (r := .save _) (fun _ h ↦ nomatch h) hhands
  | saveAs hhands => exact hsent (r := .saveAs _ _) (fun _ h ↦ nomatch h) hhands

theorem exists_name_of_states (h : Run es w) {c : Command} {t : String} (ht : c.States w t) :
    ∃ n body, t = n ++ " = " ++ body ∧ Identifier.Accepts n := by
  obtain ⟨n, body, p, ht, hn, -⟩ := h.exists_of_states ht
  exact ⟨n, body, ht, hn⟩

/-- The names that the segments of a path refer to are names that are accepted. -/
theorem accepts_of_mem_references (h : Run es w) {p : Path} (hp : Seen es w p) {s n : String}
    (hs : s ∈ p.segments) (hn : n ∈ Script.references s) : Identifier.Accepts n := by
  have hreference := Traversal.mem_references_of_mem_segments (h.isWord_of_mem_references hp) hs hn
  exact Identifier.check_eq_ok_iff.1 (h.check_of_mem_references hp hreference)

/-- Names are accepted by all calls alike: exactly the identifiers that are not reserved, and
whatever is an identifier with a line break behind it.  No other name stands at the head of a
statement, and none is referred to by a segment of a path. -/
theorem takes_iff_accepts (h : Run es w) :
    (∀ n, w.Takes n ↔ Identifier.Accepts n) ∧
    (∀ n, (∃ e, w.Misnames (.text n) e ∧ w.TurnsDown n e) ↔ ¬Identifier.Accepts n) ∧
    (∀ (c : Command) t, c.States w t → ∃ n body, t = n ++ " = " ++ body ∧ Identifier.Accepts n) ∧
    ∀ p, Seen es w p → ∀ s ∈ p.segments, ∀ n ∈ Script.references s, Identifier.Accepts n := by
  refine ⟨fun n ↦ ?_, fun n ↦ ?_, fun c t ↦ h.exists_name_of_states,
    fun p hp s hs n ↦ h.accepts_of_mem_references hp hs⟩
  · rcases w.takes_or_turnsDown n with ⟨haccepts, htakes⟩ | ⟨hnot, e, _, he⟩
    · exact iff_of_true htakes haccepts
    · exact iff_of_false he.not_takes hnot
  · rcases w.takes_or_turnsDown n with ⟨haccepts, htakes⟩ | ⟨hnot, hturned⟩
    · exact iff_of_false (fun ⟨_, _, he⟩ ↦ he.not_takes htakes) (not_not_intro haccepts)
    · exact iff_of_true hturned hnot

/-- A morphism is called like the graph object, but for a line break, and followed by a query. -/
def graphWithLineBreak : List Command := [
  .startMorphism (.text "g\n"),
  .startVertices (.selector (.nodes .any)),
  .build 1 (.follow .forward (.path 0))]

/-- Its statement gives its body to the graph object. -/
theorem accepts_of_graphWithLineBreak :
    let w := (Command.runAll graphWithLineBreak .empty).2
    (Command.inspect 0 .statement).States w "g\n = g.M()" ∧
      ∃ n body, "g\n = g.M()" = n ++ " = " ++ body ∧ Identifier.Accepts n := by
  have hrun := Run.start.append_history graphWithLineBreak
    (by simp [graphWithLineBreak, Command.snapshot?, Build.snapshot?])
  have hstates : (Command.inspect 0 .statement).States
      (Command.runAll graphWithLineBreak .empty).2 "g\n = g.M()" := .own rfl
  exact ⟨hstates, (takes_iff_accepts hrun).2.2.1 _ _ hstates⟩

end Run

/-- Not all that is taken as a name is an identifier that is not reserved: the graph object with a
line break behind it is taken, too. -/
theorem Identifier.not_forall_takes_iff :
    ¬∀ n, Workspace.empty.Takes n ↔ IsName n ∧ n ∉ reserved := by
  intro h
  have htakes : Workspace.empty.Takes "g\n" := Workspace.takes_of_check rfl
  exact ((h "g\n").1 htakes).1.getLast?_ne (by decide +kernel)

end GraphQuery
