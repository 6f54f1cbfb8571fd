import GraphQuery.Proofs.Json.Layout
import Mathlib.Data.List.Chain
import Mathlib.Data.List.TakeWhile

/-!
# How tokens are written

`Writes` says by a grammar what may be written for a token, and `IsWriting` what may be written for
several: one after the other, with blanks between them.  The tokens of a text are found without the
grammar, each as long as can be; that they are those of the grammar is said both ways.

* What is found was written for it (`exists_of_token`), and so is what is found one after the other
  (`exists_isWriting_of_tokensOf`).
* What was written for a token is found if no number goes on behind a number (`starts_of_writes`).
  This is so of tokens none of which are scalars next to each other (`tokensOf_append`).
-/

namespace GraphQuery.Json

/-! ## The grammar -/

/-- Whether a token is a value by itself. -/
def Token.isScalar : Token → Bool
  | null | bool _ | integer _ _ | decimal _ | text _ => true
  | _ => false

/-- Whether a token is an integer with more digits than are read. -/
def Token.isOverlong : Token → Bool
  | integer _ digits => Number.digitLimit < digits.length
  | _ => false

/-- Whether a token is found at all. -/
def Token.isFound : Token → Bool
  | brokenText _ _ | unknown => false
  | _ => true

/-- Digits, at least one of them. -/
def AreDigits (cs : List Char) : Prop := cs ≠ [] ∧ ∀ c ∈ cs, c.isDigit = true

/-- The digits of an integer: a zero, or digits that do not start with one. -/
def IsWhole (cs : List Char) : Prop := cs = ['0'] ∨ AreDigits cs ∧ cs.head? ≠ some '0'

/-- A fraction, or nothing. -/
inductive IsFraction : List Char → Prop
  | absent : IsFraction []
  | digits {ds : List Char} : AreDigits ds → IsFraction ('.' :: ds)

/-- An exponent, or nothing. -/
inductive IsExponent : List Char → Prop
  | absent : IsExponent []
  | digits {e : Char} {sign ds : List Char} : e = 'e' ∨ e = 'E' →
      sign = [] ∨ sign = ['+'] ∨ sign = ['-'] → AreDigits ds → IsExponent (e :: (sign ++ ds))

/-- What is written between quotation marks for code units. -/
inductive Denotes : List Char → List Nat → Prop
  | nil : Denotes [] []
  | plain {c : Char} {cs : List Char} {units : List Nat} : 0x20 ≤ c.toNat → c ≠ '"' → c ≠ '\\' →
      Denotes cs units → Denotes (c :: cs) (c.toNat :: units)
  | short {c : Char} {unit : Nat} {cs : List Char} {units : List Nat} :
      shortEscapeValue? c = some unit → Denotes cs units → Denotes ('\\' :: c :: cs) (unit :: units)
  | numeric {a b c d : Char} {unit : Nat} {cs : List Char} {units : List Nat} :
      hex4Value? a b c d = some unit → Denotes cs units →
      Denotes ('\\' :: 'u' :: a :: b :: c :: d :: cs) (unit :: units)

/-- The sign in front of a number. -/
def minus (negative : Bool) : List Char := if negative then ['-'] else []

/-- What is written for a token. -/
inductive Writes : List Char → Token → Prop
  | openObject : Writes ['\x7b'] .openObject
  | closeObject : Writes ['\x7d'] .closeObject
  | openArray : Writes ['['] .openArray
  | closeArray : Writes [']'] .closeArray
  | colon : Writes [':'] .colon
  | comma : Writes [','] .comma
  | word {cs : List Char} {t : Token} : (cs, t) ∈ words → Writes cs t
  | integer {negative : Bool} {digits : List Char} : IsWhole digits →
      Writes (minus negative ++ digits) (.integer negative digits)
  | decimal {negative : Bool} {digits fraction exponent : List Char} : IsWhole digits →
      IsFraction fraction → IsExponent exponent → fraction ++ exponent ≠ [] →
      Writes (minus negative ++ digits ++ fraction ++ exponent)
        (.decimal (minus negative ++ digits ++ fraction ++ exponent))
  | text {cs : List Char} {units : List Nat} : Denotes cs units →
      Writes ('"' :: (cs ++ ['"'])) (.text ⟨joinUnits units⟩)

/-- What is written for tokens, one after the other and with any gaps around them. -/
inductive IsWriting : List Char → List Token → Prop
  | nil {gap : List Char} : IsGap gap → IsWriting gap []
  | cons {gap word rest : List Char} {t : Token} {ts : List Token} : IsGap gap → Writes word t →
      IsWriting rest ts → IsWriting (gap ++ word ++ rest) (t :: ts)

/-- No number goes on in a text. -/
def Ended (cs : List Char) : Prop :=
  ∀ more after, cs = more ++ after → AreDigits more ∨ IsFraction more ∨ IsExponent more → more = []

/-! ## Texts in quotation marks -/

theorem Scan.push_eq_closed {unit : Nat} {s : Scan} {units : List Nat} {rest : List Char}
    (h : s.push unit = .closed units rest) :
    ∃ units', units = unit :: units' ∧ s = .closed units' rest := by
  cases s with
  | closed units' rest' =>
      cases h
      exact ⟨units', rfl, rfl⟩
  | broken _ _ => cases h
  | unclosed => cases h

/-- A text is read up to its closing mark as what is written there denotes. -/
theorem exists_denotes_of_scan {cs : List Char} {units : List Nat} {rest : List Char}
    (h : scan cs = .closed units rest) :
    ∃ body, cs = body ++ '"' :: rest ∧ Denotes body units := by
  fun_induction scan cs generalizing units rest with
  | case2 cs =>
      cases h
      exact ⟨[], rfl, .nil⟩
  | case5 a b c d cs unit hunit _ ih =>
      obtain ⟨units, rfl, hs⟩ := Scan.push_eq_closed h
      obtain ⟨body, rfl, hbody⟩ := ih hs
      exact ⟨_, rfl, .numeric hunit hbody⟩
  | case8 c cs _ _ unit hunit ih =>
      obtain ⟨units, rfl, hs⟩ := Scan.push_eq_closed h
      obtain ⟨body, rfl, hbody⟩ := ih hs
      exact ⟨_, rfl, .short hunit hbody⟩
  | case11 c cs hquote hnil _ _ hcons hc ih =>
      have hescape : c ≠ '\\' := by
        intro he
        cases cs with
        | nil => exact hnil he rfl
        | cons d cs => exact hcons d cs he rfl
      obtain ⟨units, rfl, hs⟩ := Scan.push_eq_closed h
      obtain ⟨body, rfl, hbody⟩ := ih hs
      exact ⟨_, rfl, .plain (Nat.not_lt.1 hc) hquote hescape hbody⟩
  | _ => cases h

theorem scan_of_denotes {body : List Char} {units : List Nat} (h : Denotes body units)
    (rest : List Char) : scan (body ++ '"' :: rest) = .closed units rest := by
  induction h with
  | nil => rfl
  | plain hc hquote hescape _ ih =>
      rw [List.cons_append, scan, if_neg (Nat.not_lt.2 hc), ih, Scan.push]
      all_goals grind
  | @short c _ _ _ hunit _ ih =>
      have hu : c ≠ 'u' := by
        rintro rfl
        cases hunit
      rw [List.cons_append, List.cons_append, scan, hunit]
      · simp only [ih, Scan.push]
      all_goals grind
  | numeric hunit _ ih =>
      simp only [List.cons_append]
      rw [scan, hunit]
      simp [ih, Scan.push]

/-! ## Numbers -/

/-- No digit comes next. -/
abbrev NoDigit (cs : List Char) : Prop := ∀ c ∈ cs.head?, c.isDigit = false

theorem splitDigits_append {ds rest : List Char} (hds : ∀ c ∈ ds, c.isDigit = true)
    (hrest : NoDigit rest) : splitDigits (ds ++ rest) = (ds, rest) := by
  rw [splitDigits, List.takeWhile_append_of_pos hds, List.dropWhile_append_of_pos hds]
  cases rest with
  | nil => simp
  | cons c rest =>
      have hc : c.isDigit = false := hrest c rfl
      simp [hc]

theorem eq_append_splitDigits (cs : List Char) : cs = (splitDigits cs).1 ++ (splitDigits cs).2 :=
  List.takeWhile_append_dropWhile.symm

theorem isDigit_of_mem_splitDigits {cs : List Char} {c : Char} (h : c ∈ (splitDigits cs).1) :
    c.isDigit = true := List.mem_takeWhile_imp h

theorem noDigit_splitDigits (cs : List Char) : NoDigit (splitDigits cs).2 := by
  intro c hc
  have := List.head?_dropWhile_not Char.isDigit cs
  rw [splitDigits] at hc
  rw [Option.mem_def.1 hc] at this
  simpa using this

/-- Where digits come first, they are split off. -/
theorem splitDigits_ne_nil {ds after : List Char} (h : AreDigits ds) :
    (splitDigits (ds ++ after)).1 ≠ [] := by
  obtain ⟨hne, hds⟩ := h
  rw [splitDigits, List.takeWhile_append_of_pos hds]
  exact List.append_ne_nil_of_left_ne_nil hne _

theorem AreDigits.exists_cons {ds : List Char} (h : AreDigits ds) :
    ∃ d rest, ds = d :: rest ∧ d.isDigit = true := by
  obtain ⟨hne, hds⟩ := h
  obtain ⟨d, rest, rfl⟩ := List.exists_cons_of_ne_nil hne
  exact ⟨d, rest, rfl, hds d List.mem_cons_self⟩

/-! ### What is split off -/

theorem splitFraction_eq (cs : List Char) :
    cs = (splitFraction cs).1 ++ (splitFraction cs).2 ∧ IsFraction (splitFraction cs).1 := by
  rw [splitFraction.eq_def]
  split
  · rename_i rest
    split
    · exact ⟨rfl, .absent⟩
    · rename_i hne
      refine ⟨congrArg ('.' :: ·) (eq_append_splitDigits rest), .digits ⟨?_, ?_⟩⟩
      · exact fun hnil ↦ hne (List.isEmpty_iff.2 hnil)
      · exact fun _ ↦ isDigit_of_mem_splitDigits
  · exact ⟨rfl, .absent⟩

theorem splitSign_eq (cs : List Char) : cs = (splitSign cs).1 ++ (splitSign cs).2 ∧
    ((splitSign cs).1 = [] ∨ (splitSign cs).1 = ['+'] ∨ (splitSign cs).1 = ['-']) := by
  rw [splitSign.eq_def]
  split
  · exact ⟨rfl, .inr (.inl rfl)⟩
  · exact ⟨rfl, .inr (.inr rfl)⟩
  · exact ⟨rfl, .inl rfl⟩

theorem splitExponent_eq (cs : List Char) :
    cs = (splitExponent cs).1 ++ (splitExponent cs).2 ∧ IsExponent (splitExponent cs).1 := by
  match cs with
  | [] => exact ⟨rfl, .absent⟩
  | e :: cs =>
      obtain ⟨hsign, hkind⟩ := splitSign_eq cs
      have hdigits := eq_append_splitDigits (splitSign cs).2
      rw [splitExponent]
      dsimp only
      split
      · rename_i h
        simp only [Bool.and_eq_true, Bool.or_eq_true, decide_eq_true_eq, Bool.not_eq_true',
          List.isEmpty_eq_false_iff] at h
        refine ⟨?_, .digits h.1 hkind ⟨h.2, fun _ ↦ isDigit_of_mem_splitDigits⟩⟩
        rw [List.cons_append, List.append_assoc, ← hdigits, ← hsign]
      · exact ⟨rfl, .absent⟩

theorem splitInteger?_eq_some {cs digits rest : List Char}
    (h : splitInteger? cs = some (digits, rest)) :
    cs = digits ++ rest ∧ IsWhole digits ∧ (digits ≠ ['0'] → NoDigit rest) := by
  rw [splitInteger?.eq_def] at h
  split at h
  · cases h
    exact ⟨rfl, .inl rfl, absurd rfl⟩
  · rename_i hzero
    split at h
    · cases h
    · rename_i hne
      cases h
      have hcs := eq_append_splitDigits cs
      refine ⟨hcs, .inr ⟨⟨fun hnil ↦ hne (List.isEmpty_iff.2 hnil), ?_⟩, fun hhead ↦ ?_⟩, ?_⟩
      · exact fun _ ↦ isDigit_of_mem_splitDigits
      · obtain ⟨ds, hds⟩ := List.head?_eq_some_iff.1 hhead
        rw [show (splitDigits cs).1 = '0' :: ds from hds] at hcs
        exact hzero _ hcs
      · exact fun _ ↦ noDigit_splitDigits cs

/-! ### What ends a number -/

theorem ended_nil : Ended [] := by
  intro more after h _
  exact (List.append_eq_nil_iff.1 h.symm).1

namespace Ended

variable {cs : List Char}

theorem noDigit (h : Ended cs) : NoDigit cs := by
  intro c hc
  obtain ⟨rest, rfl⟩ := List.head?_eq_some_iff.1 hc
  refine Bool.eq_false_iff.2 fun hdigit ↦ ?_
  exact List.cons_ne_nil _ _ (h [c] rest rfl (.inl ⟨List.cons_ne_nil _ _, by simpa using hdigit⟩))

theorem splitFraction (h : Ended cs) : splitFraction cs = ([], cs) := by
  obtain ⟨heq, hfraction⟩ := splitFraction_eq cs
  have hnil := h _ _ heq (.inr (.inl hfraction))
  rw [hnil, List.nil_append] at heq
  exact Prod.ext hnil heq.symm

theorem splitExponent (h : Ended cs) : splitExponent cs = ([], cs) := by
  obtain ⟨heq, hexponent⟩ := splitExponent_eq cs
  have hnil := h _ _ heq (.inr (.inr hexponent))
  rw [hnil, List.nil_append] at heq
  exact Prod.ext hnil heq.symm

end Ended

theorem splitSign_append {sign ds rest : List Char} (h : sign = [] ∨ sign = ['+'] ∨ sign = ['-'])
    (hds : AreDigits ds) : splitSign (sign ++ (ds ++ rest)) = (sign, ds ++ rest) := by
  obtain ⟨d, ds, rfl, hd⟩ := hds.exists_cons
  rcases h with rfl | rfl | rfl
  · rw [List.nil_append, List.cons_append, splitSign]
    all_goals
      intro _ h
      rw [(List.cons.inj h).1] at hd
      exact absurd hd (by decide)
  · rfl
  · rfl

/-- Where neither a fraction nor an exponent nor a digit is split off, no number goes on. -/
theorem ended_of_split {cs : List Char} (hdigit : NoDigit cs)
    (hfraction : splitFraction cs = ([], cs)) (hexponent : splitExponent cs = ([], cs)) :
    Ended cs := by
  rintro more after rfl (hmore | hmore | hmore)
  · obtain ⟨d, ds, rfl, hd⟩ := hmore.exists_cons
    have := hdigit d rfl
    rw [hd] at this
    cases this
  · cases hmore with
    | absent => rfl
    | @digits ds hds =>
        rw [List.cons_append, splitFraction,
          if_neg (by simpa using splitDigits_ne_nil hds)] at hfraction
        cases congrArg Prod.fst hfraction
  · cases hmore with
    | absent => rfl
    | @digits e sign ds he hsign hds =>
        rw [List.cons_append, List.append_assoc, splitExponent,
          splitSign_append hsign hds] at hexponent
        dsimp only at hexponent
        rw [if_pos (by simpa [splitDigits_ne_nil hds] using he)] at hexponent
        cases congrArg Prod.fst hexponent

section Numbers

variable {negative : Bool} {digits fraction exponent rest : List Char}

theorem splitExponent_append (he : IsExponent exponent) (hrest : Ended rest) :
    splitExponent (exponent ++ rest) = (exponent, rest) := by
  cases he with
  | absent => exact hrest.splitExponent
  | digits he hsign hds =>
      rw [List.cons_append, List.append_assoc, splitExponent, splitSign_append hsign hds]
      dsimp only
      rw [splitDigits_append hds.2 hrest.noDigit, if_pos (by simpa [hds.1] using he)]

theorem noDigit_exponent (he : IsExponent exponent) (hrest : Ended rest) :
    NoDigit (exponent ++ rest) := by
  cases he with
  | absent => exact hrest.noDigit
  | digits he _ _ => rcases he with rfl | rfl <;> rintro _ ⟨⟩ <;> rfl

theorem splitFraction_append (hf : IsFraction fraction) (he : IsExponent exponent)
    (hrest : Ended rest) :
    splitFraction (fraction ++ (exponent ++ rest)) = (fraction, exponent ++ rest) := by
  cases hf with
  | absent =>
      cases he with
      | absent => exact hrest.splitFraction
      | digits he _ _ => rcases he with rfl | rfl <;> rfl
  | digits hds =>
      rw [List.cons_append, splitFraction, splitDigits_append hds.2 (noDigit_exponent he hrest),
        if_neg (by simpa using hds.1)]

theorem noDigit_fraction (hf : IsFraction fraction) (he : IsExponent exponent)
    (hrest : Ended rest) : NoDigit (fraction ++ (exponent ++ rest)) := by
  cases hf with
  | absent => simpa using noDigit_exponent he hrest
  | digits _ =>
      rintro _ ⟨⟩
      rfl

theorem splitInteger?_append (h : IsWhole digits) (hrest : NoDigit rest) :
    splitInteger? (digits ++ rest) = some (digits, rest) := by
  rcases h with rfl | ⟨hds, hzero⟩
  · rfl
  · rw [splitInteger?, splitDigits_append hds.2 hrest, if_neg (by simpa using hds.1)]
    intro tail htail
    obtain ⟨d, ds, rfl, -⟩ := hds.exists_cons
    cases htail
    exact hzero rfl

/-- The token of a number. -/
def numberToken (negative : Bool) (digits fraction exponent : List Char) : Token :=
  if fraction.isEmpty && exponent.isEmpty then .integer negative digits
  else .decimal (minus negative ++ digits ++ fraction ++ exponent)

theorem writes_numberToken (negative : Bool) (hd : IsWhole digits) (hf : IsFraction fraction)
    (he : IsExponent exponent) :
    Writes (minus negative ++ digits ++ fraction ++ exponent)
      (numberToken negative digits fraction exponent) := by
  rw [numberToken]
  split
  · rename_i h
    simp only [Bool.and_eq_true, List.isEmpty_iff] at h
    rw [h.1, h.2, List.append_nil, List.append_nil]
    exact .integer hd
  · rename_i h
    exact .decimal hd hf he (by simpa using h)

theorem number?_eq {cs r r' : List Char} (hdigits : splitInteger? cs = some (digits, r))
    (hfraction : splitFraction r = (fraction, r'))
    (hexponent : splitExponent r' = (exponent, rest)) :
    number? negative cs = some (numberToken negative digits fraction exponent, rest) := by
  rw [number?, hdigits]
  dsimp only [Option.bind_eq_bind, Option.bind_some]
  rw [hfraction]
  dsimp only
  rw [hexponent]
  dsimp only [numberToken, minus]
  split <;> rfl

theorem number?_append (hd : IsWhole digits) (hf : IsFraction fraction) (he : IsExponent exponent)
    (hrest : Ended rest) : number? negative (digits ++ fraction ++ exponent ++ rest) =
      some (numberToken negative digits fraction exponent, rest) := by
  rw [List.append_assoc, List.append_assoc]
  exact number?_eq (splitInteger?_append hd (noDigit_fraction hf he hrest))
    (splitFraction_append hf he hrest) (splitExponent_append he hrest)

/-- What is read as a number was written for it, and no number goes on behind an integer that is too
long. -/
theorem exists_of_number? {cs : List Char} {t : Token} (h : number? negative cs = some (t, rest)) :
    ∃ word, cs = word ++ rest ∧ Writes (minus negative ++ word) t ∧
      (t.isOverlong = true → Ended rest) := by
  cases hdigits : splitInteger? cs with
  | none =>
      rw [number?, hdigits] at h
      cases h
  | some found =>
      obtain ⟨digits, r⟩ := found
      rcases hfraction : splitFraction r with ⟨fraction, r'⟩
      rcases hexponent : splitExponent r' with ⟨exponent, tail⟩
      rw [number?_eq hdigits hfraction hexponent] at h
      cases h
      obtain ⟨rfl, hd, hnodigit⟩ := splitInteger?_eq_some hdigits
      have hr := splitFraction_eq r
      have hr' := splitExponent_eq r'
      rw [hfraction] at hr
      rw [hexponent] at hr'
      obtain ⟨rfl, hf⟩ := hr
      obtain ⟨rfl, he⟩ := hr'
      refine ⟨digits ++ fraction ++ exponent, by simp, ?_, fun hlong ↦ ?_⟩
      · simpa using writes_numberToken negative hd hf he
      · rw [numberToken] at hlong
        split at hlong
        · rename_i hnone
          simp only [Bool.and_eq_true, List.isEmpty_iff] at hnone
          obtain ⟨rfl, rfl⟩ := hnone
          refine ended_of_split (hnodigit ?_) hfraction hexponent
          rintro rfl
          cases hlong
        · cases hlong

end Numbers

/-! ## Tokens -/

section Digits

variable {d : Char} {cs : List Char}

theorem ne_of_isDigit {c : Char} (hd : d.isDigit = true) (hc : c.isDigit = false) : d ≠ c := by
  rintro rfl
  rw [hc] at hd
  cases hd

/-- What starts with a digit is a number or nothing. -/
theorem scalar?_digit (hd : d.isDigit = true) (negative : Bool) :
    scalar? (minus negative ++ d :: cs) = number? negative (d :: cs) := by
  have hne {c : Char} (hc : c.isDigit = false) : c ≠ d := (ne_of_isDigit hd hc).symm
  have hwords : ∀ w ∈ words, after? w.1 (minus negative ++ d :: cs) = none := by
    cases negative <;> simp [words, after?, minus, hne]
  rw [scalar?.eq_def, List.findSome?_eq_none_iff.2 fun w hw ↦ by simp [hwords w hw]]
  cases negative with
  | true => rfl
  | false =>
      simp only [minus, Bool.false_eq_true, if_false, List.nil_append]
      split
      · rename_i heq
        exact absurd (List.cons.inj heq).1 (ne_of_isDigit hd rfl)
      · rfl

end Digits

/-- A character that starts no number ends one. -/
theorem ended_cons {c : Char} {cs : List Char} (hdigit : c.isDigit = false) (hpoint : c ≠ '.')
    (he : c ≠ 'e' ∧ c ≠ 'E') : Ended (c :: cs) := by
  intro more after h hmore
  cases more with
  | nil => rfl
  | cons d more =>
      obtain rfl := (List.cons.inj h).1
      rcases hmore with hmore | hmore | hmore
      · exact absurd rfl (ne_of_isDigit (hmore.2 c List.mem_cons_self) hdigit)
      · cases hmore
        exact absurd rfl hpoint
      · cases hmore with
        | digits hc _ _ => exact absurd hc (by simp [he])

/-- The characters that are tokens, and the mark that starts a text. -/
def marks : List Char := ['\x7b', '\x7d', '[', ']', ':', ',', '"']

theorem token_of_not_mem_marks {c : Char} {cs : List Char} (h : c ∉ marks) :
    token c cs = (scalar? (c :: cs)).getD (.unknown, []) := by
  simp only [marks, List.mem_cons, List.not_mem_nil, or_false, not_or] at h
  simp [token, h]

theorem not_mem_marks_of_isDigit {d : Char} (h : d.isDigit = true) : d ∉ marks := by
  simp only [marks, List.mem_cons, List.not_mem_nil, or_false, not_or]
  exact ⟨ne_of_isDigit h rfl, ne_of_isDigit h rfl, ne_of_isDigit h rfl, ne_of_isDigit h rfl,
    ne_of_isDigit h rfl, ne_of_isDigit h rfl, ne_of_isDigit h rfl⟩

/-! ### What was written is found -/

/-- A text starts with a token: there is nothing before it, and the token is found if no number goes
on behind it. -/
def Starts (word : List Char) (t : Token) : Prop :=
  ∃ c cs, word = c :: cs ∧ isBlank c = false ∧
    ∀ rest, (t.isScalar = true → Ended rest) → token c (cs ++ rest) = (t, rest)

theorem IsWhole.exists_cons {digits : List Char} (h : IsWhole digits) :
    ∃ d ds, digits = d :: ds ∧ d.isDigit = true := by
  rcases h with rfl | ⟨hdigits, -⟩
  · exact ⟨'0', [], rfl, rfl⟩
  · exact hdigits.exists_cons

theorem starts_numberToken {digits fraction exponent : List Char} (negative : Bool)
    (hd : IsWhole digits) (hf : IsFraction fraction) (he : IsExponent exponent) :
    Starts (minus negative ++ digits ++ fraction ++ exponent)
      (numberToken negative digits fraction exponent) := by
  obtain ⟨d, ds, rfl, hdigit⟩ := hd.exists_cons
  have hscalar : (numberToken negative (d :: ds) fraction exponent).isScalar = true := by
    rw [numberToken]
    split <;> rfl
  have hnumber {rest : List Char} (hrest : Ended rest) :
      scalar? (minus negative ++ d :: (ds ++ fraction ++ exponent ++ rest)) =
        some (numberToken negative (d :: ds) fraction exponent, rest) := by
    rw [scalar?_digit hdigit]
    exact number?_append hd hf he hrest
  cases negative with
  | true =>
      refine ⟨'-', d :: (ds ++ fraction ++ exponent), rfl, rfl, fun rest hrest ↦ ?_⟩
      rw [token_of_not_mem_marks (by decide)]
      exact congrArg (Option.getD · _) (hnumber (hrest hscalar))
  | false =>
      refine ⟨d, ds ++ fraction ++ exponent, rfl, ?_, fun rest hrest ↦ ?_⟩
      · simp [isBlank, ne_of_isDigit hdigit]
      · rw [token_of_not_mem_marks (not_mem_marks_of_isDigit hdigit)]
        exact congrArg (Option.getD · _) (hnumber (hrest hscalar))

theorem starts_of_writes {word : List Char} {t : Token} (h : Writes word t) : Starts word t := by
  cases h with
  | word hmem =>
      simp only [words, List.mem_cons, Prod.mk.injEq, List.not_mem_nil, or_false] at hmem
      rcases hmem with ⟨rfl, rfl⟩ | ⟨rfl, rfl⟩ | ⟨rfl, rfl⟩ | ⟨rfl, rfl⟩ | ⟨rfl, rfl⟩ | ⟨rfl, rfl⟩
      all_goals exact ⟨_, _, rfl, rfl, fun _ _ ↦ rfl⟩
  | integer hd => simpa [numberToken] using starts_numberToken _ hd .absent .absent
  | @decimal negative digits fraction exponent hd hf he hne =>
      have hstarts := starts_numberToken negative hd hf he
      rwa [numberToken, if_neg (by simpa using hne)] at hstarts
  | text hunits =>
      refine ⟨'"', _, rfl, rfl, fun rest _ ↦ ?_⟩
      simp [token, scan_of_denotes hunits]
  | _ => exact ⟨_, _, rfl, rfl, fun _ _ ↦ rfl⟩

/-! ### What is found was written -/

theorem exists_of_scalar? {cs rest : List Char} {t : Token} (h : scalar? cs = some (t, rest)) :
    ∃ word, cs = word ++ rest ∧ Writes word t ∧ (t.isOverlong = true → Ended rest) := by
  have hwords : ∀ w ∈ words, w.2.isOverlong = false := by decide
  rw [scalar?.eq_def] at h
  split at h
  · rename_i found hfound
    cases h
    obtain ⟨⟨word, t⟩, hmem, hword⟩ := List.exists_of_findSome?_eq_some hfound
    obtain ⟨after, hafter, heq⟩ := Option.map_eq_some_iff.1 hword
    cases heq
    refine ⟨word, eq_append_of_after? hafter, .word hmem, fun hlong ↦ ?_⟩
    exact absurd hlong (Bool.eq_false_iff.1 (hwords _ hmem))
  · split at h
    · obtain ⟨word, rfl, hword, hend⟩ := exists_of_number? h
      exact ⟨'-' :: word, rfl, hword, hend⟩
    · exact exists_of_number? h

theorem exists_of_token_text {cs rest : List Char} {t : Token} (h : token '"' cs = (t, rest))
    (ht : t.isFound = true) :
    ∃ word, '"' :: cs = word ++ rest ∧ Writes word t ∧ (t.isOverlong = true → Ended rest) := by
  cases hscan : scan cs with
  | closed units after =>
      have htoken : token '"' cs = (.text ⟨joinUnits units⟩, after) := by
        simp [token, hscan]
      rw [htoken] at h
      cases h
      obtain ⟨body, rfl, hbody⟩ := exists_denotes_of_scan hscan
      exact ⟨_, by simp, .text hbody, fun hlong ↦ (by cases hlong)⟩
  | broken fault after =>
      have htoken : token '"' cs = (.brokenText fault after, []) := by simp [token, hscan]
      rw [htoken] at h
      cases h
      cases ht
  | unclosed =>
      have htoken : token '"' cs = (.brokenText .unterminated ('"' :: cs), []) := by
        simp [token, hscan]
      rw [htoken] at h
      cases h
      cases ht

theorem exists_of_token {c : Char} {cs rest : List Char} {t : Token} (h : token c cs = (t, rest))
    (ht : t.isFound = true) :
    ∃ word, c :: cs = word ++ rest ∧ Writes word t ∧ (t.isOverlong = true → Ended rest) := by
  by_cases hc : c ∈ marks
  · simp only [marks, List.mem_cons, List.not_mem_nil, or_false] at hc
    rcases hc with rfl | rfl | rfl | rfl | rfl | rfl | rfl
    case inr.inr.inr.inr.inr.inr => exact exists_of_token_text h ht
    all_goals cases h
    · exact ⟨_, rfl, .openObject, nofun⟩
    · exact ⟨_, rfl, .closeObject, nofun⟩
    · exact ⟨_, rfl, .openArray, nofun⟩
    · exact ⟨_, rfl, .closeArray, nofun⟩
    · exact ⟨_, rfl, .colon, nofun⟩
    · exact ⟨_, rfl, .comma, nofun⟩
  · rw [token_of_not_mem_marks hc] at h
    cases hscalar : scalar? (c :: cs) with
    | none =>
        rw [hscalar] at h
        cases h
        cases ht
    | some found =>
        rw [hscalar] at h
        cases h
        exact exists_of_scalar? hscalar

/-! ## Texts -/

/-- The tokens of a text. -/
def tokensOf (cs : List Char) : List Token := (lexemes cs).map Lexeme.token

namespace IsWriting

variable {cs cs' : List Char} {ts us : List Token}

theorem gap_append {gap : List Char} (hgap : IsGap gap) (h : IsWriting cs ts) :
    IsWriting (gap ++ cs) ts := by
  cases h with
  | nil hcs => exact .nil (List.forall_mem_append.2 ⟨hgap, hcs⟩)
  | cons hcs hword hrest =>
      rw [← List.append_assoc, ← List.append_assoc]
      exact .cons (List.forall_mem_append.2 ⟨hgap, hcs⟩) hword hrest

theorem append (h : IsWriting cs ts) (h' : IsWriting cs' us) :
    IsWriting (cs ++ cs') (ts ++ us) := by
  induction h with
  | nil hgap => exact h'.gap_append hgap
  | cons hgap hword _ ih =>
      rw [List.append_assoc]
      exact .cons hgap hword ih

theorem concat {word : List Char} {t : Token} (h : IsWriting cs ts) (hword : Writes word t) :
    IsWriting (cs ++ word) (ts ++ [t]) := by
  have hlast : IsWriting ([] ++ word ++ []) [t] :=
    .cons (List.forall_mem_nil _) hword (.nil (List.forall_mem_nil _))
  rw [List.nil_append, List.append_nil] at hlast
  exact h.append hlast

end IsWriting

theorem isGap_singleton {c : Char} (h : isBlank c = true) : IsGap [c] := by
  simpa [IsGap, isBlank, or_assoc] using h

@[simp] theorem tokensOf_nil : tokensOf [] = [] := by
  rw [tokensOf, lexemes, List.map_nil]

theorem tokensOf_blank {c : Char} {cs : List Char} (h : isBlank c = true) :
    tokensOf (c :: cs) = tokensOf cs := by
  rw [tokensOf, lexemes, if_pos h, tokensOf]

theorem tokensOf_cons {c : Char} {cs : List Char} (h : isBlank c = false) :
    tokensOf (c :: cs) = (token c cs).1 :: tokensOf (token c cs).2 := by
  rw [tokensOf, lexemes, if_neg (Bool.not_eq_true _ ▸ h), List.map_cons, tokensOf]

theorem isGap_of_tokensOf_eq_nil {cs : List Char} (h : tokensOf cs = []) : IsGap cs := by
  induction cs with
  | nil => exact List.forall_mem_nil _
  | cons c cs ih =>
      cases hblank : isBlank c with
      | true =>
          rw [tokensOf_blank hblank] at h
          exact List.forall_mem_append.2 ⟨isGap_singleton hblank, ih h⟩
      | false =>
          rw [tokensOf_cons hblank] at h
          cases h

theorem exists_of_tokensOf_eq_cons {cs : List Char} {t : Token} {us : List Token}
    (h : tokensOf cs = t :: us) (ht : t.isFound = true) : ∃ gap word back,
      cs = gap ++ word ++ back ∧ IsGap gap ∧ Writes word t ∧ tokensOf back = us ∧
        (t.isOverlong = true → Ended back) := by
  induction cs with
  | nil => cases tokensOf_nil.symm.trans h
  | cons c cs ih =>
      cases hblank : isBlank c with
      | true =>
          rw [tokensOf_blank hblank] at h
          obtain ⟨gap, word, back, rfl, hgap, hrest⟩ := ih h
          exact ⟨c :: gap, word, back, rfl,
            List.forall_mem_append.2 ⟨isGap_singleton hblank, hgap⟩, hrest⟩
      | false =>
          rw [tokensOf_cons hblank] at h
          obtain ⟨rfl, hback⟩ := List.cons.inj h
          have htoken : token c cs = ((token c cs).1, (token c cs).2) := rfl
          obtain ⟨word, heq, hword, hend⟩ := exists_of_token htoken ht
          exact ⟨[], word, _, heq, List.forall_mem_nil _, hword, hback, hend⟩

/-- What is found first in a text was written at its front. -/
theorem exists_isWriting_of_tokensOf {cs : List Char} {ts us : List Token}
    (h : tokensOf cs = ts ++ us) (ht : ∀ t ∈ ts, t.isFound = true) :
    ∃ front back, cs = front ++ back ∧ IsWriting front ts ∧ tokensOf back = us := by
  induction ts generalizing cs with
  | nil => exact ⟨[], cs, rfl, .nil (List.forall_mem_nil _), h⟩
  | cons t ts ih =>
      obtain ⟨hfound, hts⟩ := List.forall_mem_cons.1 ht
      obtain ⟨gap, word, rest, rfl, hgap, hword, hrest, -⟩ := exists_of_tokensOf_eq_cons h hfound
      obtain ⟨front, back, rfl, hfront, hback⟩ := ih hrest hts
      exact ⟨gap ++ word ++ front, back, (List.append_assoc ..).symm, .cons hgap hword hfront,
        hback⟩

/-- What is found in a text was written there. -/
theorem isWriting_tokensOf {cs : List Char} (h : ∀ t ∈ tokensOf cs, t.isFound = true) :
    IsWriting cs (tokensOf cs) := by
  obtain ⟨front, back, heq, hfront, hback⟩ :=
    exists_isWriting_of_tokensOf (List.append_nil _).symm h
  have := hfront.append (.nil (isGap_of_tokensOf_eq_nil hback))
  rwa [← heq, List.append_nil] at this

/-- No two scalars are next to each other. -/
abbrev Separated (ts : List Token) : Prop :=
  ts.IsChain fun t u ↦ t.isScalar = false ∨ u.isScalar = false

theorem ended_gap {gap cs : List Char} (hgap : IsGap gap) (h : Ended cs) : Ended (gap ++ cs) := by
  cases gap with
  | nil => exact h
  | cons c gap =>
      rcases (List.forall_mem_cons.1 hgap).1 with rfl | rfl | rfl | rfl
      all_goals exact ended_cons rfl (by decide) (by decide)

/-- No number goes on where something else than a scalar is written. -/
theorem ended_of_writes {word : List Char} {t : Token} (h : Writes word t)
    (ht : t.isScalar = false) (rest : List Char) : Ended (word ++ rest) := by
  cases h with
  | word hmem =>
      have hwords : ∀ w ∈ words, w.2.isScalar = true := by decide
      rw [hwords _ hmem] at ht
      cases ht
  | integer _ | decimal _ _ _ _ | text _ => cases ht
  | _ => exact ended_cons rfl (by decide) (by decide)

/-- What was written is found, with the text that comes after it. -/
theorem tokensOf_append {front more : List Char} {ts : List Token} (h : IsWriting front ts)
    (hts : Separated ts) (hmore : ∀ t ∈ ts.getLast?, t.isScalar = true → Ended more) :
    tokensOf (front ++ more) = ts ++ tokensOf more := by
  induction h with
  | nil hgap => rw [tokensOf, lexemes_gap hgap, tokensOf, List.nil_append]
  | @cons gap word rest t ts hgap hword hrest ih =>
      obtain ⟨c, cs, rfl, hblank, htoken⟩ := starts_of_writes hword
      have hend : t.isScalar = true → Ended (rest ++ more) := by
        intro ht
        cases hrest with
        | nil hrest => exact ended_gap hrest (hmore t rfl ht)
        | @cons gap' word' _ u _ hgap' hword' _ =>
            have hu : u.isScalar = false := by
              rcases (List.isChain_cons_cons.1 hts).1 with h | h
              · rw [ht] at h
                cases h
              · exact h
            rw [List.append_assoc, List.append_assoc]
            exact ended_gap hgap' (ended_of_writes hword' hu _)
      rw [List.append_assoc, List.append_assoc, tokensOf, lexemes_gap hgap, ← tokensOf,
        List.cons_append, tokensOf_cons hblank, htoken _ hend, ih hts.tail fun u hu ↦ ?_]
      · rfl
      · refine hmore u ?_
        cases ts with
        | nil => cases hu
        | cons _ _ => exact hu

end GraphQuery.Json
