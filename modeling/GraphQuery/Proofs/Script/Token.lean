import GraphQuery.Identifier
import GraphQuery.Proofs.Text.Literal

/-!
# Tokens of a query text

A query text is made of literals and of words, each word ended by one of five signs.  The lexer
walks over the text once and knows of the past only whether it is outside of all literals, inside of
one, or right behind a backslash there; so whatever a literal holds, it cannot end the literal, nor
can it be taken for a word or a sign.

* `lex_flatMap_spell`: what was spelled token by token is read as the same tokens;
* `isWord_of_check`: the name of a morphism is a word.
-/

namespace GraphQuery.Script

/-- The signs that end a word. -/
def isSign (c : Char) : Bool := c = '.' || c = '(' || c = ')' || c = ',' || c = ' '

/-- The characters that words are made of. -/
def isWordChar (c : Char) : Bool := c ≠ '"' && !isSign c

/-- A text without anything that could end it as a word. -/
abbrev IsWord (cs : List Char) : Prop := ∀ c ∈ cs, isWordChar c = true

/-- Whether a given text is a word is a matter of looking at it. -/
theorem isWord_of_all {cs : List Char} (h : cs.all isWordChar = true) : IsWord cs :=
  List.all_eq_true.1 h

/-- The tokens of a query text. -/
inductive Token
  /-- A sign and the word that it ends, which may be empty. -/
  | sign (word : List Char) (mark : Char)
  /-- The literal of a name. -/
  | literal (name : List Char)

namespace Token

/-- The text of a token. -/
def spell : Token → List Char
  | sign word mark => word ++ [mark]
  | literal name => Text.quoteChars name

/-- A token as it occurs in a text: its word is a word and its sign is a sign. -/
def IsProper : Token → Prop
  | sign word mark => IsWord word ∧ isSign mark = true
  | literal _ => True

end Token

/-- Where the lexer is, and what it has read of the token at hand. -/
inductive Place
  | outside (word : List Char)
  | inside (body : List Char)
  /-- Right behind a backslash inside of a literal. -/
  | escaped (body : List Char)

/-- The tokens of a text. -/
def lex : Place → List Char → List Token
  | _, [] => []
  | .outside word, c :: cs =>
    if c = '"' then lex (.inside []) cs
    else if isSign c then .sign word c :: lex (.outside []) cs
    else lex (.outside (word ++ [c])) cs
  | .inside body, c :: cs =>
    if c = '"' then .literal (Text.unescape body) :: lex (.outside []) cs
    else if c = '\\' then lex (.escaped (body ++ [c])) cs
    else lex (.inside (body ++ [c])) cs
  | .escaped body, c :: cs => lex (.inside (body ++ [c])) cs

/-! ## Inside of literals -/

/-- What may stand between the marks of a literal: a mark or a backslash only right behind a
backslash. -/
inductive IsBody : List Char → Prop
  | nil : IsBody []
  | plain {c : Char} {cs : List Char} : c ≠ '"' → c ≠ '\\' → IsBody cs → IsBody (c :: cs)
  | escaped {c : Char} {cs : List Char} : IsBody cs → IsBody ('\\' :: c :: cs)

theorem IsBody.append {cs ds : List Char} (hcs : IsBody cs) (hds : IsBody ds) :
    IsBody (cs ++ ds) := by
  induction hcs with
  | nil => exact hds
  | plain hquote hback _ ih => exact .plain hquote hback ih
  | escaped _ ih => exact .escaped ih

theorem IsBody.flatMap {α : Type} {f : α → List Char} (hf : ∀ a, IsBody (f a)) (l : List α) :
    IsBody (l.flatMap f) := by
  induction l with
  | nil => exact .nil
  | cons a l ih =>
      rw [List.flatMap_cons]
      exact (hf a).append ih

/-- A hexadecimal digit is neither a mark nor a backslash. -/
theorem digitChar_ne {n : Nat} (h : n < 16) : Nat.digitChar n ≠ '"' ∧ Nat.digitChar n ≠ '\\' := by
  revert n
  decide

theorem isBody_hex4 (u : Nat) : IsBody (Text.hex4 u) := by
  have hdigit (n : Nat) {cs : List Char} (hcs : IsBody cs) :
      IsBody (Nat.digitChar (n % 16) :: cs) := by
    obtain ⟨hquote, hback⟩ := digitChar_ne (Nat.mod_lt n (by decide : 16 > 0))
    exact .plain hquote hback hcs
  exact hdigit _ (hdigit _ (hdigit _ (hdigit _ .nil)))

/-- What is written for a character may stand between the marks of a literal. -/
theorem isBody_escape (c : Char) : IsBody (Text.escape c) := by
  unfold Text.escape
  cases hshort : Text.shortEscape? c with
  | some e => exact .escaped .nil
  | none =>
      cases Text.isPlain c
      · exact IsBody.flatMap (fun u ↦ .escaped (isBody_hex4 u)) _
      · refine .plain ?_ ?_ .nil
        · rintro rfl
          cases hshort
        · rintro rfl
          cases hshort

theorem lex_inside_of_isBody {cs : List Char} (hcs : IsBody cs) (body rest : List Char) :
    lex (.inside body) (cs ++ rest) = lex (.inside (body ++ cs)) rest := by
  induction hcs generalizing body with
  | nil => simp
  | plain hquote hback _ ih =>
      rw [List.cons_append, lex, if_neg hquote, if_neg hback, ih, List.append_assoc]
      rfl
  | escaped _ ih =>
      -- the character after a backslash has no meaning of its own
      rw [List.cons_append, List.cons_append, lex, if_neg (by decide), if_pos rfl, lex, ih]
      simp

/-! ## Outside of literals -/

/-- A literal is one token, whatever its name and whatever comes after it. -/
theorem lex_literal (name rest : List Char) :
    lex (.outside []) (Text.quoteChars name ++ rest) = .literal name :: lex (.outside []) rest := by
  rw [Text.quoteChars, List.cons_append, lex, if_pos rfl, List.append_assoc,
    lex_inside_of_isBody (.flatMap isBody_escape name), List.nil_append, List.singleton_append, lex,
    if_pos rfl, Text.unescape_flatMap_escape]

theorem lex_word {word : List Char} (hword : IsWord word) (read rest : List Char) :
    lex (.outside read) (word ++ rest) = lex (.outside (read ++ word)) rest := by
  induction word generalizing read with
  | nil => simp
  | cons c word ih =>
      have hc := hword c List.mem_cons_self
      simp only [isWordChar, Bool.and_eq_true, decide_eq_true_eq, Bool.not_eq_true'] at hc
      rw [List.cons_append, lex, if_neg hc.1, hc.2, if_neg (by decide),
        ih fun d hd ↦ hword d (List.mem_cons_of_mem _ hd), List.append_assoc]
      rfl

theorem lex_sign {word : List Char} {mark : Char} (hword : IsWord word)
    (hmark : isSign mark = true) (rest : List Char) :
    lex (.outside []) (word ++ mark :: rest) = .sign word mark :: lex (.outside []) rest := by
  have hquote : mark ≠ '"' := by
    rintro rfl
    cases hmark
  rw [lex_word hword, List.nil_append, lex, if_neg hquote, if_pos hmark]

/-- The text of a token is read as that token, whatever comes after it. -/
theorem lex_spell {t : Token} (ht : t.IsProper) (rest : List Char) :
    lex (.outside []) (t.spell ++ rest) = t :: lex (.outside []) rest := by
  cases t with
  | sign word mark =>
      rw [Token.spell, List.append_assoc]
      exact lex_sign ht.1 ht.2 rest
  | literal name => exact lex_literal name rest

/-- A text that was spelled token by token is read as the same tokens. -/
theorem lex_flatMap_spell {ts : List Token} (hts : ∀ t ∈ ts, t.IsProper) :
    lex (.outside []) (ts.flatMap Token.spell) = ts := by
  induction ts with
  | nil => rfl
  | cons t ts ih =>
      rw [List.flatMap_cons, lex_spell (hts t List.mem_cons_self),
        ih fun u hu ↦ hts u (List.mem_cons_of_mem _ hu)]

/-! ## Words -/

theorem isWordChar_of_isPart {c : Char} (h : Identifier.isPart c = true) : isWordChar c = true := by
  have hquote : c ≠ '"' := by
    rintro rfl
    cases h
  have hsign : isSign c = false := by
    rw [Bool.eq_false_iff]
    intro hsign
    simp only [isSign, Bool.or_eq_true, decide_eq_true_eq] at hsign
    rcases hsign with (((rfl | rfl) | rfl) | rfl) | rfl <;> cases h
  rw [isWordChar, hsign, decide_eq_true hquote]
  rfl

theorem isWord_of_isIdentifier {cs : List Char} (h : Identifier.isIdentifier cs = true) :
    IsWord cs := by
  cases cs with
  | nil => cases h
  | cons d cs =>
      simp only [Identifier.isIdentifier, Bool.and_eq_true, List.all_eq_true] at h
      intro c hc
      refine isWordChar_of_isPart ?_
      rcases List.mem_cons.1 hc with rfl | hc
      · rw [Identifier.isPart, h.1, Bool.true_or]
      · exact h.2 c hc

/-- The name of a morphism is a word, be there a line break at its end or not. -/
theorem isWord_of_check {n : String} (h : Identifier.check n = .ok n) : IsWord n.toList := by
  have hident : Identifier.isIdentifier (Identifier.dropLineBreak n.toList) = true := by
    refine Classical.byContradiction fun hident ↦ ?_
    rw [Identifier.check, if_pos (by simpa using hident)] at h
    cases h
  have hkept := isWord_of_isIdentifier hident
  unfold Identifier.dropLineBreak at hkept
  split at hkept
  · rename_i hlast
    obtain ⟨cs, hcs⟩ := List.getLast?_eq_some_iff.1 hlast
    rw [hcs, List.dropLast_concat] at hkept
    intro c hc
    rw [hcs, List.mem_append] at hc
    rcases hc with hc | hc
    · exact hkept c hc
    · rw [List.mem_singleton.1 hc]
      rfl
  · exact hkept

end GraphQuery.Script
