import GraphQuery.Json.Value
import GraphQuery.Proofs.Members
import GraphQuery.Proofs.Text.Literal

/-!
# Texts that are laid out token by token

A text in which tokens are spelled one after the other, with any blanks around them, is read as
these tokens (`map_token_lexemes`).  What the tokens are read as is then put together from what
their parts are read as: `Leads` is about the reader on its way from one mode to another, and
`Reads` about the tokens of one value, whatever containers are open around it.

* `reads_array` and `reads_object` are about containers, by induction on what is in them;
* `read_of_laysOut` is about a whole text.
-/

namespace GraphQuery.Json

/-! ## Layouts -/

/-- What may stand between two tokens. -/
abbrev IsGap (cs : List Char) : Prop := ∀ c ∈ cs, c = ' ' ∨ c = '\t' ∨ c = '\n' ∨ c = '\r'

/-- How signs and texts are written. -/
inductive Spells : List Char → Token → Prop
  | openObject : Spells ['\x7b'] .openObject
  | closeObject : Spells ['\x7d'] .closeObject
  | openArray : Spells ['['] .openArray
  | closeArray : Spells [']'] .closeArray
  | colon : Spells [':'] .colon
  | comma : Spells [','] .comma
  | text (s : String) : Spells (Text.quote s).toList (.text (.ofString s))

/-- A text in which tokens are written one after the other, with any gaps around them. -/
inductive LaysOut : List Char → List Token → Prop
  | nil {gap : List Char} : IsGap gap → LaysOut gap []
  | cons {gap cs rest : List Char} {t : Token} {ts : List Token} : IsGap gap → Spells cs t →
      LaysOut rest ts → LaysOut (gap ++ cs ++ rest) (t :: ts)

theorem lexemes_gap {gap : List Char} (h : IsGap gap) (rest : List Char) :
    lexemes (gap ++ rest) = lexemes rest := by
  induction gap with
  | nil => rfl
  | cons c gap ih =>
      obtain ⟨hc, hgap⟩ := List.forall_mem_cons.1 h
      have hblank : isBlank c = true := by
        rcases hc with rfl | rfl | rfl | rfl <;> rfl
      rw [List.cons_append, lexemes, if_pos hblank, ih hgap]

/-- What is written for a token is read as the token, whatever comes after it. -/
theorem lexemes_spells {cs : List Char} {t : Token} (h : Spells cs t) (rest : List Char) :
    ∃ start, lexemes (cs ++ rest) = ⟨t, start⟩ :: lexemes rest := by
  cases h with
  | text s =>
      have htoken : token '"' (s.toList.flatMap Text.escape ++ '"' :: rest) =
          (.text (.ofString s), rest) := by
        simp [token, scan_literal, Text.joinUnits_flatMap, CodePoints.ofString]
      refine ⟨'"' :: (s.toList.flatMap Text.escape ++ '"' :: rest), ?_⟩
      rw [Text.toList_quote, Text.quoteChars, List.cons_append, List.append_assoc,
        List.singleton_append, lexemes, if_neg (by decide), htoken]
  | _ =>
      apply Exists.intro
      rw [List.singleton_append, lexemes, if_neg (by decide)]
      rfl

/-- A text that was laid out is read as the tokens that it was laid out from. -/
theorem map_token_lexemes {cs : List Char} {ts : List Token} (h : LaysOut cs ts) :
    (lexemes cs).map Lexeme.token = ts := by
  induction h with
  | nil hgap =>
      have := lexemes_gap hgap []
      rw [List.append_nil] at this
      rw [this, lexemes]
      rfl
  | cons hgap hspells _ ih =>
      rename_i rest t ts _
      obtain ⟨start, hstart⟩ := lexemes_spells hspells rest
      rw [List.append_assoc, lexemes_gap hgap, hstart, List.map_cons, ih]

/-- A text that was laid out does not begin with a byte order mark. -/
theorem head?_of_laysOut {cs : List Char} {ts : List Token} (h : LaysOut cs ts) :
    cs.head? ≠ some '\ufeff' := by
  have hgap {gap rest : List Char} (hgap : IsGap gap) (hrest : rest.head? ≠ some '\ufeff') :
      (gap ++ rest).head? ≠ some '\ufeff' := by
    cases gap with
    | nil => exact hrest
    | cons c gap =>
        rcases (List.forall_mem_cons.1 hgap).1 with rfl | rfl | rfl | rfl <;> simp
  cases h with
  | nil hnil =>
      rw [← List.append_nil cs]
      exact hgap hnil nofun
  | cons hcons hspells _ =>
      rw [List.append_assoc]
      refine hgap hcons ?_
      cases hspells with
      | text s => simp [Text.quoteChars]
      | _ => simp

/-! ## Modes -/

/-- Tokens take the reader from one mode to another, wherever they stand in a text. -/
def Leads (mode : Mode) (ts : List Token) (mode' : Mode) : Prop :=
  ∀ ls : List Lexeme, ls.map Lexeme.token = ts → readFrom mode ls = .ok mode'

namespace Leads

variable {mode mode' mode'' : Mode} {t : Token} {ts us : List Token}

theorem nil : Leads mode [] mode := by
  intro ls hls
  rw [List.map_eq_nil_iff.1 hls, readFrom_nil]

theorem cons (hstep : ∀ start, step mode ⟨t, start⟩ = .ok mode') (hts : Leads mode' ts mode'') :
    Leads mode (t :: ts) mode'' := by
  intro ls hls
  obtain ⟨⟨_, start⟩, rest, rfl, rfl, hrest⟩ := List.map_eq_cons_iff.1 hls
  rw [readFrom_cons, hstep]
  exact hts rest hrest

theorem append (hts : Leads mode ts mode') (hus : Leads mode' us mode'') :
    Leads mode (ts ++ us) mode'' := by
  intro ls hls
  obtain ⟨ls₁, ls₂, rfl, hls₁, hls₂⟩ := List.map_eq_append_iff.1 hls
  rw [readFrom_append, hts ls₁ hls₁]
  exact hus ls₂ hls₂

end Leads

/-- Tokens are those of a value. -/
def Reads (ts : List Token) (v : Json) : Prop :=
  ∀ stack, Leads (.value stack) ts (.complete v stack)

theorem reads_text (s : CodePoints) : Reads [.text s] (.text s) := by
  intro stack
  exact .cons (fun _ ↦ rfl) .nil

/-! ## Containers -/

variable {stack : List Frame}

/-- Several lists of tokens with commas between them. -/
theorem intercalate_comma (item : List Token) (items : List (List Token)) :
    [Token.comma].intercalate (item :: items) = item ++ items.flatMap (.comma :: ·) := by
  induction items generalizing item with
  | nil => simp
  | cons next items ih => rw [List.intercalate_cons_cons, ih]; simp

/-- The tokens of an array. -/
def arrayTokens (items : List (List Token)) : List Token :=
  .openArray :: ([Token.comma].intercalate items ++ [.closeArray])

/-- The tokens of an object. -/
def objectTokens (members : List (CodePoints × List Token)) : List Token :=
  .openObject :: ([Token.comma].intercalate (members.map fun m ↦ .text m.1 :: .colon :: m.2) ++
    [.closeObject])

/-- The first item of an array begins like any other value. -/
theorem Reads.arrayStart {ts : List Token} {v : Json} (h : Reads ts v) :
    Leads (.arrayStart stack) ts (.complete v (.array [] :: stack)) := by
  intro ls hls
  have hread := h (.array [] :: stack) ls hls
  cases ls with
  | nil => cases hread
  | cons l ls =>
      have hclose : l.token ≠ .closeArray := by
        intro hclose
        rw [readFrom_cons, step, startValue, hclose] at hread
        cases hread
      rw [readFrom_cons] at hread ⊢
      rwa [step, if_neg hclose]

theorem leads_items {items : List (List Token)} {vs : List Json} (h : List.Forall₂ Reads items vs)
    (v : Json) (read : List Json) :
    Leads (.complete v (.array read :: stack)) (items.flatMap (.comma :: ·) ++ [.closeArray])
      (.complete (.array ((v :: read).reverse ++ vs)) stack) := by
  induction h generalizing v read with
  | nil =>
      rw [List.append_nil]
      exact .cons (fun _ ↦ rfl) .nil
  | cons hread _ ih =>
      rename_i item w items vs _
      rw [List.flatMap_cons, List.append_assoc, List.cons_append]
      refine .cons (fun _ ↦ rfl) ((hread _).append ?_)
      have hrest := ih w (v :: read)
      rwa [List.reverse_cons, List.append_assoc, List.singleton_append] at hrest

theorem reads_array {items : List (List Token)} {vs : List Json}
    (h : List.Forall₂ Reads items vs) : Reads (arrayTokens items) (.array vs) := by
  intro stack
  refine .cons (fun _ ↦ rfl) ?_
  cases h with
  | nil => exact .cons (fun _ ↦ rfl) .nil
  | cons hitem hitems =>
      rw [intercalate_comma, List.append_assoc]
      exact hitem.arrayStart.append (leads_items hitems _ [])

/-- Tokens of a member are those of its name and of its value. -/
def ReadsMember (m : CodePoints × List Token) (n : CodePoints × Json) : Prop :=
  m.1 = n.1 ∧ Reads m.2 n.2

/-- A member is read the same as the first and as a further one. -/
theorem ReadsMember.leads {m : CodePoints × List Token} {n : CodePoints × Json}
    (h : ReadsMember m n) {mode : Mode} {members : List (CodePoints × Json)}
    (hmode : ∀ key start, step mode ⟨.text key, start⟩ = .ok (.colon members key stack)) :
    Leads mode (.text m.1 :: .colon :: m.2) (.complete n.2 (.object members n.1 :: stack)) := by
  obtain ⟨hname, hvalue⟩ := h
  rw [hname]
  exact .cons (hmode n.1) (.cons (fun _ ↦ rfl) (hvalue _))

theorem leads_members {ms : List (CodePoints × List Token)} {ns : List (CodePoints × Json)}
    (h : List.Forall₂ ReadsMember ms ns) (n : CodePoints × Json)
    (members : List (CodePoints × Json)) :
    Leads (.complete n.2 (.object members n.1 :: stack))
      ((ms.map fun m ↦ Token.text m.1 :: .colon :: m.2).flatMap (.comma :: ·) ++ [.closeObject])
      (.complete (.object ((n :: ns).foldl (fun ms p ↦ setMember p.1 p.2 ms) members)) stack) := by
  induction h generalizing n members with
  | nil => exact .cons (fun _ ↦ rfl) .nil
  | cons hread _ ih =>
      rw [List.map_cons, List.flatMap_cons, List.append_assoc, List.cons_append]
      exact .cons (fun _ ↦ rfl) ((hread.leads fun _ _ ↦ rfl).append (ih _ _))

theorem reads_object {ms : List (CodePoints × List Token)} {ns : List (CodePoints × Json)}
    (h : List.Forall₂ ReadsMember ms ns) : Reads (objectTokens ms) (.object (membersOf ns)) := by
  intro stack
  refine .cons (fun _ ↦ rfl) ?_
  cases h with
  | nil => exact .cons (fun _ ↦ rfl) .nil
  | cons hmember hmembers =>
      rw [List.map_cons, intercalate_comma, List.append_assoc]
      exact (hmember.leads fun _ _ ↦ rfl).append (leads_members hmembers _ [])

/-! ## Texts -/

theorem read_of_laysOut {cs : List Char} {ts : List Token} {v : Json} (hcs : LaysOut cs ts)
    (hts : Reads ts v) : Json.read cs = .ok v := by
  rw [Json.read, if_neg (head?_of_laysOut hcs), hts [] _ (map_token_lexemes hcs)]
  rfl

end GraphQuery.Json
