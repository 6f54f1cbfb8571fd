import GraphQuery.Proofs.Compilation
import GraphQuery.Proofs.Naming
import GraphQuery.Proofs.Text.Utf8
import GraphQuery.Proofs.Transport.Line
import GraphQuery.Url.Address

/-!
# Everything is written in ASCII

Names may be any texts, but what is written for them is not: a literal escapes what is not printable
(`Text.isAscii_quote`), and the names that stand without marks are those of morphisms, which were
accepted as identifiers (`Identifier.Accepts.isAscii`).  All else are the words of calls, brackets
and numbers (`Traversal.isAscii_text`).  So a request has for its body one byte for each character
of its text.
-/

namespace GraphQuery

namespace Text

/-- A text of ASCII. -/
def IsAscii (s : String) : Prop := ∀ c ∈ s.toList, c.toNat < 0x80

instance (s : String) : Decidable (IsAscii s) := List.decidableBAll _ _

variable {s t : String}

theorem IsAscii.append (hs : IsAscii s) (ht : IsAscii t) : IsAscii (s ++ t) := by
  intro c hc
  rw [String.toList_append, List.mem_append] at hc
  exact hc.elim (hs c) (ht c)

theorem isAscii_intercalate (hs : IsAscii s) {l : List String} (hl : ∀ t ∈ l, IsAscii t) :
    IsAscii (s.intercalate l) := by
  induction l with
  | nil => exact nofun
  | cons t l ih =>
      have ht := hl t List.mem_cons_self
      cases l with
      | nil => simpa using ht
      | cons t' l =>
          rw [String.intercalate_cons_cons]
          exact (ht.append hs).append (ih fun t h ↦ hl t (List.mem_cons_of_mem _ h))

/-! ## Literals -/

theorem digitChar_lt {n : Nat} (h : n < 16) : (Nat.digitChar n).toNat < 0x80 := by
  revert n
  decide

theorem lt_of_mem_hex4 {u : Nat} {c : Char} (h : c ∈ hex4 u) : c.toNat < 0x80 := by
  simp only [hex4, List.mem_cons, List.not_mem_nil, or_false] at h
  rcases h with rfl | rfl | rfl | rfl <;> exact digitChar_lt (Nat.mod_lt _ (by decide))

theorem lt_of_shortEscape? {c e : Char} (h : shortEscape? c = some e) : e.toNat < 0x80 := by
  unfold shortEscape? at h
  split_ifs at h <;> cases h <;> decide

/-- Whatever a character is, it is written in ASCII inside of a literal. -/
theorem lt_of_mem_escape {c d : Char} (h : d ∈ escape c) : d.toNat < 0x80 := by
  unfold escape at h
  split at h
  · rename_i e he
    rcases List.mem_cons.1 h with rfl | h
    · decide
    · obtain rfl := List.mem_singleton.1 h
      exact lt_of_shortEscape? he
  · split at h
    · rename_i hplain
      obtain rfl := List.mem_singleton.1 h
      simp only [isPlain, Bool.and_eq_true, decide_eq_true_eq] at hplain
      omega
    · obtain ⟨u, _, hd⟩ := List.mem_flatMap.1 h
      rcases List.mem_cons.1 hd with rfl | hd
      · decide
      · rcases List.mem_cons.1 hd with rfl | hd
        · decide
        · exact lt_of_mem_hex4 hd

theorem isAscii_quote (name : String) : IsAscii (quote name) := by
  intro c hc
  rw [toList_quote, quoteChars] at hc
  rcases List.mem_cons.1 hc with rfl | hc
  · decide
  · rcases List.mem_append.1 hc with hc | hc
    · obtain ⟨d, _, hd⟩ := List.mem_flatMap.1 hc
      exact lt_of_mem_escape hd
    · obtain rfl := List.mem_singleton.1 hc
      decide

theorem isAscii_quoteList (names : List String) : IsAscii (quoteList names) := by
  refine isAscii_intercalate (by decide) fun t ht ↦ ?_
  obtain ⟨name, _, rfl⟩ := List.mem_map.1 ht
  exact isAscii_quote name

/-- No character of ASCII comes behind one that is not. -/
theorem lt_of_le {c d : Char} (h : c ≤ d) (hd : d.toNat < 0x80) : c.toNat < 0x80 :=
  Nat.lt_of_le_of_lt h hd

theorem isAscii_nat (n : Nat) : IsAscii (toString n) := by
  intro c hc
  have hdigits : (toString n).toList = Nat.toDigits 10 n := Nat.toList_repr
  rw [hdigits] at hc
  have hdigit := Nat.isDigit_of_mem_toDigits (by decide) (by decide) hc
  exact lt_of_le (Identifier.isDigit_iff.1 hdigit).2 (by decide)

end Text

open Text (IsAscii)

/-- A name that is accepted is ASCII, with a line break behind it or without. -/
theorem Identifier.Accepts.isAscii {n : String} (h : Accepts n) : IsAscii n := by
  obtain ⟨⟨m, hm, hn⟩, -⟩ := h
  have hascii : IsAscii m := by
    intro c hc
    rcases hm.chars c hc with (⟨-, h⟩ | ⟨-, h⟩) | ⟨-, h⟩ | rfl | rfl
    · exact Text.lt_of_le h (by decide)
    · exact Text.lt_of_le h (by decide)
    · exact Text.lt_of_le h (by decide)
    · decide
    · decide
  rcases hn with rfl | rfl
  · exact hascii
  · exact hascii.append (by decide)

/-! ## Traversals -/

theorem Choice.isAscii_text (c : Choice) : IsAscii c.text := by
  rw [Choice.text_eq]
  exact Text.isAscii_quoteList c.names

theorem isAscii_arguments {first second : String} (hfirst : IsAscii first)
    (hsecond : IsAscii second) : IsAscii (arguments first second) := by
  unfold arguments
  split_ifs
  · exact hfirst
  · exact IsAscii.append (by decide) hsecond
  · exact (hfirst.append (by decide)).append hsecond

/-- A word with something in brackets behind it. -/
theorem isAscii_bracket {word inside : String} (hword : IsAscii word) (hinside : IsAscii inside) :
    IsAscii (word ++ "(" ++ inside ++ ")") :=
  ((hword.append (by decide)).append hinside).append (by decide)

theorem Root.isAscii_text (r : Root) : IsAscii r.text := by
  cases r with
  | vertices nodes => exact (IsAscii.append (by decide) nodes.isAscii_text).append (by decide)
  | fragment => decide

theorem Terminal.isAscii_text (t : Terminal) : IsAscii t.text := by
  cases t with
  | limit count => exact (IsAscii.append (by decide) (Text.isAscii_nat count)).append (by decide)
  | _ => decide

theorem Edge.isAscii_word (kind : Edge) : IsAscii kind.word := by
  cases kind <;> decide

/-- The name of the morphism that a call follows. -/
def Call.name? : Call → Option String
  | follow _ name => some name
  | _ => none

/-- A call is written in ASCII if the name that it has in it is. -/
theorem Call.isAscii_text {c : Call} (h : ∀ n, c.name? = some n → IsAscii n) : IsAscii c.text := by
  cases c with
  | edge kind predicates second =>
      exact isAscii_bracket kind.isAscii_word
        (isAscii_arguments predicates.isAscii_text second.isAscii_text)
  | mark kind names =>
      refine isAscii_bracket ?_ names.isAscii_text
      cases kind <;> decide
  | follow direction name =>
      refine isAscii_bracket ?_ (h name rfl)
      cases direction <;> decide
  | finish terminal => exact terminal.isAscii_text

theorem NestCall.isAscii_text (c : NestCall) {inner : String} (h : IsAscii inner) :
    IsAscii (c.text inner) := by
  cases c with
  | edge kind second =>
      exact isAscii_bracket kind.isAscii_word (isAscii_arguments h second.isAscii_text)
  | join kind =>
      refine isAscii_bracket ?_ h
      cases kind <;> decide

namespace Traversal

theorem isAscii_argument {t : Traversal} (h : t.isBroken = false → IsAscii t.text) :
    IsAscii t.argument := by
  unfold argument
  split
  · decide
  · rename_i hbroken
    exact h (Bool.eq_false_iff.2 hbroken)

/-- What a traversal refers to, a traversal around it refers to, unless it is broken. -/
theorem mem_references_nest {t inner : Traversal} {c : NestCall} {n : String}
    (hbroken : inner.isBroken = false) (hn : n ∈ inner.reading.references) :
    n ∈ (t.nest c inner).reading.references := by
  have hinner : inner.innerReading = inner.reading := by simp [innerReading, hbroken]
  cases c <;> simp only [reading_nest_edge, reading_nest_join, Reading.references,
    List.mem_append, hinner, hn, or_true]

/-- All that a traversal is written as is ASCII if the names that it refers to are. -/
theorem isAscii_segments (t : Traversal) (h : ∀ n ∈ t.reading.references, IsAscii n) :
    ∀ s ∈ t.segments, IsAscii s := by
  induction t with
  | start r =>
      intro s hs
      obtain rfl := List.mem_singleton.1 hs
      exact r.isAscii_text
  | call before c ih =>
      rw [references_reading_call, List.forall_mem_append] at h
      intro s hs
      rcases List.mem_append.1 hs with hs | hs
      · exact ih h.1 s hs
      · obtain rfl := List.mem_singleton.1 hs
        refine Call.isAscii_text fun n hn ↦ h.2 n ?_
        cases c <;> cases hn
        exact List.mem_singleton_self n
  | nest before c inner ih ihinner =>
      have hinner : IsAscii inner.argument := by
        refine isAscii_argument fun hbroken ↦ ?_
        rw [text_eq_intercalate]
        exact Text.isAscii_intercalate (by decide)
          (ihinner fun n hn ↦ h n (mem_references_nest hbroken hn))
      rw [references_reading_nest, List.forall_mem_append] at h
      intro s hs
      rcases List.mem_append.1 hs with hs | hs
      · exact ih h.1 s hs
      · obtain rfl := List.mem_singleton.1 hs
        exact c.isAscii_text hinner

theorem isAscii_text (t : Traversal) (h : ∀ n ∈ t.reading.references, IsAscii n) :
    IsAscii t.text := by
  rw [text_eq_intercalate]
  exact Text.isAscii_intercalate (by decide) (t.isAscii_segments h)

end Traversal

/-! ## Bytes -/

namespace Text

/-- Bytes are a text, one for each character. -/
structure IsBytewise (s : String) (bs : List UInt8) : Prop where
  length : bs.length = s.length
  codes : bs.map UInt8.toNat = s.toList.map Char.toNat
  decode : Utf8.decode bs = .ok s.toList

theorem encode_of_lt {cs : List Char} (h : ∀ c ∈ cs, c.toNat < 0x80) :
    Utf8.encode cs = cs.map fun c ↦ .ofNat c.toNat := by
  induction cs with
  | nil => rfl
  | cons c cs ih =>
      have hc : c.toNat ≤ 127 := Nat.le_of_lt_succ (h c List.mem_cons_self)
      have hchar : String.utf8EncodeChar c = [.ofNat c.toNat] := by
        rw [Utf8.utf8EncodeChar_eq, if_pos hc]
      have hcons : Utf8.encode (c :: cs) = String.utf8EncodeChar c ++ Utf8.encode cs :=
        List.flatMap_cons
      rw [hcons, hchar, ih fun d hd ↦ h d (List.mem_cons_of_mem _ hd)]
      rfl

/-- What is ASCII is encoded character by character. -/
theorem IsAscii.isBytewise {s : String} (h : IsAscii s) :
    IsBytewise s (Utf8.encode s.toList) where
  length := by
    rw [encode_of_lt h, List.length_map, String.length_toList]
  codes := by
    rw [encode_of_lt h, List.map_map]
    refine List.map_congr_left fun c hc ↦ ?_
    exact UInt8.toNat_ofNat_of_lt (Nat.lt_trans (h c hc) (by decide))
  decode := Utf8.decode_encode s.toList

end Text

/-! ## All that is built and sent -/

/-- What a link has done after a text was handed to the store in front of it. -/
theorem Command.Hands.line?_eq {w : Workspace} {g : StoreId} {c : Command} {l : Link}
    {text : String} (h : c.Hands w g text) (hl : w.line? (.store g) = some l) :
    (c.run w).2.line? (.store g) = some (l.send text).after := by
  obtain ⟨s, hs, hstores, -⟩ := h
  obtain ⟨s', hs', hlink⟩ := Workspace.exists_of_line?_store hl
  obtain rfl := Option.some.inj (hs.symm.trans hs')
  rw [Workspace.line?, hstores,
    Array.getElem?_setIfInBounds_self_of_lt (Array.getElem?_eq_some_iff.1 hs).1]
  exact Line.handed_of_link hlink text

namespace Run

variable {es : List Event} {w : Workspace} {p : Path} {text : String}

theorem isAscii_of_mem_references (h : Run es w) (hp : Seen es w p) :
    ∀ n ∈ p.traversal.reading.references, IsAscii n := fun _ hn ↦
  (Identifier.check_eq_ok_iff.1 (h.check_of_mem_references hp hn)).isAscii

theorem isAscii_of_compile (h : Run es w) (hp : Seen es w p) (hc : p.compile = .ok text) :
    IsAscii text := by
  obtain ⟨-, rfl⟩ := Traversal.isBroken_of_compile_eq_ok hc
  exact p.traversal.isAscii_text (h.isAscii_of_mem_references hp)

theorem isAscii_of_states (h : Run es w) {c : Command} (hc : c.States w text) : IsAscii text := by
  obtain ⟨n, body, p, rfl, hn, hp, hbody⟩ := h.exists_of_states hc
  exact (hn.isAscii.append (by decide)).append (h.isAscii_of_compile hp hbody)

/-- A text that is handed over for an errand is a query or a statement. -/
theorem isAscii_of_hands (h : Run es w) {g : StoreId} {r : Errand}
    (hhands : (r.command g).Hands w g text) : IsAscii text := by
  cases r with
  | find i =>
      cases h.admits_of_hands hhands with
      | query hp _ hc _ => exact h.isAscii_of_compile (seen_of_getElem? hp) hc
      | statement ha => cases ha
  | save i => exact h.isAscii_of_states (.save hhands)
  | saveAs i v => exact h.isAscii_of_states (.saveAs hhands)

/-- All that is built and stated is written in ASCII, whatever the names.  So what is sent for an
errand over HTTP has one byte for each character, and can be read as the text again. -/
theorem isAscii_of_built (h : Run es w) :
    (∀ p, Seen es w p → (∀ s ∈ p.segments, IsAscii s) ∧
      ∀ text, p.compile = .ok text → IsAscii text) ∧
    (∀ (c : Command) text, c.States w text → IsAscii text) ∧
    ∀ g (r : Errand) text, (r.command g).Hands w g text → IsAscii text ∧
      ∀ l, w.line? (.store g) = some l → Text.IsBytewise text (l.request text).body ∧
        ∃ l', ((r.command g).run w).2.line? (.store g) = some l' ∧
          (l.Posts text → l'.client.sent = l.client.sent ++ [l.request text]) ∧
          (¬l.Posts text → l'.client.sent = l.client.sent) := by
  refine ⟨fun p hp ↦ ⟨?_, fun text ↦ h.isAscii_of_compile hp⟩, fun c text ↦ h.isAscii_of_states,
    fun g r text hhands ↦ ?_⟩
  · exact p.traversal.isAscii_segments (h.isAscii_of_mem_references hp)
  · have hascii := h.isAscii_of_hands hhands
    refine ⟨hascii, fun l hl ↦ ⟨hascii.isBytewise, _, hhands.line?_eq hl, ?_, ?_⟩⟩
    · exact l.sent_send_of_posts text
    · exact l.sent_send_of_not_posts text

/-- A vertex with a name beyond U+FFFF, sought over HTTP. -/
def astralName : List Command := [
  .connect { Endpoint.default with port := .text "64210" }
    (.http Url.reader (.scripted []) false),
  .startVertices (.selector (.nodes (.one "𝄞é"))),
  .build 0 (.finish .all)]

/-- Its query is posted with one byte for each character. -/
theorem isAscii_of_astralName :
    let w := (Command.runAll astralName .empty).2
    let text := "g.V(\"\\ud834\\udd1e\\u00e9\").All()"
    (Command.find 0 0).Hands w 0 text ∧ IsAscii text ∧
      ∃ l, w.line? (.store 0) = some l ∧ Text.IsBytewise text (l.request text).body := by
  intro w text
  have hrun := Run.start.append_history astralName
    (by simp [astralName, Command.snapshot?, Build.snapshot?])
  have hhands : (Command.find 0 0).Hands w 0 text := by
    obtain ⟨s, hs⟩ := Option.isSome_iff_exists.1
      (show w.stores[0]?.isSome = true by decide +kernel)
    refine hrun.hands_of_admits (r := .find 0) hs ?_
    have hcompile : w.paths[0].compile = .ok text :=
      Traversal.compile_eq_ok_iff.2 ⟨by decide +kernel, by decide +kernel⟩
    refine .query rfl rfl hcompile ?_
    intro j hj
    cases hj
  obtain ⟨hascii, hline⟩ := (isAscii_of_built hrun).2.2 0 (.find 0) text hhands
  obtain ⟨l, hl⟩ := Option.isSome_iff_exists.1
    (show (w.line? (.store 0)).isSome = true by decide +kernel)
  exact ⟨hhands, hascii, l, hl, (hline l hl).1⟩

end Run

end GraphQuery
