import GraphQuery.Proofs.Text.Utf8

/-!
# Well-formed UTF-8

What UTF-8 is can be said without a reader.  A sequence is laid out by how many bytes it has and
stands for a number (`Spells`); it is well-formed if the number needs so many bytes, is no surrogate
and is not beyond U+10FFFF (`IsSequence`).  Such sequences are the bytes of characters
(`isSequence_iff`), so bytes are read exactly if they are well-formed (`wellFormed_iff`).

All other bytes are refused at the end of their longest prefix that is well-formed, for a reason
that depends on what comes there (`FaultAt`): no sequence starts with the byte, the bytes end inside
of a sequence, or a byte does not go on with the sequence.  That a reader does so takes two facts
about continuation bytes: bytes that end too early can be completed
(`exists_takeTail_of_truncated`), and nothing makes good for a byte that does not fit
(`takeTail_append_of_continuation`).
-/

namespace GraphQuery.Text.Utf8

/-! ## Sequences -/

/-- Bytes are laid out as one sequence, which stands for a number. -/
inductive Spells : List UInt8 → Nat → Prop
  | one {a : Nat} : a < 0x80 → Spells [.ofNat a] a
  | two {a b : Nat} : a < 0x20 → b < 0x40 →
      Spells [.ofNat (a + 0xc0), .ofNat (b + 0x80)] (a * 0x40 + b)
  | three {a b c : Nat} : a < 0x10 → b < 0x40 → c < 0x40 →
      Spells [.ofNat (a + 0xe0), .ofNat (b + 0x80), .ofNat (c + 0x80)]
        ((a * 0x40 + b) * 0x40 + c)
  | four {a b c d : Nat} : a < 0x08 → b < 0x40 → c < 0x40 → d < 0x40 →
      Spells [.ofNat (a + 0xf0), .ofNat (b + 0x80), .ofNat (c + 0x80), .ofNat (d + 0x80)]
        (((a * 0x40 + b) * 0x40 + c) * 0x40 + d)

/-- The least number that is not written with fewer bytes. -/
def leastOf : Nat → Nat
  | 0 | 1 => 0
  | 2 => 0x80
  | 3 => 0x800
  | _ => 0x10000

/-- Bytes are the sequence of a character: it is not overlong, and its number is neither a surrogate
nor beyond the last code point. -/
inductive IsSequence : List UInt8 → Prop
  | intro {s : List UInt8} {n : Nat} : Spells s n → leastOf s.length ≤ n →
      ¬(0xd800 ≤ n ∧ n ≤ 0xdfff) → n ≤ 0x10ffff → IsSequence s

/-- Bytes are sequences one after the other. -/
inductive WellFormed : List UInt8 → Prop
  | nil : WellFormed []
  | cons {s bs : List UInt8} : IsSequence s → WellFormed bs → WellFormed (s ++ bs)

variable {s bs tail rest : List UInt8} {lead : UInt8} {n : Nat} {c : Char}

theorem encodeChar_of_spells (h : Spells s n) (hleast : leastOf s.length ≤ n)
    (hsurrogate : ¬(0xd800 ≤ n ∧ n ≤ 0xdfff)) (hlast : n ≤ 0x10ffff) :
    String.utf8EncodeChar (.ofNat n) = s := by
  have hn : n.isValidChar := by
    unfold Nat.isValidChar
    omega
  rw [utf8EncodeChar_eq, toNat_charOfNat hn]
  cases h with
  | one ha => rw [if_pos (by omega)]
  | @two a b ha hb =>
      have hleast : 0x80 ≤ a * 0x40 + b := hleast
      have hlead : (a * 0x40 + b) / 64 % 32 + 192 = a + 0xc0 := by omega
      have hb' : (a * 0x40 + b) % 64 + 128 = b + 0x80 := by omega
      rw [if_neg (by omega), if_pos (by omega), hlead, hb']
  | @three a b c ha hb hc =>
      have hleast : 0x800 ≤ (a * 0x40 + b) * 0x40 + c := hleast
      have hlead : ((a * 0x40 + b) * 0x40 + c) / 4096 % 16 + 224 = a + 0xe0 := by omega
      have hb' : ((a * 0x40 + b) * 0x40 + c) / 64 % 64 + 128 = b + 0x80 := by omega
      have hc' : ((a * 0x40 + b) * 0x40 + c) % 64 + 128 = c + 0x80 := by omega
      rw [if_neg (by omega), if_neg (by omega), if_pos (by omega), hlead, hb', hc']
  | @four a b c d ha hb hc hd =>
      have hleast : 0x10000 ≤ ((a * 0x40 + b) * 0x40 + c) * 0x40 + d := hleast
      have hlead : (((a * 0x40 + b) * 0x40 + c) * 0x40 + d) / 262144 % 8 + 240 = a + 0xf0 := by
        omega
      have hb' : (((a * 0x40 + b) * 0x40 + c) * 0x40 + d) / 4096 % 64 + 128 = b + 0x80 := by omega
      have hc' : (((a * 0x40 + b) * 0x40 + c) * 0x40 + d) / 64 % 64 + 128 = c + 0x80 := by omega
      have hd' : (((a * 0x40 + b) * 0x40 + c) * 0x40 + d) % 64 + 128 = d + 0x80 := by omega
      rw [if_neg (by omega), if_neg (by omega), if_neg (by omega), hlead, hb', hc', hd']

/-- The bytes of a character stand for its code point, and there are as many as it needs. -/
theorem spells_encodeChar (c : Char) : Spells (String.utf8EncodeChar c) c.toNat ∧
    leastOf (String.utf8EncodeChar c).length ≤ c.toNat := by
  have hlast := toNat_lt c
  rw [utf8EncodeChar_eq]
  split_ifs with hone htwo hthree
  · exact ⟨.one (by omega), Nat.zero_le _⟩
  · have hc : c.toNat / 64 % 32 * 0x40 + c.toNat % 64 = c.toNat := by omega
    have hspells := Spells.two (a := c.toNat / 64 % 32) (b := c.toNat % 64) (by omega) (by omega)
    rw [hc] at hspells
    exact ⟨hspells, Nat.lt_of_not_le hone⟩
  · have hc : (c.toNat / 4096 % 16 * 0x40 + c.toNat / 64 % 64) * 0x40 + c.toNat % 64 = c.toNat := by
      omega
    have hspells := Spells.three (a := c.toNat / 4096 % 16) (b := c.toNat / 64 % 64)
      (c := c.toNat % 64) (by omega) (by omega) (by omega)
    rw [hc] at hspells
    exact ⟨hspells, Nat.lt_of_not_le htwo⟩
  · have hc : ((c.toNat / 262144 % 8 * 0x40 + c.toNat / 4096 % 64) * 0x40 + c.toNat / 64 % 64) *
        0x40 + c.toNat % 64 = c.toNat := by omega
    have hspells := Spells.four (a := c.toNat / 262144 % 8) (b := c.toNat / 4096 % 64)
      (c := c.toNat / 64 % 64) (d := c.toNat % 64) (by omega) (by omega) (by omega) (by omega)
    rw [hc] at hspells
    exact ⟨hspells, Nat.lt_of_not_le hthree⟩

/-- The well-formed sequences are the bytes of characters. -/
theorem isSequence_iff : IsSequence s ↔ ∃ c, String.utf8EncodeChar c = s := by
  constructor
  · rintro ⟨hspells, hleast, hsurrogate, hlast⟩
    exact ⟨_, encodeChar_of_spells hspells hleast hsurrogate hlast⟩
  · rintro ⟨c, rfl⟩
    obtain ⟨hspells, hleast⟩ := spells_encodeChar c
    have hlast := toNat_lt c
    have hsurrogate := not_surrogate c
    exact .intro hspells hleast (by omega) (by omega)

/-- Well-formed bytes are the bytes of texts. -/
theorem wellFormed_iff : WellFormed bs ↔ IsEncoded bs := by
  constructor
  · intro h
    induction h with
    | nil => exact ⟨[], rfl⟩
    | cons hs _ ih =>
        obtain ⟨c, rfl⟩ := isSequence_iff.1 hs
        obtain ⟨cs, rfl⟩ := ih
        exact ⟨c :: cs, rfl⟩
  · rintro ⟨cs, rfl⟩
    induction cs with
    | nil => exact .nil
    | cons c cs ih => exact .cons (isSequence_iff.2 ⟨c, rfl⟩) ih

/-! ## Faults -/

/-- Why bytes do not go on as a text, when no sequence stands in front of them. -/
inductive Explains : Reason → List UInt8 → Prop
  /-- No sequence starts with the byte. -/
  | start {b : UInt8} {bs : List UInt8} : (∀ s, IsSequence s → s.head? ≠ some b) →
      Explains .start (b :: bs)
  /-- The bytes end inside of a sequence. -/
  | truncated {b : UInt8} {bs more : List UInt8} : IsSequence (b :: bs ++ more) →
      Explains .truncated (b :: bs)
  /-- Sequences start with the byte, but none of them goes on like this. -/
  | continuation {b : UInt8} {bs : List UInt8} : (∃ s, IsSequence s ∧ s.head? = some b) →
      (∀ more, ¬IsSequence (b :: bs ++ more)) → Explains .continuation (b :: bs)

/-- Bytes are no text.  So many of them are well-formed, and no more than these, and this is why the
rest of them does not go on as a text. -/
structure FaultAt (bs : List UInt8) (position : Nat) (reason : Reason) : Prop where
  wellFormed : WellFormed (bs.take position)
  longest : ∀ before, before <+: bs → WellFormed before → before.length ≤ position
  explains : Explains reason (bs.drop position)

/-! ## Continuation bytes -/

variable {k : Nat} {range : UInt8 × UInt8} {r : Refusal}

/-- Some bytes are always taken. -/
theorem exists_takeTail (k : Nat) (hrange : range.1 ≤ range.2) :
    ∃ tail, takeTail k range tail = .ok (tail, []) := by
  induction k generalizing range with
  | zero => exact ⟨[], rfl⟩
  | succ k ih =>
      obtain ⟨tail, htail⟩ : ∃ tail, takeTail k (0x80, 0xbf) tail = .ok (tail, []) :=
        ih (by decide)
      refine ⟨range.1 :: tail, ?_⟩
      rw [takeTail, if_pos (by simpa using hrange), htail]

/-- Continuation bytes that end too early can be completed. -/
theorem exists_takeTail_of_truncated (hrange : range.1 ≤ range.2)
    (h : takeTail k range bs = .error r) (hr : r.reason = .truncated) :
    ∃ more, takeTail k range (bs ++ more) = .ok (bs ++ more, []) := by
  induction k generalizing range bs with
  | zero => cases h
  | succ k ih =>
      cases bs with
      | nil => exact exists_takeTail (k + 1) hrange
      | cons b bs =>
          rw [takeTail] at h
          split at h
          · rename_i hb
            split at h
            · cases h
            · rename_i r' htail
              cases h
              obtain ⟨more, hmore⟩ := ih (by decide) htail
              refine ⟨more, ?_⟩
              rw [List.cons_append, takeTail, if_pos hb, hmore]
          · cases h
            cases hr

/-- A byte that does not fit is not made good for by what comes behind. -/
theorem takeTail_append_of_continuation (h : takeTail k range bs = .error r)
    (hr : r.reason = .continuation) (more : List UInt8) (p : List UInt8 × List UInt8) :
    takeTail k range (bs ++ more) ≠ .ok p := by
  induction k generalizing range bs p with
  | zero => cases h
  | succ k ih =>
      cases bs with
      | nil =>
          cases h
          cases hr
      | cons b bs =>
          rw [takeTail] at h
          rw [List.cons_append, takeTail]
          split at h
          · rename_i hb
            split at h
            · cases h
            · rename_i r' htail
              cases h
              rw [if_pos hb]
              split
              · rename_i tail rest hmore
                exact absurd hmore (ih htail _)
              · intro hok
                cases hok
          · rename_i hb
            rw [if_neg hb]
            intro hok
            cases hok

theorem takeTail_reason_ne_start (h : takeTail k range bs = .error r) : r.reason ≠ .start := by
  induction k generalizing range bs with
  | zero => cases h
  | succ k ih =>
      cases bs with
      | nil =>
          cases h
          intro hr
          cases hr
      | cons b bs =>
          rw [takeTail] at h
          split at h
          · split at h
            · cases h
            · rename_i htail
              cases h
              exact ih htail
          · cases h
            intro hr
            cases hr

theorem secondRange_le (lead : UInt8) : (secondRange lead).1 ≤ (secondRange lead).2 := by
  unfold secondRange
  split_ifs <;> decide

/-! ## Bytes that are refused -/

/-- A sequence in front of bytes is taken for its character. -/
theorem next_of_isSequence (hs : IsSequence s) (h : s ++ rest = lead :: bs) :
    ∃ c, String.utf8EncodeChar c = s ∧ next lead bs = .ok (c, rest) := by
  obtain ⟨c, rfl⟩ := isSequence_iff.1 hs
  obtain ⟨lead', tail, hbytes, hnext⟩ := next_encodeChar c rest
  rw [hbytes, List.cons_append] at h
  cases h
  exact ⟨c, rfl, hnext⟩

/-- What is taken for a character with nothing left is a sequence. -/
theorem isSequence_of_next (h : next lead tail = .ok (c, [])) : IsSequence (lead :: tail) := by
  refine isSequence_iff.2 ⟨c, ?_⟩
  rw [← encodeChar_append_of_next h, List.append_nil]

theorem isSequence_of_takeTail (hlength : tailLength? lead = some k)
    (htail : takeTail k (secondRange lead) tail = .ok (tail, [])) : IsSequence (lead :: tail) := by
  apply isSequence_of_next (c := .ofNat (codePoint lead tail))
  simp only [next, hlength, htail]

/-- What is not taken for a character is explained. -/
theorem explains_of_next (h : next lead bs = .error r) : Explains r.reason (lead :: bs) := by
  cases hlength : tailLength? lead with
  | none =>
      have hnone (tail : List UInt8) : next lead tail = .error ⟨.start, tail⟩ := by
        simp only [next, hlength]
      rw [hnone] at h
      cases h
      apply Explains.start
      intro s hs hhead
      obtain ⟨tail, rfl⟩ := List.head?_eq_some_iff.1 hhead
      obtain ⟨c, -, hc⟩ := next_of_isSequence hs (List.append_nil _)
      rw [hnone] at hc
      cases hc
  | some k =>
      have htail : takeTail k (secondRange lead) bs = .error r := by
        simp only [next, hlength] at h
        split at h
        · cases h
        · rename_i htail
          rwa [Except.error.inj h] at htail
      cases hr : r.reason with
      | start => exact absurd hr (takeTail_reason_ne_start htail)
      | truncated =>
          obtain ⟨more, hmore⟩ := exists_takeTail_of_truncated (secondRange_le lead) htail hr
          exact .truncated (isSequence_of_takeTail hlength hmore)
      | continuation =>
          obtain ⟨tail, hstart⟩ := exists_takeTail k (secondRange_le lead)
          refine .continuation ⟨_, isSequence_of_takeTail hlength hstart, rfl⟩ fun more hs ↦ ?_
          obtain ⟨c, -, hc⟩ := next_of_isSequence hs (List.append_nil _)
          simp only [next, hlength] at hc
          split at hc
          · rename_i hmore
            exact takeTail_append_of_continuation htail hr more _ hmore
          · cases hc

/-- Bytes that are refused begin with as many well-formed ones as can be, and what is refused is
explained. -/
theorem faultAt_of_decode {f : Failure} (h : decode bs = .error f) :
    ∃ before, bs = before ++ f.rest ∧ FaultAt bs before.length f.reason := by
  induction bs using decode.induct with
  | case1 =>
      rw [decode] at h
      cases h
  | case2 b bs c rest hnext cs hrest ih =>
      rw [decode, hnext] at h
      simp only [hrest] at h
      cases h
  | case3 b bs c rest hnext f' hrest ih =>
      rw [decode, hnext] at h
      simp only [hrest, Except.error.injEq] at h
      subst h
      obtain ⟨before, hsplit, hfault⟩ := ih hrest
      have hbytes := encodeChar_append_of_next hnext
      have hwell : WellFormed before := by
        have htake := hfault.wellFormed
        rwa [hsplit, List.take_left] at htake
      have hexplains : Explains f'.reason f'.rest := by
        have hdrop := hfault.explains
        rwa [hsplit, List.drop_left] at hdrop
      refine ⟨String.utf8EncodeChar c ++ before, ?_, ?_, ?_, ?_⟩
      · rw [List.append_assoc, ← hsplit, hbytes]
      · rw [← hbytes, hsplit, ← List.append_assoc, List.take_left]
        exact .cons (isSequence_iff.2 ⟨c, rfl⟩) hwell
      · rintro _ ⟨after, hafter⟩ (_ | ⟨hs, hp⟩)
        · exact Nat.zero_le _
        · rw [List.append_assoc] at hafter
          obtain ⟨c', rfl, hnext'⟩ := next_of_isSequence hs hafter
          rw [hnext] at hnext'
          cases hnext'
          have hlength := hfault.longest _ (List.prefix_append _ _) hp
          rw [List.length_append, List.length_append]
          exact Nat.add_le_add_left hlength _
      · rw [← hbytes, hsplit, ← List.append_assoc, List.drop_left]
        exact hexplains
  | case4 b bs r hnext =>
      rw [decode, hnext] at h
      simp only [Except.error.injEq] at h
      subst h
      refine ⟨[], rfl, .nil, ?_, explains_of_next hnext⟩
      rintro _ ⟨after, hafter⟩ (_ | ⟨hs, _⟩)
      · exact Nat.le_refl 0
      · rw [List.append_assoc] at hafter
        obtain ⟨c, -, hc⟩ := next_of_isSequence hs hafter
        rw [hnext] at hc
        cases hc

/-! ## One fault -/

variable {position position' : Nat} {reason reason' : Reason}

/-- Only one reason explains why bytes do not go on. -/
theorem Explains.reason_eq (h : Explains reason bs) (h' : Explains reason' bs) :
    reason = reason' := by
  cases h with
  | start hnone =>
      cases h' with
      | start => rfl
      | truncated hs => exact absurd rfl (hnone _ hs)
      | continuation hsome _ =>
          obtain ⟨s, hs, hhead⟩ := hsome
          exact absurd hhead (hnone s hs)
  | truncated hs =>
      cases h' with
      | start hnone => exact absurd rfl (hnone _ hs)
      | truncated => rfl
      | continuation _ hnone => exact absurd hs (hnone _)
  | continuation hsome hnone =>
      cases h' with
      | start hnone' =>
          obtain ⟨s, hs, hhead⟩ := hsome
          exact absurd hhead (hnone' s hs)
      | truncated hs => exact absurd hs (hnone _)
      | continuation => rfl

namespace FaultAt

theorem position_lt (h : FaultAt bs position reason) : position < bs.length := by
  rcases Nat.lt_or_ge position bs.length with hlt | hge
  · exact hlt
  · have hexplains := h.explains
    rw [List.drop_eq_nil_of_le hge] at hexplains
    cases hexplains

/-- Bytes with a fault are not well-formed. -/
theorem not_wellFormed (h : FaultAt bs position reason) : ¬WellFormed bs := by
  intro hbs
  exact Nat.not_le_of_lt h.position_lt (h.longest bs (List.prefix_refl bs) hbs)

theorem position_le (h : FaultAt bs position reason) (h' : FaultAt bs position' reason') :
    position ≤ position' := by
  have hlength := h'.longest _ (List.take_prefix position bs) h.wellFormed
  rwa [List.length_take, Nat.min_eq_left (Nat.le_of_lt h.position_lt)] at hlength

/-- Bytes have one fault at most. -/
theorem eq (h : FaultAt bs position reason) (h' : FaultAt bs position' reason') :
    position = position' ∧ reason = reason' := by
  obtain rfl := Nat.le_antisymm (h.position_le h') (h'.position_le h)
  exact ⟨rfl, h.explains.reason_eq h'.explains⟩

end FaultAt

end GraphQuery.Text.Utf8
