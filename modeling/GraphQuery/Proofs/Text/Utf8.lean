import GraphQuery.Proofs.Text.Literal
import GraphQuery.Text.Utf8
import Mathlib.Tactic.SplitIfs

/-!
# Reading encoded text back

The bytes of a character are one sequence for the reader, whatever comes after them, and it takes
the sequence for the character that was written.  A lead byte says how many bytes follow and where
the first of them must lie (`takeTail_second`), so there is one case for each of the four lengths;
that a text is read back (`decode_encode`) is then one induction on the text.

The other way round, whatever is taken for a character are the bytes of that character
(`encodeChar_append_of_next`): the bounds are such that none is taken for one that is written with
fewer bytes, or for none at all.  So bytes that are not those of a text are not read
(`isEncoded_iff`).
-/

namespace GraphQuery.Text.Utf8

variable {n : Nat} {bs tail rest : List UInt8}

/-! ## Bytes as numbers -/

theorem toNat_ofNat_of_lt (h : n < 256) : (UInt8.ofNat n).toNat = n := by
  rw [UInt8.toNat_ofNat', Nat.mod_eq_of_lt h]

theorem tailLength?_ofNat (h : n < 256) : tailLength? (.ofNat n) =
    if n < 0x80 then some 0
    else if n < 0xc2 then none
    else if n < 0xe0 then some 1
    else if n < 0xf0 then some 2
    else if n < 0xf5 then some 3
    else none := by
  simp only [tailLength?, UInt8.lt_iff_toNat_lt, toNat_ofNat_of_lt h]
  rfl

/-- The bounds for the first continuation byte are narrower after four lead bytes. -/
theorem secondRange_ofNat (h : n < 256) :
    (secondRange (.ofNat n)).1.toNat =
        (if n = 0xe0 then 0xa0 else if n = 0xf0 then 0x90 else 0x80) ∧
      (secondRange (.ofNat n)).2.toNat =
        (if n = 0xed then 0x9f else if n = 0xf4 then 0x8f else 0xbf) := by
  simp only [secondRange, ← UInt8.toNat_inj, toNat_ofNat_of_lt h, UInt8.reduceToNat]
  constructor <;> split_ifs <;> first | rfl | omega

/-- A continuation byte between the bounds is taken. -/
theorem takeTail_cons {k : Nat} {range : UInt8 × UInt8} (hn : n < 256) (hlow : range.1.toNat ≤ n)
    (hhigh : n ≤ range.2.toNat) (h : takeTail k (0x80, 0xbf) bs = .ok (tail, rest)) :
    takeTail (k + 1) range (.ofNat n :: bs) = .ok (.ofNat n :: tail, rest) := by
  have hrange : range.1 ≤ .ofNat n ∧ .ofNat n ≤ range.2 := by
    rw [UInt8.le_iff_toNat_le, UInt8.le_iff_toNat_le, toNat_ofNat_of_lt hn]
    exact ⟨hlow, hhigh⟩
  rw [takeTail, if_pos (by simpa using hrange), h]

/-- The first continuation byte of a sequence that is neither overlong, nor a surrogate, nor beyond
the last code point. -/
theorem takeTail_second {k m : Nat} (hn : n < 256) (hm : m < 64)
    (hlong : (n = 0xe0 → 32 ≤ m) ∧ (n = 0xf0 → 16 ≤ m))
    (hrange : (n = 0xed → m < 32) ∧ (n = 0xf4 → m < 16))
    (h : takeTail k (0x80, 0xbf) bs = .ok (tail, rest)) :
    takeTail (k + 1) (secondRange (.ofNat n)) (.ofNat (m + 128) :: bs) =
      .ok (.ofNat (m + 128) :: tail, rest) := by
  obtain ⟨hmin, hmax⟩ := secondRange_ofNat hn
  refine takeTail_cons (by omega) ?_ ?_ h
  · rw [hmin]
    split_ifs <;> omega
  · rw [hmax]
    split_ifs <;> omega

/-- Any later continuation byte. -/
theorem takeTail_later {k m : Nat} (hm : m < 64)
    (h : takeTail k (0x80, 0xbf) bs = .ok (tail, rest)) :
    takeTail (k + 1) (0x80, 0xbf) (.ofNat (m + 128) :: bs) = .ok (.ofNat (m + 128) :: tail, rest) :=
  takeTail_cons (by omega) (Nat.le_add_left _ _) (by change _ ≤ 191; omega) h

/-! ## Sequences -/

variable {c : Char}

theorem next_eq_ok {lead : UInt8} {k : Nat} (hlength : tailLength? lead = some k)
    (htail : takeTail k (secondRange lead) bs = .ok (tail, rest))
    (hc : codePoint lead tail = c.toNat) : next lead bs = .ok (c, rest) := by
  simp only [next, hlength, htail, hc, Char.ofNat_toNat]

theorem next_one (h : c.toNat ≤ 127) : next (.ofNat c.toNat) bs = .ok (c, bs) := by
  refine next_eq_ok (k := 0) ?_ rfl (toNat_ofNat_of_lt (by omega))
  rw [tailLength?_ofNat (by omega), if_pos (by omega)]

theorem next_two (hlow : 127 < c.toNat) (hhigh : c.toNat ≤ 2047) :
    next (.ofNat (c.toNat / 64 % 32 + 192)) (.ofNat (c.toNat % 64 + 128) :: bs) = .ok (c, bs) := by
  have hlead : c.toNat / 64 % 32 + 192 < 256 := by omega
  refine next_eq_ok (k := 1) ?_ (takeTail_second hlead (by omega) (by omega) (by omega) rfl) ?_
  · rw [tailLength?_ofNat hlead]
    split_ifs <;> first | rfl | omega
  · change (UInt8.ofNat _).toNat % 32 * 64 + (UInt8.ofNat _).toNat % 64 = _
    rw [toNat_ofNat_of_lt hlead, toNat_ofNat_of_lt (by omega)]
    omega

theorem next_three (hlow : 2047 < c.toNat) (hhigh : c.toNat ≤ 65535) :
    next (.ofNat (c.toNat / 4096 % 16 + 224))
      (.ofNat (c.toNat / 64 % 64 + 128) :: .ofNat (c.toNat % 64 + 128) :: bs) = .ok (c, bs) := by
  have hsurrogate := not_surrogate c
  have hlead : c.toNat / 4096 % 16 + 224 < 256 := by omega
  refine next_eq_ok (k := 2) ?_ (takeTail_second hlead (by omega) (by omega) (by omega)
    (takeTail_later (by omega) rfl)) ?_
  · rw [tailLength?_ofNat hlead]
    split_ifs <;> first | rfl | omega
  · change ((UInt8.ofNat _).toNat % 16 * 64 + (UInt8.ofNat _).toNat % 64) * 64 +
      (UInt8.ofNat _).toNat % 64 = _
    rw [toNat_ofNat_of_lt hlead, toNat_ofNat_of_lt (by omega), toNat_ofNat_of_lt (by omega)]
    omega

theorem next_four (hlow : 65535 < c.toNat) :
    next (.ofNat (c.toNat / 262144 % 8 + 240))
      (.ofNat (c.toNat / 4096 % 64 + 128) :: .ofNat (c.toNat / 64 % 64 + 128) ::
        .ofNat (c.toNat % 64 + 128) :: bs) = .ok (c, bs) := by
  have hlast := toNat_lt c
  have hlead : c.toNat / 262144 % 8 + 240 < 256 := by omega
  refine next_eq_ok (k := 3) ?_ (takeTail_second hlead (by omega) (by omega) (by omega)
    (takeTail_later (by omega) (takeTail_later (by omega) rfl))) ?_
  · rw [tailLength?_ofNat hlead]
    split_ifs <;> first | rfl | omega
  · change (((UInt8.ofNat _).toNat % 8 * 64 + (UInt8.ofNat _).toNat % 64) * 64 +
      (UInt8.ofNat _).toNat % 64) * 64 + (UInt8.ofNat _).toNat % 64 = _
    rw [toNat_ofNat_of_lt hlead, toNat_ofNat_of_lt (by omega), toNat_ofNat_of_lt (by omega),
      toNat_ofNat_of_lt (by omega)]
    omega

/-! ## Texts -/

/-- The bytes of a character, by how many there are. -/
theorem utf8EncodeChar_eq (c : Char) : String.utf8EncodeChar c =
    if c.toNat ≤ 127 then [.ofNat c.toNat]
    else if c.toNat ≤ 2047 then [.ofNat (c.toNat / 64 % 32 + 192), .ofNat (c.toNat % 64 + 128)]
    else if c.toNat ≤ 65535 then [.ofNat (c.toNat / 4096 % 16 + 224),
      .ofNat (c.toNat / 64 % 64 + 128), .ofNat (c.toNat % 64 + 128)]
    else [.ofNat (c.toNat / 262144 % 8 + 240), .ofNat (c.toNat / 4096 % 64 + 128),
      .ofNat (c.toNat / 64 % 64 + 128), .ofNat (c.toNat % 64 + 128)] := rfl

/-- The bytes of a character are one sequence, and stand for the character. -/
theorem next_encodeChar (c : Char) (bs : List UInt8) : ∃ lead tail,
    String.utf8EncodeChar c = lead :: tail ∧ next lead (tail ++ bs) = .ok (c, bs) := by
  rw [utf8EncodeChar_eq]
  split_ifs with hone htwo hthree
  · exact ⟨_, _, rfl, next_one hone⟩
  · exact ⟨_, _, rfl, next_two (by omega) htwo⟩
  · exact ⟨_, _, rfl, next_three (by omega) hthree⟩
  · exact ⟨_, _, rfl, next_four (by omega)⟩

/-- A text that was encoded is read back. -/
theorem decode_encode (cs : List Char) : decode (encode cs) = .ok cs := by
  induction cs with
  | nil => rw [encode, List.flatMap_nil, decode]
  | cons c cs ih =>
      obtain ⟨lead, tail, hbytes, hnext⟩ := next_encodeChar c (encode cs)
      rw [encode, List.flatMap_cons, hbytes, ← encode, List.cons_append, decode, hnext]
      simp only [ih]

/-! ## Sequences that are read -/

theorem exists_of_takeTail_succ {k : Nat} {range : UInt8 × UInt8}
    (h : takeTail (k + 1) range bs = .ok (tail, rest)) :
    ∃ b tail' bs', bs = b :: bs' ∧ tail = b :: tail' ∧
      (range.1.toNat ≤ b.toNat ∧ b.toNat ≤ range.2.toNat) ∧
      takeTail k (0x80, 0xbf) bs' = .ok (tail', rest) := by
  cases bs with
  | nil => cases h
  | cons b bs =>
      rw [takeTail] at h
      split at h
      · rename_i hrange
        split at h
        · rename_i tail' rest' htail
          cases h
          simp only [Bool.and_eq_true, decide_eq_true_eq, UInt8.le_iff_toNat_le] at hrange
          exact ⟨b, tail', bs, rfl, rfl, hrange, htail⟩
        · cases h
      · cases h

/-- A lead byte and the bounds of the byte behind it, by the number of bytes that it asks for. -/
theorem lead_of_tailLength? {lead : UInt8} {k : Nat} (h : tailLength? lead = some k) :
    k = 0 ∧ lead.toNat < 0x80 ∨ k = 1 ∧ 0xc2 ≤ lead.toNat ∧ lead.toNat < 0xe0 ∨
      k = 2 ∧ 0xe0 ≤ lead.toNat ∧ lead.toNat < 0xf0 ∨
      k = 3 ∧ 0xf0 ≤ lead.toNat ∧ lead.toNat < 0xf5 := by
  rw [← UInt8.ofNat_toNat (x := lead), tailLength?_ofNat lead.toNat_lt] at h
  split_ifs at h <;> cases h <;> omega

theorem toNat_charOfNat (h : n.isValidChar) : (Char.ofNat n).toNat = n := by
  rw [Char.ofNat, dif_pos h]
  rfl

theorem eq_ofNat {b : UInt8} (h : b.toNat = n) : UInt8.ofNat n = b := by
  rw [← h, UInt8.ofNat_toNat]

/-- The bounds of the byte behind a lead byte keep its sequence from being overlong or a surrogate,
and from being beyond the last code point. -/
theorem bounds_of_secondRange {lead b : UInt8} (hlow : (secondRange lead).1.toNat ≤ b.toNat)
    (hhigh : b.toNat ≤ (secondRange lead).2.toNat) : 0x80 ≤ b.toNat ∧ b.toNat ≤ 0xbf ∧
      (lead.toNat = 0xe0 → 0xa0 ≤ b.toNat) ∧ (lead.toNat = 0xf0 → 0x90 ≤ b.toNat) ∧
      (lead.toNat = 0xed → b.toNat ≤ 0x9f) ∧ (lead.toNat = 0xf4 → b.toNat ≤ 0x8f) := by
  rw [← UInt8.ofNat_toNat (x := lead)] at hlow hhigh
  obtain ⟨hmin, hmax⟩ := secondRange_ofNat lead.toNat_lt
  rw [hmin] at hlow
  rw [hmax] at hhigh
  split_ifs at hlow hhigh <;> omega

section Sequences

variable {lead b₁ b₂ b₃ : UInt8}

theorem encodeChar_one (h : lead.toNat < 0x80) :
    String.utf8EncodeChar (.ofNat (codePoint lead [])) = [lead] := by
  have hn : codePoint lead [] = lead.toNat := rfl
  rw [utf8EncodeChar_eq, toNat_charOfNat (.inl (by omega)), if_pos (by omega),
    eq_ofNat (b := lead) (by omega)]

theorem encodeChar_two (hlow : 0xc2 ≤ lead.toNat) (hhigh : lead.toNat < 0xe0)
    (h₁ : 0x80 ≤ b₁.toNat ∧ b₁.toNat ≤ 0xbf) :
    String.utf8EncodeChar (.ofNat (codePoint lead [b₁])) = [lead, b₁] := by
  have hn : codePoint lead [b₁] = lead.toNat % 32 * 64 + b₁.toNat % 64 := rfl
  rw [utf8EncodeChar_eq, toNat_charOfNat (.inl (by omega)), if_neg (by omega), if_pos (by omega),
    eq_ofNat (b := lead) (by omega), eq_ofNat (b := b₁) (by omega)]

theorem encodeChar_three (hlow : 0xe0 ≤ lead.toNat) (hhigh : lead.toNat < 0xf0)
    (h₁ : 0x80 ≤ b₁.toNat ∧ b₁.toNat ≤ 0xbf) (hlong : lead.toNat = 0xe0 → 0xa0 ≤ b₁.toNat)
    (hsurrogate : lead.toNat = 0xed → b₁.toNat ≤ 0x9f)
    (h₂ : 0x80 ≤ b₂.toNat ∧ b₂.toNat ≤ 0xbf) :
    String.utf8EncodeChar (.ofNat (codePoint lead [b₁, b₂])) = [lead, b₁, b₂] := by
  have hn : codePoint lead [b₁, b₂] =
    (lead.toNat % 16 * 64 + b₁.toNat % 64) * 64 + b₂.toNat % 64 := rfl
  rw [utf8EncodeChar_eq, toNat_charOfNat (by rw [hn]; unfold Nat.isValidChar; omega),
    if_neg (by omega), if_neg (by omega), if_pos (by omega), eq_ofNat (b := lead) (by omega),
    eq_ofNat (b := b₁) (by omega), eq_ofNat (b := b₂) (by omega)]

theorem encodeChar_four (hlow : 0xf0 ≤ lead.toNat) (hhigh : lead.toNat < 0xf5)
    (h₁ : 0x80 ≤ b₁.toNat ∧ b₁.toNat ≤ 0xbf) (hlong : lead.toNat = 0xf0 → 0x90 ≤ b₁.toNat)
    (hlast : lead.toNat = 0xf4 → b₁.toNat ≤ 0x8f)
    (h₂ : 0x80 ≤ b₂.toNat ∧ b₂.toNat ≤ 0xbf) (h₃ : 0x80 ≤ b₃.toNat ∧ b₃.toNat ≤ 0xbf) :
    String.utf8EncodeChar (.ofNat (codePoint lead [b₁, b₂, b₃])) = [lead, b₁, b₂, b₃] := by
  have hn : codePoint lead [b₁, b₂, b₃] =
    ((lead.toNat % 8 * 64 + b₁.toNat % 64) * 64 + b₂.toNat % 64) * 64 + b₃.toNat % 64 := rfl
  rw [utf8EncodeChar_eq, toNat_charOfNat (.inr (by omega)), if_neg (by omega), if_neg (by omega),
    if_neg (by omega), eq_ofNat (b := lead) (by omega), eq_ofNat (b := b₁) (by omega),
    eq_ofNat (b := b₂) (by omega), eq_ofNat (b := b₃) (by omega)]

/-- What is read as a character are the bytes of the character. -/
theorem encodeChar_append_of_next (h : next lead bs = .ok (c, rest)) :
    String.utf8EncodeChar c ++ rest = lead :: bs := by
  unfold next at h
  split at h
  · cases h
  · rename_i k hlength
    split at h
    · rename_i tail rest' htail
      obtain ⟨rfl, rfl⟩ : Char.ofNat (codePoint lead tail) = c ∧ rest' = rest := by simpa using h
      rcases lead_of_tailLength? hlength with ⟨rfl, hlead⟩ | ⟨rfl, hlow, hhigh⟩ |
        ⟨rfl, hlow, hhigh⟩ | ⟨rfl, hlow, hhigh⟩
      · cases htail
        rw [encodeChar_one hlead]
        rfl
      · obtain ⟨b₁, _, _, rfl, rfl, h₁, htail⟩ := exists_of_takeTail_succ htail
        cases htail
        have hbounds := bounds_of_secondRange h₁.1 h₁.2
        rw [encodeChar_two hlow hhigh ⟨hbounds.1, hbounds.2.1⟩]
        rfl
      · obtain ⟨b₁, _, _, rfl, rfl, h₁, htail⟩ := exists_of_takeTail_succ htail
        obtain ⟨b₂, _, _, rfl, rfl, h₂, htail⟩ := exists_of_takeTail_succ htail
        cases htail
        obtain ⟨hmin, hmax, hlong, _, hsurrogate, _⟩ := bounds_of_secondRange h₁.1 h₁.2
        rw [encodeChar_three hlow hhigh ⟨hmin, hmax⟩ hlong hsurrogate h₂]
        rfl
      · obtain ⟨b₁, _, _, rfl, rfl, h₁, htail⟩ := exists_of_takeTail_succ htail
        obtain ⟨b₂, _, _, rfl, rfl, h₂, htail⟩ := exists_of_takeTail_succ htail
        obtain ⟨b₃, _, _, rfl, rfl, h₃, htail⟩ := exists_of_takeTail_succ htail
        cases htail
        obtain ⟨hmin, hmax, _, hlong, _, hlast⟩ := bounds_of_secondRange h₁.1 h₁.2
        rw [encodeChar_four hlow hhigh ⟨hmin, hmax⟩ hlong hlast h₂ h₃]
        rfl
    · cases h

end Sequences

/-! ## Texts that are read -/

/-- What is read as a text are the bytes of the text. -/
theorem encode_of_decode {cs : List Char} (h : decode bs = .ok cs) : encode cs = bs := by
  induction bs using decode.induct generalizing cs with
  | case1 =>
      rw [decode] at h
      cases h
      rfl
  | case2 b bs c rest hnext cs' hrest ih =>
      rw [decode, hnext] at h
      simp only [hrest, Except.ok.injEq] at h
      subst h
      rw [encode, List.flatMap_cons, ← encode, ih hrest]
      exact encodeChar_append_of_next hnext
  | case3 b bs c rest hnext f hrest _ =>
      rw [decode, hnext] at h
      simp only [hrest] at h
      cases h
  | case4 b bs r hnext =>
      rw [decode, hnext] at h
      cases h

/-- Bytes are those of a text. -/
def IsEncoded (bs : List UInt8) : Prop := ∃ cs, encode cs = bs

/-- Bytes are read if and only if they are those of a text. -/
theorem isEncoded_iff : IsEncoded bs ↔ ∃ cs, decode bs = .ok cs := by
  constructor
  · rintro ⟨cs, rfl⟩
    exact ⟨cs, decode_encode cs⟩
  · rintro ⟨cs, hcs⟩
    exact ⟨cs, encode_of_decode hcs⟩

end GraphQuery.Text.Utf8
