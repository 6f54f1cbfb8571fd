import GraphQuery.Json.Token
import GraphQuery.Text.Quote

/-!
# Reading quoted literals back

The reader of string literals undoes the writer: from behind the opening mark of the literal of a
name it stops at the closing mark, whatever comes after it, and what it has read are the code units
of the name, which join to its code points again.  So a literal says where it ends and which name it
is the literal of, and two names never have the same one.
-/

namespace GraphQuery

/-! ## Code units -/

namespace Text

theorem toNat_lt (c : Char) : c.toNat < 0x110000 := by
  rcases c.valid with h | ⟨_, h⟩
  · exact Nat.lt_trans h (by decide)
  · exact h

/-- No character is a surrogate. -/
theorem not_surrogate (c : Char) : ¬(0xd800 ≤ c.toNat ∧ c.toNat < 0xe000) := by
  rintro ⟨hlow, hhigh⟩
  rcases c.valid with h | ⟨h, _⟩
  · exact absurd h (Nat.not_lt.2 hlow)
  · exact absurd h (Nat.not_lt.2 (Nat.le_of_lt_succ hhigh))

/-- Code units have sixteen bits. -/
theorem lt_of_mem_codeUnits {c : Char} {u : Nat} (h : u ∈ codeUnits c) : u < 0x10000 := by
  have hc := toNat_lt c
  unfold codeUnits at h
  split at h
  · simp only [List.mem_singleton] at h
    omega
  · simp only [List.mem_cons, List.not_mem_nil, or_false] at h
    omega

theorem codeUnits_of_lt {c : Char} (h : c.toNat < 0x10000) : codeUnits c = [c.toNat] := if_pos h

theorem codeUnits_of_le {c : Char} (h : 0x10000 ≤ c.toNat) :
    codeUnits c = [0xD800 + (c.toNat - 0x10000) / 0x400, 0xDC00 + (c.toNat - 0x10000) % 0x400] :=
  if_neg (Nat.not_lt.2 h)

/-- A code unit that is no surrogate is a code point by itself. -/
theorem joinUnits_cons {u : Nat} (h : ¬(0xd800 ≤ u ∧ u < 0xe000)) (units : List Nat) :
    Json.joinUnits (u :: units) = .ofNat u :: Json.joinUnits units := by
  cases units with
  | nil => rfl
  | cons v units =>
      have hpair : ¬(0xd800 ≤ u ∧ u < 0xdc00 ∧ 0xdc00 ≤ v ∧ v < 0xe000) := by omega
      rw [Json.joinUnits, if_neg hpair]

/-- A high and a low surrogate are the code point of one character. -/
theorem joinUnits_pair {u v : Nat} (h : 0xd800 ≤ u ∧ u < 0xdc00 ∧ 0xdc00 ≤ v ∧ v < 0xe000)
    (units : List Nat) : Json.joinUnits (u :: v :: units) =
      .ofNat (0x10000 + (u - 0xd800) * 0x400 + (v - 0xdc00)) :: Json.joinUnits units := by
  rw [Json.joinUnits, if_pos h]

/-- The code units of a character join to its code point, whatever comes after them. -/
theorem joinUnits_codeUnits (c : Char) (units : List Nat) :
    Json.joinUnits (codeUnits c ++ units) = .ofChar c :: Json.joinUnits units := by
  rcases Nat.lt_or_ge c.toNat 0x10000 with h | h
  · rw [codeUnits_of_lt h, List.singleton_append, joinUnits_cons (not_surrogate c),
      CodePoint.ofChar]
  · have hc := toNat_lt c
    have hchar : 0x10000 + (0xD800 + (c.toNat - 0x10000) / 0x400 - 0xd800) * 0x400 +
        (0xDC00 + (c.toNat - 0x10000) % 0x400 - 0xdc00) = c.toNat := by omega
    rw [codeUnits_of_le h, List.cons_append, List.singleton_append, joinUnits_pair (by omega),
      hchar, CodePoint.ofChar]

/-- The code units of a text join to its code points. -/
theorem joinUnits_flatMap (cs : List Char) :
    Json.joinUnits (cs.flatMap codeUnits) = cs.map CodePoint.ofChar := by
  induction cs with
  | nil => rfl
  | cons c cs ih => rw [List.flatMap_cons, joinUnits_codeUnits, ih, List.map_cons]

end Text

/-! ## Escapes -/

namespace Json

/-- A hexadecimal digit is read as the number that it was written for. -/
theorem hexValue?_digitChar {n : Nat} (h : n < 16) : hexValue? (Nat.digitChar n) = some n := by
  revert n
  decide

/-- Four hexadecimal digits are read as the number that they were written for. -/
theorem hex4Value?_digits {n : Nat} (h : n < 0x10000) :
    hex4Value? (Nat.digitChar (n / 4096 % 16)) (Nat.digitChar (n / 256 % 16))
      (Nat.digitChar (n / 16 % 16)) (Nat.digitChar (n % 16)) = some n := by
  rw [hex4Value?, hexValue?_digitChar (Nat.mod_lt _ (by decide)),
    hexValue?_digitChar (Nat.mod_lt _ (by decide)), hexValue?_digitChar (Nat.mod_lt _ (by decide)),
    hexValue?_digitChar (Nat.mod_lt _ (by decide))]
  simp only [Option.bind_eq_bind, Option.bind_some, Option.pure_def, Option.some.injEq]
  omega

/-- Puts code units in front of what was read. -/
def Scan.pushAll (units : List Nat) (s : Scan) : Scan := units.foldr Scan.push s

@[simp] theorem Scan.pushAll_cons (u : Nat) (units : List Nat) (s : Scan) :
    s.pushAll (u :: units) = (s.pushAll units).push u := rfl

theorem Scan.pushAll_closed (units read : List Nat) (rest : List Char) :
    (Scan.closed read rest).pushAll units = .closed (units ++ read) rest := by
  induction units with
  | nil => rfl
  | cons u units ih => rw [pushAll_cons, ih, push, List.cons_append]

/-- A numeric escape is read as the code unit that it was written for. -/
theorem scan_hex4 {u : Nat} (hu : u < 0x10000) {rest : List Char} (hrest : rest ≠ []) :
    scan ('\\' :: 'u' :: Text.hex4 u ++ rest) = (scan rest).push u := by
  simp only [Text.hex4, List.cons_append, List.nil_append]
  rw [scan, hex4Value?_digits hu]
  simp [hrest]

/-- Numeric escapes are read one by one. -/
theorem scan_numeric {units : List Nat} (hunits : ∀ u ∈ units, u < 0x10000) {rest : List Char}
    (hrest : rest ≠ []) :
    scan ((units.flatMap fun u ↦ '\\' :: 'u' :: Text.hex4 u) ++ rest) =
      (scan rest).pushAll units := by
  induction units with
  | nil => rfl
  | cons u units ih =>
      rw [List.flatMap_cons, List.append_assoc, scan_hex4 (hunits u List.mem_cons_self)
        (List.append_ne_nil_of_right_ne_nil _ hrest),
        ih fun v hv ↦ hunits v (List.mem_cons_of_mem _ hv), Scan.pushAll_cons]

/-- A short escape is read as the character that it was written for. -/
theorem scan_shortEscape {c e : Char} (h : Text.shortEscape? c = some e) (rest : List Char) :
    scan ('\\' :: e :: rest) = (scan rest).push c.toNat ∧ c.toNat < 0x10000 := by
  unfold Text.shortEscape? at h
  repeat' split at h
  all_goals cases h
  all_goals
    subst_vars
    exact ⟨rfl, by decide⟩

/-- A plain character that has no short escape is read as itself. -/
theorem scan_plain {c : Char} (hshort : Text.shortEscape? c = none) (hplain : Text.isPlain c = true)
    (rest : List Char) :
    scan (c :: rest) = (scan rest).push c.toNat ∧ c.toNat < 0x10000 := by
  have hquote : c ≠ '"' := by
    rintro rfl
    cases hshort
  have hback : c ≠ '\\' := by
    rintro rfl
    cases hshort
  simp only [Text.isPlain, Bool.and_eq_true, decide_eq_true_eq] at hplain
  refine ⟨?_, by omega⟩
  rw [scan, if_neg (by omega)]
  all_goals grind

/-- What was written for a character is read as the code units of the character. -/
theorem scan_escape (c : Char) {rest : List Char} (hrest : rest ≠ []) :
    scan (Text.escape c ++ rest) = (scan rest).pushAll (Text.codeUnits c) := by
  unfold Text.escape
  cases hshort : Text.shortEscape? c with
  | some e =>
      obtain ⟨hscan, hc⟩ := scan_shortEscape hshort rest
      rw [Text.codeUnits_of_lt hc]
      exact hscan
  | none =>
      cases hplain : Text.isPlain c
      · exact scan_numeric (fun _ ↦ Text.lt_of_mem_codeUnits) hrest
      · obtain ⟨hscan, hc⟩ := scan_plain hshort hplain rest
        rw [Text.codeUnits_of_lt hc]
        exact hscan

/-- From behind its opening mark a literal is read up to its closing mark and no further. -/
theorem scan_literal (name rest : List Char) :
    scan (name.flatMap Text.escape ++ '"' :: rest) =
      .closed (name.flatMap Text.codeUnits) rest := by
  induction name with
  | nil => rfl
  | cons c name ih =>
      rw [List.flatMap_cons, List.append_assoc,
        scan_escape c (List.append_ne_nil_of_right_ne_nil _ (List.cons_ne_nil _ _)), ih,
        Scan.pushAll_closed, List.flatMap_cons]

end Json

namespace Text

/-- The name that is written between the marks of a literal. -/
def unescape (body : List Char) : List Char :=
  match Json.scan (body ++ ['"']) with
  | .closed units _ => (Json.joinUnits units).map CodePoint.charOrMark
  | _ => []

@[simp] theorem unescape_flatMap_escape (name : List Char) :
    unescape (name.flatMap escape) = name := by
  simp only [unescape, Json.scan_literal, joinUnits_flatMap, List.map_map]
  exact List.map_id'' CodePoint.charOrMark_ofChar name

end Text

end GraphQuery
