import GraphQuery.Endpoint
import Mathlib

/-!
# Integers are read as they are written

The liberal notation for integers has in it the one that integers are written in
(`Number.readInteger?_toString`), up to the number of digits that are read.
-/

namespace GraphQuery.Number

variable {c : Char} {cs : List Char}

theorem isDigit_iff_bounds : c.isDigit = true ↔ 48 ≤ c.toNat ∧ c.toNat ≤ 57 := by
  rw [Char.isDigit, Bool.and_eq_true, decide_eq_true_eq, decide_eq_true_eq]
  rfl

theorem digitValue?_of_isDigit (h : c.isDigit = true) : digitValue? c = some (c.toNat - 48) := by
  have hbounds := isDigit_iff_bounds.1 h
  have hzero : (decide (0x30 ≤ c.toNat) && decide (c.toNat < 0x30 + 10)) = true := by
    rw [Bool.and_eq_true, decide_eq_true_eq, decide_eq_true_eq]
    omega
  have hfind : scriptZeros.find? (fun z ↦ z ≤ c.toNat && c.toNat < z + 10) = some 0x30 :=
    List.find?_cons_of_pos hzero
  rw [digitValue?, hfind]
  rfl

theorem readDigits?_of_isDigit (hne : cs ≠ []) (h : ∀ c ∈ cs, c.isDigit = true) :
    readDigits? cs = some (cs.map fun c ↦ c.toNat - 48) := by
  fun_induction readDigits? cs with
  | case1 => exact absurd rfl hne
  | case2 c => simp [digitValue?_of_isDigit (h c List.mem_cons_self)]
  | case3 c cs =>
      have hscore := h '_' (List.mem_cons_of_mem _ List.mem_cons_self)
      exact absurd hscore (by decide)
  | case4 c d cs _ ih =>
      rw [digitValue?_of_isDigit (h c List.mem_cons_self),
        ih (List.cons_ne_nil d cs) fun e he ↦ h e (List.mem_cons_of_mem _ he)]
      rfl

theorem not_isBlank_of_isDigit (h : c.isDigit = true) : isBlank c = false := by
  have hbounds := isDigit_iff_bounds.1 h
  simp only [isBlank, Bool.or_eq_false_iff, Bool.and_eq_false_iff, decide_eq_false_iff_not]
  omega

theorem trimBlanks_of_none (h : ∀ c ∈ cs, isBlank c = false) : trimBlanks cs = cs := by
  have hdrop : ∀ ds : List Char, (∀ c ∈ ds, isBlank c = false) → ds.dropWhile isBlank = ds := by
    intro ds hds
    cases ds with
    | nil => rfl
    | cons d ds => exact List.dropWhile_cons_of_neg (by simp [hds d List.mem_cons_self])
  rw [trimBlanks, hdrop cs h, hdrop cs.reverse fun c hc ↦ h c (List.mem_reverse.1 hc),
    List.reverse_reverse]

/-! ## Digits -/

theorem isDigit_of_mem_digits {n : Nat} (h : c ∈ Nat.toDigits 10 n) : c.isDigit = true :=
  Nat.isDigit_of_mem_toDigits (by decide) (by decide) h

theorem ofDigits_digits (n : Nat) :
    ofDigits ((Nat.toDigits 10 n).map fun c ↦ c.toNat - 48) = n := by
  rw [ofDigits, List.foldl_map]
  exact Nat.ofDigitChars_ten_toDigits

theorem readDigits?_digits (n : Nat) : readDigits? (Nat.toDigits 10 n) =
    some ((Nat.toDigits 10 n).map fun c ↦ c.toNat - 48) :=
  readDigits?_of_isDigit Nat.toDigits_ne_nil fun _ ↦ isDigit_of_mem_digits

theorem splitSign_digits (n : Nat) :
    splitSign (Nat.toDigits 10 n) = (false, Nat.toDigits 10 n) := by
  have hhead : ∀ c ∈ (Nat.toDigits 10 n).head?, c.isDigit = true := fun c hc ↦
    isDigit_of_mem_digits (List.mem_of_head? hc)
  unfold splitSign
  split
  · rename_i heq
    exact absurd (hhead '-' (by rw [heq]; rfl)) (by decide)
  · rename_i heq
    exact absurd (hhead '+' (by rw [heq]; rfl)) (by decide)
  · rfl

/-- An integer is its digits, behind a sign if it is below zero. -/
theorem toList_toString (n : Int) : (toString n).toList =
    if n < 0 then '-' :: Nat.toDigits 10 n.natAbs else Nat.toDigits 10 n.natAbs := by
  cases n with
  | ofNat m => exact Nat.toList_repr
  | negSucc m =>
      rw [if_pos (Int.negSucc_lt_zero m)]
      exact (String.toList_append ..).trans (congrArg ('-' :: ·) Nat.toList_repr)

theorem eq_of_mem_toString {n : Int} (h : c ∈ (toString n).toList) :
    c = '-' ∨ c.isDigit = true := by
  rw [toList_toString] at h
  split at h
  · exact (List.mem_cons.1 h).imp id isDigit_of_mem_digits
  · exact .inr (isDigit_of_mem_digits h)

/-- An integer is read as it is written, unless it has too many digits. -/
theorem readInteger?_toString (n : Int) :
    readInteger? (toString n).toList = if isOverlong n then none else some n := by
  have htrim : trimBlanks (toString n).toList = (toString n).toList := by
    refine trimBlanks_of_none fun c hc ↦ ?_
    rcases eq_of_mem_toString hc with rfl | hdigit
    · decide
    · exact not_isBlank_of_isDigit hdigit
  have hsplit : splitSign (toString n).toList = (decide (n < 0), Nat.toDigits 10 n.natAbs) := by
    rw [toList_toString]
    split
    · rename_i h
      rw [decide_eq_true h]
      rfl
    · rename_i h
      rw [splitSign_digits, decide_eq_false h]
  simp only [readInteger?, htrim, hsplit, readDigits?_digits, Option.bind_eq_bind,
    Option.bind_some, List.length_map, ofDigits_digits]
  by_cases hlong : isOverlong n = true
  · rw [if_pos hlong, guard, if_neg (Nat.not_le.2 (of_decide_eq_true hlong))]
    rfl
  · rw [if_neg hlong, guard, if_pos (Nat.not_lt.1 fun h ↦ hlong (decide_eq_true h))]
    refine congrArg some ?_
    by_cases hneg : n < 0
    · simp only [hneg, decide_true, if_true]
      omega
    · simp only [hneg, decide_false, Bool.false_eq_true, if_false]
      omega

end GraphQuery.Number
