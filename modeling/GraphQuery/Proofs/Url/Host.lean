import GraphQuery.Url.Address
import Mathlib

/-!
# Hosts in their normal form

A host of ASCII becomes a text in which every character stands for itself, or it is a number in
brackets (`Url.normalHost_cases`).  One in which every character stands for itself already stays as
it is but for its letters, and a bracketed one loses its brackets
(`Url.normalHost_eq_ok_iff_of_safe`, `Url.normalHost_eq_ok_iff_of_bracketed`).
-/

namespace GraphQuery.Url

/-! ## Characters that stand for themselves -/

section Safe

variable {part : Part} {c d : Char} {cs : List Char}

/-- The marks that stand for themselves in a host. -/
def hostMarks : List Char :=
  ['-', '.', '_', '~', '!', '$', '&', '\'', '(', ')', '*', '+', ',', ';', '=', '"', '\x60', '\x7b',
    '\x7d', '%', '|', '\\']

theorem safe_iff : Part.host.isSafe c = true ↔ c.isAlphanum = true ∨ c ∈ hostMarks := by
  have hmarks : Part.host.isSafe c = (c.isAlphanum || hostMarks.contains c) := rfl
  rw [hmarks, Bool.or_eq_true, List.contains_iff_mem]

theorem bounds_of_isAlphanum (h : c.isAlphanum = true) :
    ((65 ≤ c.toNat ∧ c.toNat ≤ 90) ∨ (97 ≤ c.toNat ∧ c.toNat ≤ 122)) ∨
      (48 ≤ c.toNat ∧ c.toNat ≤ 57) := by
  simp only [Char.isAlphanum, Char.isAlpha, Char.isUpper, Char.isLower, Char.isDigit,
    Bool.or_eq_true, Bool.and_eq_true, decide_eq_true_eq, ge_iff_le, UInt32.le_iff_toNat_le] at h
  exact h

theorem lt_of_safe (h : Part.host.isSafe c = true) : c.toNat < 0x80 := by
  have hmarks : ∀ c ∈ hostMarks, c.toNat < 0x80 := by simp [hostMarks]
  rcases safe_iff.1 h with h | h
  · have hbounds := bounds_of_isAlphanum h
    omega
  · exact hmarks c h

/-- What splits an address, or a host in it, has to be encoded. -/
theorem not_safe_of_mem (h : c ∈ ['/', '?', '#', '@', ':', '[', ']']) :
    ¬Part.host.isSafe c = true := by
  rw [safe_iff]
  simp only [List.mem_cons, List.not_mem_nil, or_false] at h
  rcases h with rfl | rfl | rfl | rfl | rfl | rfl | rfl <;> decide

theorem safe_of_isAlphanum (h : c.isAlphanum = true) : Part.host.isSafe c = true :=
  safe_iff.2 (.inl h)

theorem isControl_of_safe (h : Part.host.isSafe c = true) : isControl c = false := by
  have hmarks : ∀ c ∈ hostMarks, isControl c = false := by simp [hostMarks, isControl]
  rcases safe_iff.1 h with h | h
  · have hbounds := bounds_of_isAlphanum h
    simp only [isControl, Bool.or_eq_false_iff, decide_eq_false_iff_not]
    omega
  · exact hmarks c h

/-- Whether a character stands for itself in a host does not depend on its case. -/
theorem isSafe_toLower (c : Char) : Part.host.isSafe c.toLower = Part.host.isSafe c := by
  by_cases h : c.isUpper = true
  · have halpha : c.isAlpha = true := by rw [Char.isAlpha, h, Bool.true_or]
    rw [safe_of_isAlphanum (c := c) (by rw [Char.isAlphanum, halpha, Bool.true_or]),
      safe_of_isAlphanum (by rw [Char.isAlphanum, Char.isAlpha_toLower_eq_isAlpha, halpha,
        Bool.true_or])]
  · rw [Char.toLower_eq_of_not_isUpper h]

theorem encode_of_safe (h : ∀ c ∈ cs, part.isSafe c = true) : part.encode cs = cs := by
  induction cs with
  | nil => rfl
  | cons c cs ih =>
      have hcons : part.encode (c :: cs) =
        (if part.isSafe c then [c] else percent c) ++ part.encode cs := List.flatMap_cons
      rw [hcons, if_pos (h c List.mem_cons_self), ih fun d hd ↦ h d (List.mem_cons_of_mem _ hd)]
      rfl

theorem safe_upperHexDigit {n : Nat} (h : n < 16) :
    Part.host.isSafe (upperHexDigit n) = true := by
  revert n
  decide +kernel

theorem safe_of_mem_percent (h : d ∈ percent c) : Part.host.isSafe d = true := by
  obtain ⟨b, -, hd⟩ := List.mem_flatMap.1 h
  have hb : b.toNat < 256 := b.toNat_lt
  simp only [List.mem_cons, List.not_mem_nil, or_false] at hd
  rcases hd with rfl | rfl | rfl
  · decide
  · exact safe_upperHexDigit (by omega)
  · exact safe_upperHexDigit (by omega)

/-- What is encoded can stand in a host. -/
theorem safe_of_mem_encode (h : d ∈ Part.host.encode cs) : Part.host.isSafe d = true := by
  obtain ⟨c, -, hd⟩ := List.mem_flatMap.1 h
  split at hd
  · rename_i hsafe
    obtain rfl := List.mem_singleton.1 hd
    exact hsafe
  · exact safe_of_mem_percent hd

end Safe

/-! ## Pieces -/

section Pieces

variable {α : Type} (isSeparator : α → Bool)

/-- The first piece ends before the first separator. -/
theorem pieces_eq (cs : List α) : pieces isSeparator cs =
    cs.takeWhile (!isSeparator ·) :: match cs.dropWhile (!isSeparator ·) with
      | [] => []
      | _ :: rest => pieces isSeparator rest := by
  induction cs with
  | nil => rfl
  | cons c cs ih =>
      rw [pieces]
      by_cases h : isSeparator c = true
      · simp [h]
      · rw [if_neg h, ih]
        simp [h]

/-- A text is its only piece, or it has a separator behind the first one. -/
theorem pieces_cases (cs : List α) : pieces isSeparator cs = [cs] ∨ ∃ p c rest,
    isSeparator c = true ∧ cs = p ++ c :: rest ∧
      pieces isSeparator cs = p :: pieces isSeparator rest := by
  have happend := List.takeWhile_append_dropWhile (p := (!isSeparator ·)) (l := cs)
  rw [pieces_eq]
  match hdrop : cs.dropWhile (!isSeparator ·) with
  | [] =>
      rw [hdrop, List.append_nil] at happend
      exact .inl (by rw [happend])
  | c :: rest =>
      have hc := List.head_dropWhile_not (!isSeparator ·) (l := cs) (by simp [hdrop])
      rw [hdrop] at happend
      exact .inr ⟨_, c, rest, by simpa [hdrop] using hc, happend.symm, rfl⟩

/-- What is no separator lies in a piece. -/
theorem mem_pieces {c : α} {cs : List α} (hc : c ∈ cs) :
    isSeparator c = true ∨ ∃ p ∈ pieces isSeparator cs, c ∈ p := by
  induction cs with
  | nil => cases hc
  | cons d cs ih =>
      rw [pieces]
      by_cases h : isSeparator d = true
      · rw [if_pos h]
        rcases List.mem_cons.1 hc with rfl | hc
        · exact .inl h
        · refine (ih hc).imp id ?_
          rintro ⟨p, hp, hcp⟩
          exact ⟨p, List.mem_cons_of_mem _ hp, hcp⟩
      · rw [if_neg h]
        rw [pieces_eq] at ih ⊢
        rcases List.mem_cons.1 hc with rfl | hc
        · exact .inr ⟨_, List.mem_cons_self, List.mem_cons_self⟩
        · refine (ih hc).imp id ?_
          rintro ⟨p, hp, hcp⟩
          rcases List.mem_cons.1 hp with rfl | hp
          · exact ⟨_, List.mem_cons_self, List.mem_cons_of_mem _ hcp⟩
          · exact ⟨p, List.mem_cons_of_mem _ hp, hcp⟩

end Pieces

/-! ## Numbers -/

section Numbers

variable {cs : List Char} {c : Char}

/-- An address of four numbers is made of digits and points. -/
theorem isDigit_of_looksLikeIPv4 (h : looksLikeIPv4 cs = true) (hc : c ∈ cs) :
    c.isDigit = true ∨ c = '.' := by
  simp only [looksLikeIPv4, Bool.and_eq_true, List.all_eq_true] at h
  rcases mem_pieces (· = '.') hc with hdot | ⟨p, hp, hcp⟩
  · exact .inr (of_decide_eq_true hdot)
  · exact .inl ((h.2 p hp).2 c hcp)

theorem safe_of_looksLikeIPv4 (h : looksLikeIPv4 cs = true) (hc : c ∈ cs) :
    Part.host.isSafe c = true := by
  rcases isDigit_of_looksLikeIPv4 h hc with hdigit | rfl
  · exact safe_of_isAlphanum (by rw [Char.isAlphanum, hdigit, Bool.or_true])
  · decide

theorem map_toLower_of_looksLikeIPv4 (h : looksLikeIPv4 cs = true) :
    cs.map Char.toLower = cs := by
  refine (List.map_congr_left fun c hc ↦ ?_).trans (List.map_id cs)
  rcases isDigit_of_looksLikeIPv4 h hc with hdigit | rfl
  · refine Char.toLower_eq_of_not_isUpper fun hupper ↦ ?_
    simp only [Char.isDigit, Char.isUpper, Bool.and_eq_true, decide_eq_true_eq, ge_iff_le,
      UInt32.le_iff_toNat_le] at hdigit hupper
    exact absurd (Nat.le_trans hupper.1 hdigit.2) (by decide)
  · rfl

theorem looksLikeIPv4_of_bracket (cs : List Char) : looksLikeIPv4 ('[' :: cs) = false := by
  refine Bool.eq_false_iff.2 fun h ↦ ?_
  rcases isDigit_of_looksLikeIPv4 h List.mem_cons_self with h | h <;> exact absurd h (by decide)

/-- The first of the parts of an IPv6 address is not the only one, and is empty or a number. -/
theorem isHextet_of_isIPv6Parts {p : List Char} {ps : List (List Char)}
    (h : isIPv6Parts (p :: ps) = true) : ps ≠ [] ∧ (p = [] ∨ isHextet p = true) := by
  rw [isIPv6Parts] at h
  split at h
  · rename_i after rest heq
    have hne : ps ≠ [] := by
      rintro rfl
      cases heq
    refine ⟨hne, ?_⟩
    have hside : ∀ q ∈ gapSide (p :: ps.takeWhile (!·.isEmpty)), isHextet q = true := by
      simp only [Bool.and_eq_true, List.all_append] at h
      exact List.all_eq_true.1 h.1.1
    unfold gapSide at hside
    split at hside
    · rename_i hnil
      exact .inl (List.cons.inj hnil).1
    · exact .inr (hside p List.mem_cons_self)
  · simp only [Bool.and_eq_true, List.all_eq_true, decide_eq_true_eq] at h
    refine ⟨?_, .inr (h.1 p List.mem_cons_self)⟩
    rintro rfl
    cases h.2

/-- An IPv6 address has a colon, with a number at most before it. -/
theorem exists_of_isIPv6 (h : isIPv6 cs = true) :
    ∃ p rest, cs = p ++ ':' :: rest ∧ (p = [] ∨ isHextet p = true) := by
  simp only [isIPv6, Bool.and_eq_true] at h
  obtain ⟨-, hparts⟩ := h
  -- The parts are those of what is before the zone.
  obtain ⟨first, zone, hcs, hfirst⟩ : ∃ first zone, cs = first ++ zone ∧
      (pieces (· = '%') cs).headD [] = first := by
    rcases pieces_cases (· = '%') cs with heq | ⟨p, c, rest, -, hcs, heq⟩
    · exact ⟨cs, [], (List.append_nil cs).symm, by rw [heq]; rfl⟩
    · exact ⟨p, c :: rest, hcs, by rw [heq]; rfl⟩
  rw [hfirst] at hparts
  rcases pieces_cases (· = ':') first with heq | ⟨p, c, rest, hc, hfirst, heq⟩
  · rw [heq] at hparts
    split at hparts
    · by_cases hipv4 : isIPv4 first = true
      · simp [hipv4, isIPv6Parts] at hparts
      · simp [hipv4, isIPv6Parts] at hparts
    · exact absurd rfl (isHextet_of_isIPv6Parts hparts).1
  · obtain rfl := of_decide_eq_true hc
    refine ⟨p, rest ++ zone, by rw [hcs, hfirst, List.append_assoc, List.cons_append], ?_⟩
    obtain ⟨q, qs, hrest⟩ : ∃ q qs, pieces (· = ':') rest = q :: qs := ⟨_, _, pieces_eq _ rest⟩
    rw [heq, hrest] at hparts
    split at hparts
    · exact (isHextet_of_isIPv6Parts hparts).2
    · exact (isHextet_of_isIPv6Parts hparts).2

/-- No IPv6 address starts like an encoded label. -/
theorem head?_of_isIPv6 (h : isIPv6 cs = true) : cs.head? ≠ some 'x' := by
  obtain ⟨p, rest, rfl, rfl | hp⟩ := exists_of_isIPv6 h
  · simp
  · intro hhead
    simp only [isHextet, Bool.and_eq_true, List.all_eq_true] at hp
    cases p with
    | nil => cases hhead
    | cons c p =>
        obtain rfl := Option.some.inj hhead
        exact absurd (hp.2 'x' List.mem_cons_self) (by decide)

end Numbers

/-! ## Hosts -/

section Hosts

variable {cs inner h : List Char}

/-- A host in which every character stands for itself keeps them, in lower case. -/
theorem normalHost_eq_ok_iff_of_safe (hsafe : ∀ c ∈ cs, Part.host.isSafe c = true) :
    normalHost cs = .ok h ↔
      (looksLikeIPv4 cs = true → isIPv4 cs = true) ∧ h = cs.map Char.toLower := by
  have hbracket : (decide (cs.head? = some '[') && decide (cs.getLast? = some ']') &&
      decide (2 ≤ cs.length)) = false := by
    have hhead : cs.head? ≠ some '[' := fun heq ↦
      not_safe_of_mem (by simp) (hsafe _ (List.mem_of_head? heq))
    simp [hhead]
  have hlower : ∀ c ∈ cs.map Char.toLower, Part.host.isSafe c = true := by
    simpa [isSafe_toLower] using hsafe
  have hascii : (cs.all fun c ↦ decide (c.toNat < 0x80)) = true := by
    simpa using fun c hc ↦ lt_of_safe (hsafe c hc)
  unfold normalHost
  simp only [hbracket, hascii, encode_of_safe hlower, Bool.false_eq_true, if_false, if_true]
  split
  · rename_i hnil
    obtain rfl := List.isEmpty_iff.1 hnil
    exact ⟨fun hok ↦ ⟨fun hlooks ↦ absurd hlooks (by decide), (Except.ok.inj hok).symm⟩,
      fun hok ↦ congrArg _ hok.2.symm⟩
  · split
    · rename_i hlooks
      rw [map_toLower_of_looksLikeIPv4 hlooks]
      split
      · rename_i hipv4
        exact ⟨fun hok ↦ ⟨fun _ ↦ hipv4, (Except.ok.inj hok).symm⟩, fun hok ↦ congrArg _ hok.2.symm⟩
      · rename_i hipv4
        exact ⟨nofun, fun hok ↦ absurd (hok.1 hlooks) hipv4⟩
    · rename_i hlooks
      exact ⟨fun hok ↦ ⟨fun h ↦ absurd h hlooks, (Except.ok.inj hok).symm⟩,
        fun hok ↦ congrArg _ hok.2.symm⟩

/-- A host in brackets must be an IPv6 address and loses its brackets. -/
theorem normalHost_eq_ok_iff_of_bracketed :
    normalHost ('[' :: (inner ++ [']'])) = .ok h ↔ isIPv6 inner = true ∧ h = inner := by
  have hlast : ('[' :: (inner ++ [']'])).getLast? = some ']' := by
    rw [← List.cons_append, List.getLast?_concat]
  have hinner : ('[' :: (inner ++ [']'])).tail.dropLast = inner := by
    rw [List.tail_cons, List.dropLast_concat]
  have hbracket : (decide (('[' :: (inner ++ [']'])).head? = some '[') &&
      decide (('[' :: (inner ++ [']'])).getLast? = some ']') &&
      decide (2 ≤ ('[' :: (inner ++ [']'])).length)) = true := by
    simp [hlast]
  unfold normalHost
  simp only [looksLikeIPv4_of_bracket, hbracket, hinner, List.isEmpty_cons, Bool.false_eq_true,
    if_false, if_true]
  split
  · rename_i hipv6
    exact ⟨fun hok ↦ ⟨hipv6, (Except.ok.inj hok).symm⟩, fun hok ↦ congrArg _ hok.2.symm⟩
  · rename_i hipv6
    exact ⟨nofun, fun hok ↦ absurd hok.1 hipv6⟩

/-- A text in brackets is what is between them, in brackets. -/
theorem eq_of_brackets (hhead : cs.head? = some '[') (hlast : cs.getLast? = some ']')
    (hlength : 2 ≤ cs.length) : cs = '[' :: (cs.tail.dropLast ++ [']']) := by
  obtain ⟨ds, rfl⟩ := List.head?_eq_some_iff.1 hhead
  obtain ⟨d, es, rfl⟩ := List.exists_cons_of_length_pos (Nat.le_of_succ_le_succ hlength)
  rw [List.getLast?_cons_cons] at hlast
  obtain ⟨fs, hfs⟩ := List.getLast?_eq_some_iff.1 hlast
  rw [List.tail_cons, hfs, List.dropLast_concat]

/-- A host of ASCII becomes a text in which every character stands for itself, unless it is an IPv6
address in brackets. -/
theorem normalHost_cases (hascii : ∀ c ∈ cs, c.toNat < 0x80) (hok : normalHost cs = .ok h) :
    (∀ c ∈ h, Part.host.isSafe c = true) ∨ (cs = '[' :: (h ++ [']']) ∧ isIPv6 h = true) := by
  unfold normalHost at hok
  split at hok
  · cases hok
    exact .inl nofun
  · split at hok
    · rename_i hlooks
      split at hok
      · cases hok
        exact .inl fun c ↦ safe_of_looksLikeIPv4 hlooks
      · cases hok
    · split at hok
      · rename_i hbracket
        split at hok
        · rename_i hipv6
          cases hok
          simp only [Bool.and_eq_true, decide_eq_true_eq] at hbracket
          obtain ⟨⟨hhead, hlast⟩, hlength⟩ := hbracket
          exact .inr ⟨eq_of_brackets hhead hlast hlength, hipv6⟩
        · cases hok
      · rw [if_pos (by simpa using hascii)] at hok
        cases hok
        exact .inl fun c ↦ safe_of_mem_encode

end Hosts

end GraphQuery.Url
