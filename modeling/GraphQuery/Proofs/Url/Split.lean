import GraphQuery.Proofs.Number.IntegerText
import GraphQuery.Url.Split
import Mathlib

/-!
# Splitting addresses that are put together

A text of a scheme, a host, a port and a path is split at those places only if nothing in the host
looks like the end of it.  Such a host is whole: its characters stand for themselves, or it is in
brackets and no delimiter is between them (`Url.IsWhole`).
-/

namespace GraphQuery.Url

/-! ## The parts of a text -/

section Splitting

variable {scheme rest host inner port path a : List Char} {c : Char}

/-- Whether a character ends the authority. -/
def endsAuthority (c : Char) : Bool := c = '/' || c = '?' || c = '#'

/-- Letters before a colon are a scheme. -/
theorem splitScheme_of_isAlpha (hne : scheme ≠ []) (hscheme : ∀ c ∈ scheme, c.isAlpha = true) :
    splitScheme (scheme ++ ':' :: rest) = (scheme, rest) := by
  have hhead : (scheme ++ ':' :: rest).head?.any Char.isAlpha = true := by
    obtain ⟨c, cs, rfl⟩ := List.exists_cons_of_ne_nil hne
    exact hscheme c List.mem_cons_self
  have htake : (scheme ++ ':' :: rest).takeWhile isSchemePart = scheme := by
    rw [List.takeWhile_append_of_pos, List.takeWhile_cons_of_neg (by decide), List.append_nil]
    intro c hc
    simp [isSchemePart, Char.isAlphanum, hscheme c hc]
  simp only [splitScheme, hhead, htake, if_true, List.drop_left]

/-- What is before the first colon is the scheme, or there is none. -/
theorem splitScheme_cases (hscheme : ':' ∉ scheme) (rest : List Char) :
    splitScheme (scheme ++ ':' :: rest) = (scheme, rest) ∨
      (splitScheme (scheme ++ ':' :: rest)).1 = [] := by
  -- What is read as the scheme never goes beyond the colon, so it is a front part of what was put
  -- in; unless it is all of it, no colon follows.
  obtain ⟨front, back, hfront, hsplit⟩ : ∃ front back, scheme = front ++ back ∧
      (if (scheme ++ ':' :: rest).head?.any Char.isAlpha then
        (scheme ++ ':' :: rest).takeWhile isSchemePart else []) = front := by
    split
    · rw [List.takeWhile_append]
      split
      · rw [List.takeWhile_cons_of_neg (by decide)]
        exact ⟨_, [], by simp, rfl⟩
      · exact ⟨_, _, (List.takeWhile_append_dropWhile (p := isSchemePart)).symm, rfl⟩
    · exact ⟨[], scheme, rfl, rfl⟩
  simp only [splitScheme, hsplit]
  subst hfront
  rw [List.append_assoc, List.drop_left]
  cases back with
  | nil => exact .inl (by simp)
  | cons d back =>
      have hd : d ≠ ':' := by
        rintro rfl
        exact hscheme (List.mem_append_right _ List.mem_cons_self)
      refine .inr ?_
      split
      · rename_i heq
        exact absurd (List.cons.inj heq).1 hd
      · rfl

theorem splitAuthority_eq (rest : List Char) : splitAuthority ('/' :: '/' :: rest) =
    (rest.takeWhile (!endsAuthority ·), rest.dropWhile (!endsAuthority ·)) := by
  have hinside : (fun c : Char ↦ decide (c ≠ '/') && decide (c ≠ '?') && decide (c ≠ '#')) =
      fun c ↦ !endsAuthority c := by
    funext c
    simp [endsAuthority]
  simp only [splitAuthority, hinside]

theorem splitUserinfo_of_notMem (h : '@' ∉ a) : splitUserinfo a = ([], a) := by
  rw [splitUserinfo, if_neg (by simpa using h)]

theorem mem_splitUserinfo (hc : c ∈ (splitUserinfo a).2) : c ∈ a ∧ c ≠ '@' := by
  unfold splitUserinfo at hc
  split at hc
  · rw [List.mem_reverse] at hc
    refine ⟨List.mem_reverse.1 ((List.takeWhile_sublist _).subset hc), ?_⟩
    simpa using List.mem_takeWhile_imp hc
  · rename_i h
    refine ⟨hc, ?_⟩
    rintro rfl
    exact h (by simpa using hc)

/-- The host is at the front, whatever is behind it. -/
theorem splitHost_fst (a : List Char) : (splitHost a).1 =
    if a.head? = some '[' && a.contains ']' then
      a.take (a.length - (a.reverse.takeWhile (· ≠ ']')).length)
    else a.takeWhile (· ≠ ':') := by
  unfold splitHost
  dsimp only
  split <;> rfl

theorem mem_splitHost (hc : c ∈ (splitHost a).1) : c ∈ a := by
  rw [splitHost_fst] at hc
  split at hc
  · exact (List.take_sublist ..).subset hc
  · exact (List.takeWhile_sublist _).subset hc

theorem splitHost_of_notMem (hcolon : ':' ∉ host) (hbracket : '[' ∉ host) :
    splitHost (host ++ ':' :: port) = (host, port) := by
  have hhead : (host ++ ':' :: port).head? ≠ some '[' := by
    cases host with
    | nil => simp
    | cons c host =>
        rintro heq
        obtain rfl := Option.some.inj heq
        exact hbracket List.mem_cons_self
  have htake : (host ++ ':' :: port).takeWhile (fun c ↦ decide (c ≠ ':')) = host := by
    rw [List.takeWhile_append_of_pos, List.takeWhile_cons_of_neg (by simp), List.append_nil]
    intro c hc
    exact decide_eq_true fun heq ↦ hcolon (heq ▸ hc)
  simp only [splitHost, hhead, decide_false, Bool.false_and, Bool.false_eq_true, if_false, htake,
    List.drop_left]

/-- What is in brackets is the host if there is no bracket behind it. -/
theorem splitHost_of_bracketed (hport : ']' ∉ port) :
    splitHost ('[' :: (inner ++ [']']) ++ ':' :: port) = ('[' :: (inner ++ [']']), port) := by
  have htake : (('[' :: (inner ++ [']']) ++ ':' :: port).reverse.takeWhile
      (fun c ↦ decide (c ≠ ']'))).length = (':' :: port).length := by
    have hreverse : ('[' :: (inner ++ [']']) ++ ':' :: port).reverse =
        (':' :: port).reverse ++ ']' :: ('[' :: inner).reverse := by simp
    rw [hreverse, List.takeWhile_append_of_pos, List.takeWhile_cons_of_neg (by simp),
      List.append_nil, List.length_reverse]
    intro c hc
    refine decide_eq_true ?_
    rintro rfl
    rcases List.mem_cons.1 (List.mem_reverse.1 hc) with h | h
    · cases h
    · exact hport h
  have hhost : (decide (('[' :: (inner ++ [']']) ++ ':' :: port).head? = some '[') &&
      ('[' :: (inner ++ [']']) ++ ':' :: port).contains ']') = true := by simp
  simp only [splitHost, hhost, if_true, htake, @List.length_append _ ('[' :: (inner ++ [']'])),
    Nat.add_sub_cancel, List.take_left, List.drop_left]

end Splitting

/-! ## Addresses that are put together -/

section Composed

variable {plain : Char → Bool} {scheme host port path : List Char} {n : Int} {c : Char}

/-- The text of a scheme, a host, a port and a path. -/
def composed (scheme host port path : List Char) : List Char :=
  scheme ++ ':' :: '/' :: '/' :: (host ++ ':' :: (port ++ path))

/-- The characters that end a host, or the user information before one. -/
def delimiters : List Char := ['/', '?', '#', '@']

/-- The characters that split an address, or a host in it. -/
def reserved : List Char := delimiters ++ [':', '[', ']']

theorem mem_reserved_of_mem_delimiters (h : c ∈ delimiters) : c ∈ reserved :=
  List.mem_append_left _ h

theorem endsAuthority_iff : endsAuthority c = true ↔ c ∈ delimiters ∧ c ≠ '@' := by
  simp only [endsAuthority, delimiters, Bool.or_eq_true, decide_eq_true_eq, List.mem_cons,
    List.not_mem_nil, or_false]
  constructor
  · rintro ((rfl | rfl) | rfl) <;> simp
  · rintro ⟨rfl | rfl | rfl | rfl, hat⟩ <;> simp_all

/-- Nothing in an integer splits an address. -/
theorem notMem_reserved_of_mem_toString (h : c ∈ (toString n).toList) : c ∉ reserved := by
  rcases Number.eq_of_mem_toString h with rfl | hdigit
  · decide
  · intro hmem
    simp only [reserved, delimiters, List.cons_append, List.nil_append, List.mem_cons,
      List.not_mem_nil, or_false] at hmem
    rcases hmem with rfl | rfl | rfl | rfl | rfl | rfl | rfl <;> cases hdigit

/-- A host that stays in one piece, wherever it is put: all of its characters stand for themselves,
or it is in brackets and none of its characters ends it. -/
inductive IsWhole (plain : Char → Bool) (host : List Char) : Prop
  | name (isPlain : ∀ c ∈ host, plain c = true)
  | bracketed (inner : List Char) (eq : host = '[' :: (inner ++ [']']))
    (inside : ∀ c ∈ inner, c ∉ delimiters)

namespace IsWhole

theorem notMem (hplain : ∀ c, plain c = true → c ∉ reserved) (h : IsWhole plain host)
    (hc : c ∈ delimiters) : c ∉ host := by
  intro hmem
  cases h with
  | name isPlain => exact hplain c (isPlain c hmem) (mem_reserved_of_mem_delimiters hc)
  | bracketed inner eq inside =>
      rw [eq, List.mem_cons, List.mem_append, List.mem_singleton] at hmem
      rcases hmem with rfl | hmem | rfl
      · simp [delimiters] at hc
      · exact inside c hmem hc
      · simp [delimiters] at hc

theorem splitHost_eq (hplain : ∀ c, plain c = true → c ∉ reserved) (h : IsWhole plain host)
    (hport : ']' ∉ port) : splitHost (host ++ ':' :: port) = (host, port) := by
  cases h with
  | name isPlain =>
      refine splitHost_of_notMem ?_ ?_
      · exact fun hmem ↦ hplain _ (isPlain _ hmem) (by decide)
      · exact fun hmem ↦ hplain _ (isPlain _ hmem) (by decide)
  | bracketed inner eq inside =>
      rw [eq]
      exact splitHost_of_bracketed hport

end IsWhole

/-- If the host is whole, a text is split where it was put together. -/
theorem split_composed (hplain : ∀ c, plain c = true → c ∉ reserved)
    (hscheme : splitScheme (composed scheme host (toString n).toList path) =
      (scheme, '/' :: '/' :: (host ++ ':' :: ((toString n).toList ++ path))))
    (hhost : IsWhole plain host) (hstart : path.head? = some '/')
    (hpath : ∀ c ∈ path, c ≠ '?' ∧ c ≠ '#') :
    split (composed scheme host (toString n).toList path) =
      ⟨scheme, host ++ ':' :: (toString n).toList, path, none, none⟩ := by
  have hinside : ∀ c ∈ host ++ ':' :: (toString n).toList, (!endsAuthority c) = true := by
    intro c hc
    rw [Bool.not_eq_true', ← Bool.not_eq_true]
    intro hends
    have hmem := (endsAuthority_iff.1 hends).1
    rcases List.mem_append.1 hc with hc | hc
    · exact hhost.notMem hplain hmem hc
    · rcases List.mem_cons.1 hc with rfl | hc
      · cases hends
      · exact notMem_reserved_of_mem_toString hc (mem_reserved_of_mem_delimiters hmem)
  obtain ⟨tail, rfl⟩ := List.head?_eq_some_iff.1 hstart
  have hrest : host ++ ':' :: ((toString n).toList ++ '/' :: tail) =
      (host ++ ':' :: (toString n).toList) ++ '/' :: tail := by simp
  have hall : ∀ c ∈ '/' :: tail, (decide (c ≠ '?') && decide (c ≠ '#')) = true := by
    simpa using hpath
  have htake : ((host ++ ':' :: (toString n).toList) ++ '/' :: tail).takeWhile
      (!endsAuthority ·) = host ++ ':' :: (toString n).toList := by
    rw [List.takeWhile_append_of_pos hinside, List.takeWhile_cons_of_neg (by decide),
      List.append_nil]
  have hdrop : ((host ++ ':' :: (toString n).toList) ++ '/' :: tail).dropWhile
      (!endsAuthority ·) = '/' :: tail := by
    rw [List.dropWhile_append_of_pos hinside, List.dropWhile_cons_of_neg (by decide)]
  simp only [split, hscheme, splitAuthority_eq, hrest, htake, hdrop,
    List.takeWhile_eq_self_iff.2 hall, List.dropWhile_eq_nil_iff.2 hall, splitQuery]

/-- If the host is whole, it is read as the host. -/
theorem parts_composed {s : Split} (hplain : ∀ c, plain c = true → c ∉ reserved)
    (hs : s.authority = host ++ ':' :: (toString n).toList) (hhost : IsWhole plain host) :
    s.userinfo = [] ∧ s.host = host ∧ s.port = (toString n).toList := by
  have hat : '@' ∉ s.authority := by
    rw [hs, List.mem_append, List.mem_cons]
    rintro (hmem | heq | hmem)
    · exact hhost.notMem hplain (by simp [delimiters]) hmem
    · cases heq
    · exact notMem_reserved_of_mem_toString hmem (by decide)
  have hsplit : splitHost (splitUserinfo s.authority).2 = (host, (toString n).toList) := by
    rw [splitUserinfo_of_notMem hat, hs]
    exact hhost.splitHost_eq hplain fun hmem ↦ notMem_reserved_of_mem_toString hmem (by decide)
  refine ⟨?_, ?_, ?_⟩
  · rw [Split.userinfo, splitUserinfo_of_notMem hat]
  · rw [Split.host, hsplit]
  · rw [Split.port, hsplit]

/-- Whatever is read as the host comes from behind the slashes, and nothing in it ends a host. -/
theorem mem_host_of_split {cs rest : List Char} {c : Char}
    (hscheme : splitScheme cs = (scheme, '/' :: '/' :: rest)) (hc : c ∈ (split cs).host) :
    c ∈ rest ∧ c ∉ delimiters := by
  obtain ⟨hauthority, hat⟩ := mem_splitUserinfo (mem_splitHost hc)
  have htake : (split cs).authority = rest.takeWhile (!endsAuthority ·) := by
    simp only [split, hscheme, splitAuthority_eq]
  rw [htake] at hauthority
  refine ⟨(List.takeWhile_sublist _).subset hauthority, fun hmem ↦ ?_⟩
  have hends := List.mem_takeWhile_imp hauthority
  rw [endsAuthority_iff.2 ⟨hmem, hat⟩] at hends
  cases hends

end Composed

end GraphQuery.Url
