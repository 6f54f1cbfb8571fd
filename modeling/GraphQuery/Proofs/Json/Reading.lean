import GraphQuery.Proofs.Json.Grammar

/-!
# Which texts are read

`IsJson` says by a grammar alone which texts are JSON.  Reading a text comes to one of three things,
and the grammar says to which: `read_eq_ok_iff`, `read_eq_tooLong_iff` and `read_eq_malformed_iff`.
-/

namespace GraphQuery.Json

variable {cs : List Char} {ts : List Token} {n : Nat}

/-- A text is JSON. -/
def IsJson (cs : List Char) : Prop := ∃ ts, IsWriting cs ts ∧ IsValue ts

/-- A text is JSON, and no integer in it is too long to be read. -/
def IsShortJson (cs : List Char) : Prop := ∃ ts, IsWriting cs ts ∧ IsValue ts ∧ IsShort ts

/-- The first integer of a text that is too long to be read, with `n` digits, comes where the text
may still be JSON.  Nothing is said of what is written behind it. -/
inductive ReachesOverlong : List Char → Nat → Prop
  | intro {front word back : List Char} {before rest : List Token} {negative : Bool}
      {digits : List Char} : IsWriting front before → IsShort before →
      Writes word (.integer negative digits) → Ended back → Number.digitLimit < digits.length →
      IsValue (before ++ .integer negative digits :: rest) →
      ReachesOverlong (front ++ word ++ back) digits.length

/-! ## Tokens of texts -/

/-- The tokens of JSON are found. -/
theorem tokensOf_eq (h : IsWriting cs ts) (hts : IsValue ts) : tokensOf cs = ts := by
  have htokens : tokensOf (cs ++ []) = ts ++ tokensOf [] :=
    tokensOf_append h hts.separated fun _ _ _ ↦ ended_nil
  simpa using htokens

/-- A text is JSON if and only if its tokens are those of a value. -/
theorem isJson_iff : IsJson cs ↔ IsValue (tokensOf cs) := by
  constructor
  · rintro ⟨ts, hcs, hts⟩
    rwa [tokensOf_eq hcs hts]
  · exact fun h ↦ ⟨tokensOf cs, isWriting_tokensOf h.isFound, h⟩

theorem isShortJson_iff : IsShortJson cs ↔ IsValue (tokensOf cs) ∧ IsShort (tokensOf cs) := by
  constructor
  · rintro ⟨ts, hcs, hts⟩
    rwa [tokensOf_eq hcs hts.1]
  · exact fun h ↦ ⟨tokensOf cs, isWriting_tokensOf h.1.isFound, h⟩

theorem reachesOverlong_iff : ReachesOverlong cs n ↔ ∃ before negative digits after rest,
    tokensOf cs = before ++ .integer negative digits :: after ∧ IsShort before ∧
      Number.digitLimit < digits.length ∧ digits.length = n ∧
      IsValue (before ++ .integer negative digits :: rest) := by
  constructor
  · rintro @⟨front, word, back, before, rest, negative, digits, hfront, hshort, hword, hback, hlong,
      hvalue⟩
    have hsep := hvalue.separated
    rw [List.append_cons] at hsep
    refine ⟨before, negative, digits, tokensOf back, rest, ?_, hshort, hlong, rfl, hvalue⟩
    rw [tokensOf_append (hfront.concat hword) hsep.left_of_append fun _ _ _ ↦ hback,
      List.append_assoc, List.singleton_append]
  · rintro ⟨before, negative, digits, after, rest, htokens, hshort, hlong, rfl, hvalue⟩
    obtain ⟨front, back, rfl, hfront, hback⟩ := exists_isWriting_of_tokensOf htokens fun t ht ↦
      hvalue.isFound t (List.mem_append_left _ ht)
    obtain ⟨gap, word, back, rfl, hgap, hword, -, hend⟩ := exists_of_tokensOf_eq_cons hback rfl
    have hbefore := hfront.append (.nil hgap)
    rw [List.append_nil] at hbefore
    rw [← List.append_assoc, ← List.append_assoc]
    exact .intro hbefore hshort hword (hend (decide_eq_true hlong)) hlong hvalue

/-! ## Reading -/

theorem finish_eq_ok {mode : Mode} {v : Json} (h : finish mode = .ok v) :
    mode = .complete v [] := by
  match mode with
  | .complete _ [] =>
      cases h
      rfl
  | .complete _ (_ :: _) | .value _ | .arrayStart _ | .objectStart _ | .name _ _ | .colon _ _ _ =>
      cases h

theorem finish_ne_tooLong {mode : Mode} : finish mode ≠ .error (.integerTooLong n) := by
  match mode with
  | .complete _ [] | .complete _ (_ :: _) | .value _ | .arrayStart _ | .objectStart _ | .name _ _
  | .colon _ _ _ => exact nofun

/-- A byte order mark is no token, and what comes after it is not looked at. -/
theorem lexemes_byteOrderMark (cs : List Char) :
    lexemes ('\ufeff' :: cs) = [⟨.unknown, '\ufeff' :: cs⟩] := by
  have htoken : token '\ufeff' cs = (.unknown, []) := rfl
  rw [lexemes, if_neg (by decide), htoken, lexemes]

/-- A text is read token by token; this fails the same way where it is not even tried. -/
theorem read_eq_or (cs : List Char) :
    read cs = readFrom (.value []) (lexemes cs) >>= finish ∨
      (∃ fault rest, read cs = .error (.malformed fault rest)) ∧
        ∃ fault rest, readFrom (.value []) (lexemes cs) = .error (.malformed fault rest) := by
  by_cases h : cs.head? = some '\ufeff'
  · obtain ⟨rest, rfl⟩ := List.head?_eq_some_iff.1 h
    rw [lexemes_byteOrderMark]
    exact .inr ⟨⟨_, _, if_pos h⟩, _, _, rfl⟩
  · exact .inl (if_neg h)

theorem read_eq_ok_iff_readFrom {v : Json} :
    read cs = .ok v ↔ readFrom (.value []) (lexemes cs) = .ok (.complete v []) := by
  rcases read_eq_or cs with h | ⟨⟨_, _, h⟩, _, _, h'⟩
  · rw [h]
    constructor
    · intro hv
      cases hmode : readFrom (.value []) (lexemes cs) with
      | error e =>
          rw [hmode] at hv
          cases hv
      | ok mode =>
          rw [hmode] at hv
          exact congrArg Except.ok (finish_eq_ok hv)
    · intro hmode
      rw [hmode]
      rfl
  · rw [h, h']
    exact ⟨nofun, nofun⟩

theorem read_eq_tooLong_iff_readFrom : read cs = .error (.integerTooLong n) ↔
    readFrom (.value []) (lexemes cs) = .error (.integerTooLong n) := by
  rcases read_eq_or cs with h | ⟨⟨_, _, h⟩, _, _, h'⟩
  · rw [h]
    cases hmode : readFrom (.value []) (lexemes cs) with
    | error e =>
        constructor <;>
          · intro he
            cases he
            rfl
    | ok mode => exact ⟨fun hv ↦ absurd hv finish_ne_tooLong, nofun⟩
  · rw [h, h']
    exact ⟨nofun, nofun⟩

/-- A text is read if and only if it is JSON and no integer in it is too long. -/
theorem read_eq_ok_iff : (∃ v, read cs = .ok v) ↔ IsShortJson cs := by
  rw [isShortJson_iff]
  exact (exists_congr fun _ ↦ read_eq_ok_iff_readFrom).trans exists_readFrom_iff

/-- It fails at an integer if and only if it might still be JSON up to there. -/
theorem read_eq_tooLong_iff : read cs = .error (.integerTooLong n) ↔ ReachesOverlong cs n := by
  rw [reachesOverlong_iff]
  exact read_eq_tooLong_iff_readFrom.trans readFrom_eq_tooLong_iff

/-- In JSON all integers are short, or one that is too long is reached. -/
theorem IsJson.isShortJson_or_exists (h : IsJson cs) :
    IsShortJson cs ∨ ∃ n, ReachesOverlong cs n := by
  rw [isJson_iff] at h
  cases hfind : (tokensOf cs).find? Token.isOverlong with
  | none =>
      refine .inl (isShortJson_iff.2 ⟨h, fun t ht ↦ ?_⟩)
      exact Bool.eq_false_iff.2 (List.find?_eq_none.1 hfind t ht)
  | some t =>
      obtain ⟨hlong, before, after, htokens, hbefore⟩ := List.find?_eq_some_iff_append.1 hfind
      obtain ⟨negative, digits, rfl, hdigits, -⟩ := startValue_of_isOverlong hlong
      rw [htokens] at h
      refine .inr ⟨_, reachesOverlong_iff.2
        ⟨before, negative, digits, after, after, htokens, fun t ht ↦ ?_, hdigits, rfl, h⟩⟩
      simpa using hbefore t ht

/-- It is found to be no JSON if and only if it is none, and no integer is reached that is too
long. -/
theorem read_eq_malformed_iff : (∃ fault rest, read cs = .error (.malformed fault rest)) ↔
    ¬IsJson cs ∧ ∀ n, ¬ReachesOverlong cs n := by
  constructor
  · rintro ⟨fault, rest, h⟩
    have hreaches (n : Nat) : ¬ReachesOverlong cs n := by
      rw [← read_eq_tooLong_iff, h]
      exact nofun
    refine ⟨fun hjson ↦ ?_, hreaches⟩
    rcases hjson.isShortJson_or_exists with hshort | ⟨n, hn⟩
    · obtain ⟨v, hv⟩ := read_eq_ok_iff.2 hshort
      rw [h] at hv
      cases hv
    · exact hreaches n hn
  · rintro ⟨hjson, hreaches⟩
    match h : read cs with
    | .ok v =>
        obtain ⟨ts, hcs, hts, -⟩ := read_eq_ok_iff.1 ⟨v, h⟩
        exact absurd ⟨ts, hcs, hts⟩ hjson
    | .error (.integerTooLong n) => exact absurd (read_eq_tooLong_iff.1 h) (hreaches n)
    | .error (.malformed fault rest) => exact ⟨fault, rest, rfl⟩

end GraphQuery.Json
