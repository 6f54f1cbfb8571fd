import GraphQuery.Text.CodePoint

/-!
# JSON tokens

A JSON text is a sequence of tokens with blanks between them. A token keeps the text from its first
character on, so that a fault can be located without counting while reading. A stretch of text that
is no token becomes a token of its own and ends the sequence; whether it is a fault of that token or
one of what stands before it is up to the reader of the tokens.
-/

namespace GraphQuery.Json

/-- What is wrong with a JSON text. -/
inductive Fault
  | byteOrderMark | value | extra | name | colon | comma
  | unterminated | control | escape | unicodeEscape
deriving DecidableEq, Repr

/-- The wording of a fault. -/
def Fault.text : Fault → String
  | byteOrderMark => "Unexpected UTF-8 BOM (decode using utf-8-sig)"
  | value => "Expecting value"
  | extra => "Extra data"
  | name => "Expecting property name enclosed in double quotes"
  | colon => "Expecting ':' delimiter"
  | comma => "Expecting ',' delimiter"
  | unterminated => "Unterminated string starting at"
  | control => "Invalid control character at"
  | escape => "Invalid \\escape"
  | unicodeEscape => "Invalid \\uXXXX escape"

/-- The tokens of a JSON text. -/
inductive Token
  | openObject | closeObject | openArray | closeArray | colon | comma
  | null | bool (b : Bool)
  /-- An integer literal by its sign and digits. -/
  | integer (negative : Bool) (digits : List Char)
  /-- Any other number literal. -/
  | decimal (literal : List Char)
  | text (s : CodePoints)
  /-- A string literal that is broken, and the text from its fault on. -/
  | brokenText (fault : Fault) (rest : List Char)
  /-- No token starts here. -/
  | unknown
deriving DecidableEq, Repr

/-- A token and the text from its first character on. -/
structure Lexeme where
  token : Token
  start : List Char
deriving DecidableEq, Repr

/-- The characters that may stand between tokens. -/
def isBlank (c : Char) : Bool := c = ' ' || c = '\t' || c = '\n' || c = '\r'

/-- The value of a hexadecimal digit. -/
def hexValue? (c : Char) : Option Nat :=
  if '0' ≤ c && c ≤ '9' then some (c.toNat - 48)
  else if 'a' ≤ c && c ≤ 'f' then some (c.toNat - 87)
  else if 'A' ≤ c && c ≤ 'F' then some (c.toNat - 55)
  else none

/-- The value of four hexadecimal digits. -/
def hex4Value? (a b c d : Char) : Option Nat := do
  let a ← hexValue? a
  let b ← hexValue? b
  let c ← hexValue? c
  let d ← hexValue? d
  return a * 4096 + b * 256 + c * 16 + d

/-- The code unit that a short escape stands for. -/
def shortEscapeValue? (c : Char) : Option Nat :=
  if c = '"' then some 0x22
  else if c = '\\' then some 0x5c
  else if c = '/' then some 0x2f
  else if c = 'b' then some 0x08
  else if c = 'f' then some 0x0c
  else if c = 'n' then some 0x0a
  else if c = 'r' then some 0x0d
  else if c = 't' then some 0x09
  else none

/-- A string literal that was read up to its closing mark, or its fault and the text from there on.
A literal that does not end is at fault where it starts, which is not known here. -/
inductive Scan
  | closed (units : List Nat) (rest : List Char)
  | broken (fault : Fault) (rest : List Char)
  | unclosed
deriving DecidableEq, Repr

/-- Puts a code unit in front of what was read. -/
def Scan.push (unit : Nat) : Scan → Scan
  | closed units rest => closed (unit :: units) rest
  | s => s

/-- Reads a string literal from behind its opening mark. A numeric escape needs four digits and one
more character after them. -/
def scan : List Char → Scan
  | [] => .unclosed
  | '"' :: rest => .closed [] rest
  | ['\\'] => .unclosed
  | '\\' :: 'u' :: a :: b :: c :: d :: rest =>
    match hex4Value? a b c d with
    | some unit =>
      if rest.isEmpty then .broken .unicodeEscape ('u' :: a :: b :: c :: d :: rest)
      else (scan rest).push unit
    | none => .broken .unicodeEscape ('u' :: a :: b :: c :: d :: rest)
  | '\\' :: 'u' :: rest => .broken .unicodeEscape ('u' :: rest)
  | '\\' :: c :: rest =>
    match shortEscapeValue? c with
    | some unit => (scan rest).push unit
    | none => .broken .escape ('\\' :: c :: rest)
  | c :: rest => if c.toNat < 0x20 then .broken .control (c :: rest) else (scan rest).push c.toNat

/-- The code points of code units: a high and a low surrogate next to each other are one character,
and a surrogate by itself is kept. -/
def joinUnits : List Nat → List CodePoint
  | [] => []
  | [u] => [.ofNat u]
  | u :: v :: rest =>
    if 0xd800 ≤ u ∧ u < 0xdc00 ∧ 0xdc00 ≤ v ∧ v < 0xe000 then
      .ofNat (0x10000 + (u - 0xd800) * 0x400 + (v - 0xdc00)) :: joinUnits rest
    else .ofNat u :: joinUnits (v :: rest)

/-- The digits at the front of a text, and what follows them. -/
def splitDigits (cs : List Char) : List Char × List Char :=
  (cs.takeWhile Char.isDigit, cs.dropWhile Char.isDigit)

/-- The fraction at the front of a text, if there is one, and what follows it. -/
def splitFraction : List Char → List Char × List Char
  | '.' :: rest =>
    if (splitDigits rest).1.isEmpty then ([], '.' :: rest)
    else ('.' :: (splitDigits rest).1, (splitDigits rest).2)
  | cs => ([], cs)

/-- The sign at the front of a text, if there is one, and what follows it. -/
def splitSign : List Char → List Char × List Char
  | '+' :: rest => (['+'], rest)
  | '-' :: rest => (['-'], rest)
  | cs => ([], cs)

/-- The exponent at the front of a text, if there is one, and what follows it. -/
def splitExponent : List Char → List Char × List Char
  | [] => ([], [])
  | e :: cs =>
    let (sign, body) := splitSign cs
    let (digits, rest) := splitDigits body
    if (e = 'e' || e = 'E') && !digits.isEmpty then (e :: (sign ++ digits), rest)
    else ([], e :: cs)

/-- The integer part at the front of a text: a zero, or digits that do not start with one. -/
def splitInteger? : List Char → Option (List Char × List Char)
  | '0' :: rest => some (['0'], rest)
  | cs => if (splitDigits cs).1.isEmpty then none else some (splitDigits cs)

/-- The number literal at the front of a text without its sign. -/
def number? (negative : Bool) (cs : List Char) : Option (Token × List Char) := do
  let (digits, rest) ← splitInteger? cs
  let (fraction, rest) := splitFraction rest
  let (exponent, rest) := splitExponent rest
  if fraction.isEmpty && exponent.isEmpty then return (.integer negative digits, rest)
  else return (.decimal ((if negative then ['-'] else []) ++ digits ++ fraction ++ exponent), rest)

/-- The words that are tokens. -/
def words : List (List Char × Token) := [
  ("null".toList, .null), ("true".toList, .bool true), ("false".toList, .bool false),
  ("NaN".toList, .decimal "NaN".toList), ("Infinity".toList, .decimal "Infinity".toList),
  ("-Infinity".toList, .decimal "-Infinity".toList)]

/-- What follows a word at the front of a text. -/
def after? : List Char → List Char → Option (List Char)
  | [], cs => some cs
  | _ :: _, [] => none
  | w :: word, c :: cs => if w = c then after? word cs else none

/-- The word or number at the front of a text. -/
def scalar? (cs : List Char) : Option (Token × List Char) :=
  match words.findSome? fun (word, token) ↦ (after? word cs).map (token, ·) with
  | some found => some found
  | none =>
    match cs with
    | '-' :: rest => number? true rest
    | cs => number? false cs

/-- The token that starts with the character `c`, and what follows it; nothing follows a token that
is broken. -/
def token (c : Char) (cs : List Char) : Token × List Char :=
  if c = '\x7b' then (.openObject, cs)
  else if c = '\x7d' then (.closeObject, cs)
  else if c = '[' then (.openArray, cs)
  else if c = ']' then (.closeArray, cs)
  else if c = ':' then (.colon, cs)
  else if c = ',' then (.comma, cs)
  else if c = '"' then
    match scan cs with
    | .closed units rest => (.text ⟨joinUnits units⟩, rest)
    | .broken fault rest => (.brokenText fault rest, [])
    | .unclosed => (.brokenText .unterminated (c :: cs), [])
  else (scalar? (c :: cs)).getD (.unknown, [])

/-! ### A token never gives back more than it took -/

theorem scan_length {cs : List Char} {units : List Nat} {rest : List Char}
    (h : scan cs = .closed units rest) : rest.length < cs.length := by
  fun_induction scan cs generalizing units rest with
  | case1 => simp at h
  | case2 cs => simp at h; simp [h.2]
  | case3 => simp at h
  | case4 => simp at h
  | case5 a b c d cs unit _ _ ih =>
    cases hs : scan cs <;> simp [hs, Scan.push] at h
    have := ih hs
    simp [← h.2]; omega
  | case6 => simp at h
  | case7 => simp at h
  | case8 c cs unit _ _ _ ih =>
    cases hs : scan cs <;> simp [hs, Scan.push] at h
    have := ih hs
    simp [← h.2]; omega
  | case9 => simp at h
  | case10 => simp at h
  | case11 c cs _ _ _ _ _ _ ih =>
    cases hs : scan cs <;> simp [hs, Scan.push] at h
    have := ih hs
    simp [← h.2]; omega

theorem splitDigits_length (cs : List Char) : (splitDigits cs).2.length ≤ cs.length :=
  (List.dropWhile_sublist _).length_le

theorem splitDigits_length_lt {cs : List Char} (h : (splitDigits cs).1 ≠ []) :
    (splitDigits cs).2.length < cs.length := by
  cases cs with
  | nil => simp [splitDigits] at h
  | cons c cs =>
    simp only [splitDigits] at h ⊢
    rw [List.takeWhile_cons] at h
    rw [List.dropWhile_cons]
    split at h
    next hc => simp [hc, Nat.lt_succ_of_le (List.dropWhile_sublist _).length_le]
    · simp at h

theorem splitFraction_length (cs : List Char) : (splitFraction cs).2.length ≤ cs.length := by
  unfold splitFraction
  split
  · next rest =>
    have := splitDigits_length rest
    split
    · simp
    · simp; omega
  · simp

theorem splitSign_length (cs : List Char) : (splitSign cs).2.length ≤ cs.length := by
  unfold splitSign
  split <;> simp

theorem splitExponent_length (cs : List Char) : (splitExponent cs).2.length ≤ cs.length := by
  unfold splitExponent
  split
  · simp
  · next e cs =>
    have h₁ := splitSign_length cs
    have h₂ := splitDigits_length (splitSign cs).2
    dsimp only
    split
    · simp; omega
    · simp

theorem splitInteger?_length {cs ds rest : List Char} (h : splitInteger? cs = some (ds, rest)) :
    rest.length < cs.length := by
  unfold splitInteger? at h
  split at h
  · simp at h; simp [h.2]
  · split at h
    · simp at h
    · next hd =>
      have := @splitDigits_length_lt cs (by simpa using hd)
      simp at h
      rwa [h] at this

theorem number?_length {negative : Bool} {cs rest : List Char} {t : Token}
    (h : number? negative cs = some (t, rest)) : rest.length < cs.length := by
  simp only [number?, Option.bind_eq_bind, Option.bind_eq_some_iff] at h
  obtain ⟨⟨ds, r⟩, hi, h⟩ := h
  have h₁ := splitInteger?_length hi
  have h₂ := splitFraction_length r
  have h₃ := splitExponent_length (splitFraction r).2
  dsimp only at h
  split at h <;> simp at h <;> rw [← h.2] <;> omega

theorem eq_append_of_after? {word cs rest : List Char} (h : after? word cs = some rest) :
    cs = word ++ rest := by
  induction word generalizing cs with
  | nil => simpa [after?] using h
  | cons w word ih =>
    cases cs with
    | nil => simp [after?] at h
    | cons c cs =>
      unfold after? at h
      split at h
      · rename_i hc
        rw [← hc, ih h, List.cons_append]
      · simp at h

theorem words_ne_nil : ∀ w ∈ words, w.1 ≠ [] := by decide

theorem scalar?_length {cs rest : List Char} {t : Token} (h : scalar? cs = some (t, rest)) :
    rest.length < cs.length := by
  unfold scalar? at h
  split at h
  next found hf =>
    obtain ⟨w, hw, hf⟩ := List.exists_of_findSome?_eq_some hf
    obtain ⟨r, hr, hf⟩ := Option.map_eq_some_iff.1 hf
    simp only [Option.some.injEq] at h
    have hl := congrArg List.length (eq_append_of_after? hr)
    have := List.length_pos_iff.2 (words_ne_nil w hw)
    rw [h] at hf
    simp at hf hl
    rw [← hf.2]; omega
  · split at h
    · have := number?_length h
      simp; omega
    · exact number?_length h

/-- What follows a token is shorter than the text that starts with it. -/
theorem token_length (c : Char) (cs : List Char) : (token c cs).2.length ≤ cs.length := by
  unfold token
  repeat' split
  all_goals try simp
  · next h => exact Nat.le_of_lt (scan_length h)
  · cases h : scalar? (c :: cs) with
    | none => simp
    | some found => exact Nat.le_of_lt_succ (scalar?_length h)

/-- The tokens of a text in order. -/
def lexemes : List Char → List Lexeme
  | [] => []
  | c :: cs =>
    if isBlank c then lexemes cs
    else ⟨(token c cs).1, c :: cs⟩ :: lexemes (token c cs).2
termination_by cs => cs.length
decreasing_by
  · simp
  · exact Nat.lt_succ_of_le (token_length c cs)

end GraphQuery.Json
