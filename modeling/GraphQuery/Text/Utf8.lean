/-!
# UTF-8

A sequence is a lead byte and as many continuation bytes as the lead asks for; the lead also narrows
the range of the first of them, which rules out overlong forms, surrogates and everything above
U+10FFFF. `decode` refuses a text at the first byte of its first bad sequence, and `decodeLossy`
puts U+FFFD in the place of each maximal bad part.
-/

namespace GraphQuery.Text.Utf8

/-- Why a byte sequence is not UTF-8. -/
inductive Reason
  /-- No sequence starts with the byte. -/
  | start
  /-- A byte inside the sequence cannot stand there. -/
  | continuation
  /-- The bytes end inside the sequence. -/
  | truncated
deriving DecidableEq, Repr

/-- The wording of a reason. -/
def Reason.text : Reason → String
  | .start => "invalid start byte"
  | .continuation => "invalid continuation byte"
  | .truncated => "unexpected end of data"

/-- A bad sequence: why it is bad and which bytes follow its maximal bad part. -/
structure Refusal where
  reason : Reason
  after : List UInt8

/-- How many continuation bytes a lead byte asks for. -/
def tailLength? (lead : UInt8) : Option Nat :=
  if lead < 0x80 then some 0
  else if lead < 0xc2 then none
  else if lead < 0xe0 then some 1
  else if lead < 0xf0 then some 2
  else if lead < 0xf5 then some 3
  else none

/-- The least and the greatest byte that may follow a lead byte. -/
def secondRange (lead : UInt8) : UInt8 × UInt8 :=
  if lead = 0xe0 then (0xa0, 0xbf)
  else if lead = 0xed then (0x80, 0x9f)
  else if lead = 0xf0 then (0x90, 0xbf)
  else if lead = 0xf4 then (0x80, 0x8f)
  else (0x80, 0xbf)

/-- Takes continuation bytes off the front, the first of them from the given range. -/
def takeTail : Nat → UInt8 × UInt8 → List UInt8 → Except Refusal (List UInt8 × List UInt8)
  | 0, _, bs => .ok ([], bs)
  | _ + 1, _, [] => .error ⟨.truncated, []⟩
  | n + 1, range, b :: bs =>
    if range.1 ≤ b && b ≤ range.2 then
      match takeTail n (0x80, 0xbf) bs with
      | .ok (tail, rest) => .ok (b :: tail, rest)
      | .error r => .error r
    else .error ⟨.continuation, b :: bs⟩

/-- The payload of a lead byte that is followed by the given number of continuation bytes. -/
def leadBits (lead : UInt8) : Nat → Nat
  | 0 => lead.toNat
  | 1 => lead.toNat % 0x20
  | 2 => lead.toNat % 0x10
  | _ => lead.toNat % 0x08

/-- The code point of a sequence: six bits from each continuation byte after the lead's. -/
def codePoint (lead : UInt8) (tail : List UInt8) : Nat :=
  tail.foldl (fun n b ↦ n * 0x40 + b.toNat % 0x40) (leadBits lead tail.length)

/-- The sequence that a lead byte starts, and what follows it. -/
def next (lead : UInt8) (bs : List UInt8) : Except Refusal (Char × List UInt8) :=
  match tailLength? lead with
  | none => .error ⟨.start, bs⟩
  | some n =>
    match takeTail n (secondRange lead) bs with
    | .ok (tail, rest) => .ok (Char.ofNat (codePoint lead tail), rest)
    | .error r => .error r

theorem takeTail_length {n : Nat} {range : UInt8 × UInt8} {bs tail rest : List UInt8}
    (h : takeTail n range bs = .ok (tail, rest)) : rest.length ≤ bs.length := by
  induction n generalizing range bs tail with
  | zero => simp [takeTail] at h; simp [h.2]
  | succ n ih =>
    cases bs with
    | nil => simp [takeTail] at h
    | cons b bs =>
      simp only [takeTail] at h
      split at h
      · split at h
        next tail' rest' h' =>
          simp only [Except.ok.injEq, Prod.mk.injEq] at h
          obtain ⟨-, rfl⟩ := h
          exact Nat.le_succ_of_le (ih h')
        · simp at h
      · simp at h

theorem takeTail_after_length {n : Nat} {range : UInt8 × UInt8} {bs : List UInt8} {r : Refusal}
    (h : takeTail n range bs = .error r) : r.after.length ≤ bs.length := by
  induction n generalizing range bs with
  | zero => simp [takeTail] at h
  | succ n ih =>
    cases bs with
    | nil => simp [takeTail] at h; simp [← h]
    | cons b bs =>
      simp only [takeTail] at h
      split at h
      · split at h
        · simp at h
        next r' h' =>
          simp only [Except.error.injEq] at h
          subst h
          exact Nat.le_succ_of_le (ih h')
      · simp at h; simp [← h]

theorem next_length {lead : UInt8} {bs rest : List UInt8} {c : Char}
    (h : next lead bs = .ok (c, rest)) : rest.length ≤ bs.length := by
  simp only [next] at h
  split at h
  · simp at h
  · split at h
    next h' =>
      simp only [Except.ok.injEq, Prod.mk.injEq] at h
      exact h.2 ▸ takeTail_length h'
    · simp at h

theorem next_after_length {lead : UInt8} {bs : List UInt8} {r : Refusal}
    (h : next lead bs = .error r) : r.after.length ≤ bs.length := by
  simp only [next] at h
  split at h
  · simp at h; simp [← h]
  · split at h
    · simp at h
    next h' =>
      simp only [Except.error.injEq] at h
      exact h ▸ takeTail_after_length h'

/-- Bytes that are not UTF-8: the reason, and the bytes from the first bad sequence on. -/
structure Failure where
  reason : Reason
  rest : List UInt8

/-- The text that bytes encode. -/
def decode : List UInt8 → Except Failure (List Char)
  | [] => .ok []
  | b :: bs =>
    match _h : next b bs with
    | .ok (c, rest) =>
      match decode rest with
      | .ok cs => .ok (c :: cs)
      | .error f => .error f
    | .error r => .error ⟨r.reason, b :: bs⟩
termination_by bs => bs.length
decreasing_by exact Nat.lt_succ_of_le (next_length _h)

/-- The text that bytes encode, with U+FFFD for each maximal bad part. -/
def decodeLossy : List UInt8 → List Char
  | [] => []
  | b :: bs =>
    match _h : next b bs with
    | .ok (c, rest) => c :: decodeLossy rest
    | .error r => '\ufffd' :: decodeLossy r.after
termination_by bs => bs.length
decreasing_by
  · exact Nat.lt_succ_of_le (next_length _h)
  · exact Nat.lt_succ_of_le (next_after_length _h)

/-- The bytes of a text. -/
def encode (cs : List Char) : List UInt8 := cs.flatMap String.utf8EncodeChar

end GraphQuery.Text.Utf8
