import GraphQuery.Proofs.Text.WellFormed
import GraphQuery.Result.Envelope

/-!
# Replies in bytes

A reply may be handed over as a text or as the bytes of one, and it does not matter which
(`Source.read_bytes_iff`).  Bytes that are no text are told apart from those that are by where their
fault lies, and why it is one.
-/

namespace GraphQuery.Source

open Text.Utf8

variable {s : String} {bs : List UInt8}

theorem read_bytes_eq_ok : (bytes bs).read = .ok s ↔ encode s.toList = bs := by
  constructor
  · intro h
    rw [read] at h
    cases hdecode : decode bs with
    | ok cs =>
        simp only [hdecode, Except.ok.injEq] at h
        rw [← h, String.toList_ofList]
        exact encode_of_decode hdecode
    | error f =>
        simp only [hdecode] at h
        cases h
  · rintro rfl
    rw [read, decode_encode]
    exact congrArg Except.ok String.ofList_toList

/-- What bytes with a fault are refused with. -/
theorem read_bytes_of_faultAt {position : Nat} {reason : Reason}
    (h : FaultAt bs position reason) :
    (bytes bs).read = .error (.unreadable ("response is not valid UTF-8 (" ++ reason.text ++
      " at byte " ++ toString position ++ ")")) := by
  rw [read]
  cases hdecode : decode bs with
  | ok cs =>
      have hbs : WellFormed bs := wellFormed_iff.2 (isEncoded_iff.2 ⟨cs, hdecode⟩)
      exact absurd hbs h.not_wellFormed
  | error f =>
      obtain ⟨before, hsplit, hfault⟩ := faultAt_of_decode hdecode
      obtain ⟨rfl, rfl⟩ := h.eq hfault
      have hlength : bs.length - f.rest.length = before.length := by
        rw [hsplit, List.length_append, Nat.add_sub_cancel]
      simp only [hlength]

theorem exists_faultAt_of_not_wellFormed (h : ¬WellFormed bs) :
    ∃ position reason, FaultAt bs position reason := by
  cases hdecode : decode bs with
  | ok cs => exact absurd (wellFormed_iff.2 (isEncoded_iff.2 ⟨cs, hdecode⟩)) h
  | error f =>
      obtain ⟨before, _, hfault⟩ := faultAt_of_decode hdecode
      exact ⟨_, _, hfault⟩

/-- Texts and their bytes come to the same.  Bytes are read exactly if they are well-formed, and
then they are the bytes of what is read; if they are not, then the end of their longest well-formed
prefix is reported, with the reason why they do not go on as a text there. -/
theorem read_bytes_iff (s : String) (bs : List UInt8) :
    ((bytes (encode s.toList)).read = .ok s ∧
      ResultSet.decode (bytes (encode s.toList)) = ResultSet.decode (text s)) ∧
    ((∃ t, (bytes bs).read = .ok t) ↔ WellFormed bs) ∧
    ((bytes bs).read = .ok s ↔ encode s.toList = bs) ∧
    ∀ e, (bytes bs).read = .error e ↔ ∃ position reason, FaultAt bs position reason ∧
      e = .unreadable ("response is not valid UTF-8 (" ++ reason.text ++ " at byte " ++
        toString position ++ ")") := by
  have hread : (bytes (encode s.toList)).read = .ok s := read_bytes_eq_ok.2 rfl
  refine ⟨⟨hread, ?_⟩, ?_, read_bytes_eq_ok, fun e ↦ ?_⟩
  · rw [ResultSet.decode, hread]
    rfl
  · rw [wellFormed_iff]
    constructor
    · rintro ⟨t, ht⟩
      exact ⟨t.toList, read_bytes_eq_ok.1 ht⟩
    · rintro ⟨cs, rfl⟩
      exact ⟨.ofList cs, read_bytes_eq_ok.2 (by rw [String.toList_ofList])⟩
  · constructor
    · intro he
      have hbs : ¬WellFormed bs := by
        intro hbs
        obtain ⟨cs, rfl⟩ := wellFormed_iff.1 hbs
        have hok := read_bytes_eq_ok.2 (congrArg encode (String.toList_ofList (l := cs)))
        rw [he] at hok
        cases hok
      obtain ⟨position, reason, hfault⟩ := exists_faultAt_of_not_wellFormed hbs
      rw [read_bytes_of_faultAt hfault] at he
      exact ⟨position, reason, hfault, (Except.error.inj he).symm⟩
    · rintro ⟨position, reason, hfault, rfl⟩
      exact read_bytes_of_faultAt hfault

end GraphQuery.Source
