import GraphQuery.Proofs.Json.Distinct
import GraphQuery.Result.Envelope
import Mathlib

/-!
# Which values are envelopes

A value that a reply is read as either holds rows or breaks a rule, and what makes it so can be said
without reading it: `Holds` is about values with rows, and `Breaks` about those without and the
first rule that they break.  Rules are looked at from the outside in, rows from the front, and the
columns of a row from the front.

* `isRow_or_breaksRow`, `rows_or_exists` and `holds_or_breaks` say that there is nothing in between,
  of an item, of all items by induction, and of a value;
* `readEnvelope_eq_ok_iff` and `readEnvelope_eq_error_iff` say that reading finds out which it is;
* `decode_of_read` says it of a reply.
-/

namespace GraphQuery.Envelope

/-- An item of a result that is a row: an object with nothing but texts. -/
def IsRow (item : Json) (row : Row) : Prop := item = .object (row.map (Prod.map id .text))

/-- A value that is an envelope of rows. -/
inductive Holds : Json → List Row → Prop
  | absent {members : List (CodePoints × Json)} :
      .ofString "result" ∉ members.map Prod.fst → Holds (.object members) []
  | null {members : List (CodePoints × Json)} :
      (.ofString "result", .null) ∈ members → Holds (.object members) []
  | rows {members : List (CodePoints × Json)} {items : List Json} {rows : List Row} :
      (.ofString "result", .array items) ∈ members → List.Forall₂ IsRow items rows →
        Holds (.object members) rows

/-- What may be wrong with a value that is no envelope. -/
inductive Violation
  /-- The value is of the given sort, and no object. -/
  | noObject (typeName : String)
  /-- Its result is of the given sort, and no list. -/
  | noList (typeName : String)
  /-- The item at the given position is no object. -/
  | noRow (index : Nat)
  /-- A member of the item at the given position is of the given sort, and no text. -/
  | noText (index : Nat) (key : CodePoints) (typeName : String)

/-- The wording of what is wrong. -/
def Violation.reason : Violation → String
  | noObject typeName => "expected a JSON object, got " ++ typeName
  | noList typeName => "'result' must be a list or null, got " ++ typeName
  | noRow index => "result[" ++ toString index ++ "] is not an object"
  | noText index key typeName =>
    "result[" ++ toString index ++ "][" ++ Text.displayCodePoints key ++ "] is " ++ typeName ++
      ", expected string"

/-- What is wrong with an item at a position: it is no object, or the first of its members that is
no text. -/
inductive BreaksRow (index : Nat) : Json → Violation → Prop
  | noRow {item : Json} : (∀ members, item ≠ .object members) → BreaksRow index item (.noRow index)
  | noText {before : Row} {key : CodePoints} {v : Json} {after : List (CodePoints × Json)} :
      (∀ t, v ≠ .text t) →
        BreaksRow index (.object (before.map (Prod.map id .text) ++ (key, v) :: after))
          (.noText index key v.typeName)

/-- What is wrong with a value first: it is no object, its result is no list, or what is wrong with
the first item that is no row. -/
inductive Breaks : Json → Violation → Prop
  | noObject {v : Json} : (∀ members, v ≠ .object members) → Breaks v (.noObject v.typeName)
  | noList {members : List (CodePoints × Json)} {v : Json} : (.ofString "result", v) ∈ members →
      v ≠ .null → (∀ items, v ≠ .array items) → Breaks (.object members) (.noList v.typeName)
  | item {members : List (CodePoints × Json)} {good rest : List Json} {item : Json}
      {violation : Violation} : (.ofString "result", .array (good ++ item :: rest)) ∈ members →
      (∀ g ∈ good, ∃ row, IsRow g row) → BreaksRow good.length item violation →
        Breaks (.object members) violation

/-! ## Rows -/

section Rows

variable {index : Nat}

theorem readColumn_text (p : CodePoints × CodePoints) :
    readColumn index (Prod.map id .text p) = .ok p := rfl

theorem readColumn_of_ne_text {key : CodePoints} {v : Json} (h : ∀ t, v ≠ .text t) :
    readColumn index (key, v) = .error (Violation.noText index key v.typeName).reason := by
  cases v with
  | text t => exact absurd rfl (h t)
  | _ => rfl

/-- Texts are read as they are. -/
theorem mapM_readColumn (row : Row) :
    (row.map (Prod.map id .text)).mapM (readColumn index) = .ok row := by
  induction row with
  | nil => rfl
  | cons p row ih =>
      rw [List.map_cons, List.mapM_cons, readColumn_text, ih]
      rfl

theorem readRow_of_isRow {item : Json} {row : Row} (h : IsRow item row) :
    readRow index item = .ok row := by
  subst h
  exact mapM_readColumn row

theorem readRow_of_breaksRow {item : Json} {violation : Violation}
    (h : BreaksRow index item violation) : readRow index item = .error violation.reason := by
  cases h with
  | noRow hitem =>
      cases item with
      | object members => exact absurd rfl (hitem members)
      | _ => rfl
  | noText hv =>
      rw [readRow, List.mapM_append, mapM_readColumn, List.mapM_cons, readColumn_of_ne_text hv]
      rfl

/-- Members are texts up to the end, or up to the first that is none. -/
theorem texts_or_exists (members : List (CodePoints × Json)) :
    (∃ row : Row, members = row.map (Prod.map id .text)) ∨
      ∃ (before : Row) (key : CodePoints) (v : Json) (after : List (CodePoints × Json)),
        members = before.map (Prod.map id .text) ++ (key, v) :: after ∧ ∀ t, v ≠ .text t := by
  induction members with
  | nil => exact .inl ⟨[], rfl⟩
  | cons m members ih =>
      obtain ⟨key, v⟩ := m
      by_cases hv : ∃ t, v = .text t
      · obtain ⟨t, rfl⟩ := hv
        rcases ih with ⟨row, rfl⟩ | ⟨before, k, u, after, rfl, hu⟩
        · exact .inl ⟨(key, t) :: row, rfl⟩
        · exact .inr ⟨(key, t) :: before, k, u, after, rfl, hu⟩
      · exact .inr ⟨[], key, v, members, rfl, not_exists.1 hv⟩

/-- An item is a row, or something is wrong with it. -/
theorem isRow_or_breaksRow (index : Nat) (item : Json) :
    (∃ row, IsRow item row) ∨ ∃ violation, BreaksRow index item violation := by
  by_cases hitem : ∃ members, item = .object members
  · obtain ⟨members, rfl⟩ := hitem
    rcases texts_or_exists members with ⟨row, rfl⟩ | ⟨before, key, v, after, rfl, hv⟩
    · exact .inl ⟨row, rfl⟩
    · exact .inr ⟨_, .noText hv⟩
  · exact .inr ⟨_, .noRow (not_exists.1 hitem)⟩

/-! ## Results -/

theorem readRows_of_forall₂ {items : List Json} {rows : List Row}
    (h : List.Forall₂ IsRow items rows) : readRows index items = .ok rows := by
  induction h generalizing index with
  | nil => rfl
  | cons hrow _ ih =>
      rw [readRows, readRow_of_isRow hrow, ih]
      rfl

/-- The first item that is no row decides what is reported. -/
theorem readRows_of_breaksRow {good rest : List Json} {item : Json} {violation : Violation}
    (hgood : ∀ g ∈ good, ∃ row, IsRow g row)
    (hitem : BreaksRow (index + good.length) item violation) :
    readRows index (good ++ item :: rest) = .error violation.reason := by
  induction good generalizing index with
  | nil =>
      rw [List.length_nil, Nat.add_zero] at hitem
      rw [List.nil_append, readRows, readRow_of_breaksRow hitem]
      rfl
  | cons g good ih =>
      obtain ⟨⟨row, hrow⟩, hgood⟩ := List.forall_mem_cons.1 hgood
      rw [List.length_cons, Nat.add_comm good.length, ← Nat.add_assoc] at hitem
      rw [List.cons_append, readRows, readRow_of_isRow hrow, ih hgood hitem]
      rfl

/-- Items are rows up to the end, or up to the first that is none. -/
theorem rows_or_exists (index : Nat) (items : List Json) :
    (∃ rows, List.Forall₂ IsRow items rows) ∨ ∃ good item rest violation,
      items = good ++ item :: rest ∧ (∀ g ∈ good, ∃ row, IsRow g row) ∧
        BreaksRow (index + good.length) item violation := by
  induction items generalizing index with
  | nil => exact .inl ⟨[], .nil⟩
  | cons v items ih =>
      rcases isRow_or_breaksRow index v with ⟨row, hrow⟩ | ⟨violation, hv⟩
      · rcases ih (index + 1) with ⟨rows, hrows⟩ | ⟨good, item, rest, violation, rfl, hgood, hitem⟩
        · exact .inl ⟨row :: rows, .cons hrow hrows⟩
        · refine .inr ⟨v :: good, item, rest, violation, rfl, ?_, ?_⟩
          · exact List.forall_mem_cons.2 ⟨⟨row, hrow⟩, hgood⟩
          · rw [List.length_cons, Nat.add_comm good.length, ← Nat.add_assoc]
            exact hitem
      · exact .inr ⟨[], v, items, violation, rfl, nofun, hv⟩

end Rows

/-! ## Envelopes -/

variable {v : Json} {members : List (CodePoints × Json)}

/-- The result of an object is what stands beside the name. -/
theorem lookup_result {result : Json} (h : (Json.object members).Distinct)
    (hresult : (.ofString "result", result) ∈ members) :
    members.lookup (.ofString "result") = some result :=
  (lookup_eq_some_iff_mem (Json.distinct_object_iff.1 h).1).2 hresult

theorem readEnvelope_of_holds (hv : v.Distinct) {rows : List Row} (h : Holds v rows) :
    readEnvelope v = .ok rows := by
  cases h with
  | absent hnot => rw [readEnvelope, lookup_eq_none_iff_not_mem.2 hnot]
  | null hnull => rw [readEnvelope, lookup_result hv hnull]
  | rows hitems hrows =>
      rw [readEnvelope, lookup_result hv hitems]
      exact readRows_of_forall₂ hrows

theorem readEnvelope_of_breaks (hv : v.Distinct) {violation : Violation}
    (h : Breaks v violation) : readEnvelope v = .error violation.reason := by
  cases h with
  | noObject hobject =>
      cases v with
      | object members => exact absurd rfl (hobject members)
      | _ => rfl
  | noList hresult hnull hlist =>
      rename_i result
      rw [readEnvelope, lookup_result hv hresult]
      cases result with
      | null => exact absurd rfl hnull
      | array items => exact absurd rfl (hlist items)
      | _ => rfl
  | item hitems hgood hitem =>
      rw [readEnvelope, lookup_result hv hitems]
      exact readRows_of_breaksRow hgood (by rwa [Nat.zero_add])

/-- A value is an envelope, or something is wrong with it. -/
theorem holds_or_breaks (v : Json) :
    (∃ rows, Holds v rows) ∨ ∃ violation, Breaks v violation := by
  by_cases hobject : ∃ members, v = .object members
  swap
  · exact .inr ⟨_, .noObject (not_exists.1 hobject)⟩
  obtain ⟨members, rfl⟩ := hobject
  by_cases hkey : .ofString "result" ∈ members.map Prod.fst
  swap
  · exact .inl ⟨[], .absent hkey⟩
  obtain ⟨⟨-, result⟩, hresult, rfl⟩ := List.mem_map.1 hkey
  by_cases hnull : result = .null
  · subst hnull
    exact .inl ⟨[], .null hresult⟩
  by_cases hlist : ∃ items, result = .array items
  swap
  · exact .inr ⟨_, .noList hresult hnull (not_exists.1 hlist)⟩
  obtain ⟨items, rfl⟩ := hlist
  rcases rows_or_exists 0 items with
    ⟨rows, hrows⟩ | ⟨good, item, rest, violation, rfl, hgood, hitem⟩
  · exact .inl ⟨rows, .rows hresult hrows⟩
  · rw [Nat.zero_add] at hitem
    exact .inr ⟨violation, .item hresult hgood hitem⟩

theorem readEnvelope_eq_ok_iff (hv : v.Distinct) {rows : List Row} :
    readEnvelope v = .ok rows ↔ Holds v rows := by
  refine ⟨fun h ↦ ?_, readEnvelope_of_holds hv⟩
  rcases holds_or_breaks v with ⟨rows', hrows⟩ | ⟨violation, hviolation⟩
  · rw [readEnvelope_of_holds hv hrows] at h
    cases h
    exact hrows
  · rw [readEnvelope_of_breaks hv hviolation] at h
    cases h

theorem readEnvelope_eq_error_iff (hv : v.Distinct) {reason : String} :
    readEnvelope v = .error reason ↔
      ∃ violation, Breaks v violation ∧ reason = violation.reason := by
  constructor
  · intro h
    rcases holds_or_breaks v with ⟨rows, hrows⟩ | ⟨violation, hviolation⟩
    · rw [readEnvelope_of_holds hv hrows] at h
      cases h
    · rw [readEnvelope_of_breaks hv hviolation] at h
      cases h
      exact ⟨violation, hviolation, rfl⟩
  · rintro ⟨violation, hviolation, rfl⟩
    exact readEnvelope_of_breaks hv hviolation

/-! ## Replies -/

/-- What a reply is decoded to when its text can be read. -/
theorem decode_eq {source : Source} {s : String} (hs : source.read = .ok s)
    (hv : Json.read s.toList = .ok v) : ResultSet.decode source =
      match readEnvelope v with
      | .ok rows => .ok ⟨rows⟩
      | .error reason => .error (.undecodable reason (.text s) none) := by
  rw [ResultSet.decode, hs]
  change (readJson s >>= _) = _
  rw [readJson, hv]
  change (match readEnvelope v with | .ok rows => _ | .error reason => _) = _
  cases readEnvelope v <;> rfl

/-- A reply that is JSON is decoded to rows if and only if its value is an envelope of these rows,
and fails otherwise, for the first reason that there is. -/
theorem decode_of_read {source : Source} {s : String} {v : Json} (hs : source.read = .ok s)
    (hv : Json.read s.toList = .ok v) :
    (∀ rows, ResultSet.decode source = .ok ⟨rows⟩ ↔ Holds v rows) ∧
      ∀ e, ResultSet.decode source = .error e ↔ ∃ violation, Breaks v violation ∧
        e = .undecodable violation.reason (.text s) none := by
  have hdistinct := Json.distinct_of_read hv
  rw [decode_eq hs hv]
  constructor
  · intro rows
    rw [← readEnvelope_eq_ok_iff hdistinct]
    cases readEnvelope v <;> simp
  · intro e
    cases hread : readEnvelope v with
    | ok rows =>
        constructor
        · rintro ⟨⟩
        · rintro ⟨violation, hviolation, -⟩
          rw [readEnvelope_of_breaks hdistinct hviolation] at hread
          cases hread
    | error reason =>
        constructor
        · rintro ⟨⟩
          obtain ⟨violation, hviolation, rfl⟩ := (readEnvelope_eq_error_iff hdistinct).1 hread
          exact ⟨violation, hviolation, rfl⟩
        · rintro ⟨violation, hviolation, rfl⟩
          rw [readEnvelope_of_breaks hdistinct hviolation] at hread
          cases hread
          rfl

/-- A reply that is no envelope twice over: its result is written twice, the second time with an
item that has two members too many.  The names of members are surrogates by themselves. -/
def twofoldReply : String :=
  "\x7b\"result\": 1, \"result\": [\x7b\x7d, \x7b\"\\ud800\": \"b\", \"\\ud801\": true, " ++
    "\"\\udc00\": []\x7d]\x7d"

/-- The item of the reply that is no row. -/
def twofoldItem : Json :=
  .object [(⟨[.ofNat 0xd800]⟩, .text (.ofString "b")), (⟨[.ofNat 0xd801]⟩, .bool true),
    (⟨[.ofNat 0xdc00]⟩, .array [])]

/-- The later result counts, its members are kept apart, and the first of the two that are no texts
is reported. -/
theorem decode_twofoldReply :
    (Source.text twofoldReply).read = .ok twofoldReply ∧
      Json.read twofoldReply.toList =
        .ok (.object [(.ofString "result", .array [.object [], twofoldItem])]) ∧
      ResultSet.decode (.text twofoldReply) = .error
        (.undecodable "result[1]['\\ud801'] is bool, expected string" (.text twofoldReply)
          none) := by
  have hread : Json.read twofoldReply.toList =
      .ok (.object [(.ofString "result", .array [.object [], twofoldItem])]) := by cbv
  have hitem : BreaksRow 1 twofoldItem (.noText 1 ⟨[.ofNat 0xd801]⟩ "bool") :=
    @BreaksRow.noText 1 [(⟨[.ofNat 0xd800]⟩, .ofString "b")] ⟨[.ofNat 0xd801]⟩ (.bool true) _
      fun _ htext ↦ (by cases htext)
  have hbreaks : Breaks (.object [(.ofString "result", .array [.object [], twofoldItem])])
      (.noText 1 ⟨[.ofNat 0xd801]⟩ "bool") :=
    @Breaks.item _ [.object []] [] _ _ List.mem_cons_self
      (List.forall_mem_singleton.2 ⟨[], rfl⟩) hitem
  exact ⟨rfl, hread, ((decode_of_read rfl hread).2 _).2 ⟨_, hbreaks, rfl⟩⟩

end GraphQuery.Envelope
