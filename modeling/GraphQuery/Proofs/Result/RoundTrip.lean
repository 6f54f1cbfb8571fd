import GraphQuery.Proofs.Json.Layout
import GraphQuery.Proofs.Result.Acceptance
import GraphQuery.Proofs.Text.Utf8

/-!
# Replies that were written are decoded

Rows are written as an envelope: an object whose result is an array with one object for each row,
all names and texts quoted, and any blanks between the tokens.  Decoding undoes this, whether the
text is handed over as it is or as bytes.  A row that was written with a column twice has the column
once, where it was written first and with the text that was written last (`Row.Merges`).
-/

namespace GraphQuery

/-! ## Rows -/

namespace Row

/-- The row has the columns of some pairs, each where it is first among them, with the text that is
last beside it. -/
structure Merges (row : Row) (pairs : List (String × String)) : Prop where
  keys : row.keys = (pairs.map Prod.fst).eraseDups.map .ofString
  lookup : ∀ key, row.lookup (.ofString key) =
    (pairs.reverse.lookup key).map CodePoints.ofString

/-- The row that results from setting columns to texts one after the other. -/
def ofTexts (pairs : List (String × String)) : Row :=
  ofPairs (pairs.map (Prod.map .ofString .ofString))

/-- Texts stay apart, so the columns may as well be set first. -/
theorem ofTexts_eq_map (pairs : List (String × String)) :
    ofTexts pairs = (membersOf pairs).map (Prod.map .ofString .ofString) :=
  (map_membersOf CodePoints.ofString_injective _ pairs).symm

theorem merges_ofTexts (pairs : List (String × String)) : (ofTexts pairs).Merges pairs where
  keys := by
    rw [ofTexts_eq_map, keys, List.map_map, ← keys_foldl_setMember, List.map_map]
    rfl
  lookup key := by
    rw [ofTexts_eq_map, lookup_map CodePoints.ofString_injective, lookup_foldl_setMember]

/-- There is no other such row. -/
theorem Merges.eq {row : Row} {pairs : List (String × String)} (h : row.Merges pairs) :
    ofTexts pairs = row := by
  have hpairs := merges_ofTexts pairs
  refine eq_of_keys_eq (nodup_keys_membersOf _) (hpairs.keys.trans h.keys.symm) fun key hkey ↦ ?_
  change key ∈ (ofTexts pairs).keys at hkey
  rw [hpairs.keys] at hkey
  obtain ⟨name, -, rfl⟩ := List.mem_map.1 hkey
  rw [hpairs.lookup, h.lookup]

end Row

namespace Envelope

/-- The tokens of a row. -/
def rowTokens (pairs : List (String × String)) : List Json.Token :=
  Json.objectTokens (pairs.map fun p ↦ (.ofString p.1, [.text (.ofString p.2)]))

/-- The tokens of an envelope. -/
def tokens (rows : List (List (String × String))) : List Json.Token :=
  Json.objectTokens [(.ofString "result", Json.arrayTokens (rows.map rowTokens))]

/-- The value of a row. -/
def rowValue (row : Row) : Json := .object (row.map (Prod.map id .text))

/-- The value of an envelope. -/
def value (rows : List Row) : Json := .object [(.ofString "result", .array (rows.map rowValue))]

theorem reads_rowTokens (pairs : List (String × String)) :
    Json.Reads (rowTokens pairs) (rowValue (Row.ofTexts pairs)) := by
  have hmembers : List.Forall₂ Json.ReadsMember
      (pairs.map fun p ↦ (.ofString p.1, [.text (.ofString p.2)]))
      ((pairs.map (Prod.map .ofString .ofString)).map (Prod.map id .text)) := by
    rw [List.map_map, List.forall₂_map_left_iff, List.forall₂_map_right_iff, List.forall₂_same]
    intro p _
    exact ⟨rfl, Json.reads_text p.2⟩
  rw [rowValue, Row.ofTexts, Row.ofPairs, map_membersOf Function.injective_id]
  exact Json.reads_object hmembers

theorem reads_tokens (rows : List (List (String × String))) :
    Json.Reads (tokens rows) (value (rows.map Row.ofTexts)) := by
  have hitems : List.Forall₂ Json.Reads (rows.map rowTokens)
      ((rows.map Row.ofTexts).map rowValue) := by
    rw [List.map_map, List.forall₂_map_left_iff, List.forall₂_map_right_iff, List.forall₂_same]
    intro pairs _
    exact reads_rowTokens pairs
  have hresult : Json.ReadsMember (.ofString "result", Json.arrayTokens (rows.map rowTokens))
      (.ofString "result", .array ((rows.map Row.ofTexts).map rowValue)) :=
    ⟨rfl, Json.reads_array hitems⟩
  exact Json.reads_object (.cons hresult .nil)

/-- The value of an envelope is read as its rows. -/
theorem readEnvelope_value (rows : List Row) : readEnvelope (value rows) = .ok rows := by
  have hrows : List.Forall₂ IsRow (rows.map rowValue) rows := by
    rw [List.forall₂_map_left_iff, List.forall₂_same]
    intro row _
    rfl
  exact readRows_of_forall₂ hrows

theorem decode_of_laysOut {rows : List (List (String × String))} {cs : List Char}
    (h : Json.LaysOut cs (tokens rows)) {source : Source}
    (hsource : source.read = .ok (String.ofList cs)) :
    ResultSet.decode source = .ok ⟨rows.map Row.ofTexts⟩ := by
  have hread := Json.read_of_laysOut h (reads_tokens rows)
  rw [← String.toList_ofList (l := cs)] at hread
  rw [decode_eq hsource hread, readEnvelope_value]

/-- However the tokens of rows are laid out, the text and its bytes are decoded to these rows, in
order and each with its columns in order. -/
theorem decode_layout {given : List (List (String × String))} {cs : List Char}
    (h : Json.LaysOut cs (tokens given)) : ∃ rows : List Row,
      List.Forall₂ Row.Merges rows given ∧
        ResultSet.decode (.text (String.ofList cs)) = .ok ⟨rows⟩ ∧
        ResultSet.decode (.bytes (Text.Utf8.encode cs)) = .ok ⟨rows⟩ := by
  have hbytes : (Source.bytes (Text.Utf8.encode cs)).read = .ok (String.ofList cs) := by
    rw [Source.read, Text.Utf8.decode_encode]
  refine ⟨given.map Row.ofTexts, ?_, decode_of_laysOut h rfl, decode_of_laysOut h hbytes⟩
  rw [List.forall₂_map_left_iff, List.forall₂_same]
  intro pairs _
  exact Row.merges_ofTexts pairs

/-- A row with a column that is written twice, the second time with a character above U+FFFF. -/
def twiceWritten : List Char :=
  "\t\x7b\"result\":[\x7b\"k\":\"a\",\"k\":\"\\ud83d\\ude00\"\x7d]\x7d\n".toList

/-- The column is there once, with the text that was written last. -/
theorem decode_twiceWritten :
    Json.LaysOut twiceWritten (tokens [[("k", "a"), ("k", "😀")]]) ∧
      ResultSet.decode (.text (String.ofList twiceWritten)) = .ok ⟨[[("k", "😀")]]⟩ := by
  have hend := @Json.LaysOut.cons [] _ _ _ _ nofun .closeArray <|
    @Json.LaysOut.cons [] _ _ _ _ nofun .closeObject <|
    @Json.LaysOut.nil ['\n'] (by simp [Json.IsGap])
  have hrow := @Json.LaysOut.cons [] _ _ _ _ nofun .openObject <|
    @Json.LaysOut.cons [] _ _ _ _ nofun (.text "k") <|
    @Json.LaysOut.cons [] _ _ _ _ nofun .colon <|
    @Json.LaysOut.cons [] _ _ _ _ nofun (.text "a") <|
    @Json.LaysOut.cons [] _ _ _ _ nofun .comma <|
    @Json.LaysOut.cons [] _ _ _ _ nofun (.text "k") <|
    @Json.LaysOut.cons [] _ _ _ _ nofun .colon <|
    @Json.LaysOut.cons [] _ _ _ _ nofun (.text "😀") <|
    @Json.LaysOut.cons [] _ _ _ _ nofun .closeObject hend
  have hall := @Json.LaysOut.cons ['\t'] _ _ _ _ (by simp [Json.IsGap]) .openObject <|
    @Json.LaysOut.cons [] _ _ _ _ nofun (.text "result") <|
    @Json.LaysOut.cons [] _ _ _ _ nofun .colon <|
    @Json.LaysOut.cons [] _ _ _ _ nofun .openArray hrow
  have hlayout : Json.LaysOut twiceWritten (tokens [[("k", "a"), ("k", "😀")]]) := by
    refine cast (congrArg (Json.LaysOut · _) ?_) hall
    decide +kernel
  obtain ⟨rows, hrows, htext, -⟩ := decode_layout hlayout
  obtain ⟨row, rest, hrow, hrest, rfl⟩ := List.forall₂_cons_right_iff.1 hrows
  obtain rfl := List.forall₂_nil_right_iff.1 hrest
  obtain rfl := hrow.eq
  exact ⟨hlayout, htext⟩

end Envelope

end GraphQuery
