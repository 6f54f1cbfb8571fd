import GraphQuery.Proofs.Beside
import GraphQuery.Proofs.Json.Reading
import GraphQuery.Proofs.Result.Acceptance
import GraphQuery.Proofs.Text.Utf8

/-!
# What comes of replies

A reply is no text, or no JSON, or no envelope, or holds rows, and decoding it tells which.  There
is one thing else that it may come to: an integer with more digits than are read is none of these
faults, and is reported as what it is (`Kinds`).  This is seen on a text as a whole: what is written
behind such an integer, or whether it is JSON at all, does not matter.

A store makes of a reply what decoding makes of it, so nothing else leaves the calls that hand a
text over, be it a query as it is or an errand (`Run.kinds_of_reply`).
-/

namespace GraphQuery

open Work

open Json (IsJson IsShortJson ReachesOverlong)

/-- A reply is a text, or the bytes of one. -/
inductive Source.Carries : Source → String → Prop
  | text {s : String} : Carries (.text s) s
  | bytes {s : String} : Carries (.bytes (Text.Utf8.encode s.toList)) s

/-- The kinds of outcomes of decoding a reply, and when each of them comes about. -/
structure Source.Kinds (source : Source) : Prop where
  /-- The reply is not even a text. -/
  unreadable : (∃ reason, ResultSet.decode source = .error (.unreadable reason)) ↔
    ∃ bs, source = .bytes bs ∧ ¬Text.Utf8.IsEncoded bs
  /-- Its text is not JSON. -/
  notJson {s : String} : source.Carries s →
    ((∃ reason, ResultSet.decode source = .error (.undecodable reason (.text s) (some .notJson))) ↔
      ¬IsJson s.toList ∧ ∀ n, ¬ReachesOverlong s.toList n)
  /-- Its text is JSON, be it an envelope or not. -/
  json {s : String} : source.Carries s →
    ((∃ rs, ResultSet.decode source = .ok rs) ∨
        (∃ reason, ResultSet.decode source = .error (.undecodable reason (.text s) none)) ↔
      IsShortJson s.toList)
  /-- Its text has an integer that is too long to be read. -/
  overlong {s : String} {n : Nat} : source.Carries s →
    (ResultSet.decode source = .error (.integerTooLong n) ↔ ReachesOverlong s.toList n)
  /-- There is nothing else. -/
  exhaustive {e : Error} : ResultSet.decode source = .error e →
    (∃ reason, e = .unreadable reason) ∨
      (∃ s reason cause, source.Carries s ∧ e = .undecodable reason (.text s) cause) ∨
      ∃ n, e = .integerTooLong n

namespace Source

variable {source : Source} {s : String}

/-! ## Texts -/

theorem Carries.read_eq (h : source.Carries s) : source.read = .ok s := by
  cases h with
  | text => rfl
  | bytes =>
      rw [read, Text.Utf8.decode_encode]
      exact congrArg Except.ok String.ofList_toList

theorem read_bytes_of_not_isEncoded {bs : List UInt8} (h : ¬Text.Utf8.IsEncoded bs) :
    ∃ reason, (bytes bs).read = .error (.unreadable reason) := by
  rw [read]
  cases hbs : Text.Utf8.decode bs with
  | ok cs => exact absurd (Text.Utf8.isEncoded_iff.2 ⟨cs, hbs⟩) h
  | error f => exact ⟨_, rfl⟩

/-- A reply carries a text, or is no text. -/
theorem carries_or (source : Source) :
    (∃ s, source.Carries s) ∨ ∃ bs, source = .bytes bs ∧ ¬Text.Utf8.IsEncoded bs := by
  cases source with
  | text s => exact .inl ⟨s, .text⟩
  | bytes bs =>
      by_cases hbs : Text.Utf8.IsEncoded bs
      · obtain ⟨cs, rfl⟩ := hbs
        refine .inl ⟨.ofList cs, ?_⟩
        rw [← String.toList_ofList (l := cs)]
        simpa using Carries.bytes (s := .ofList cs)
      · exact .inr ⟨bs, rfl, hbs⟩

/-! ## Kinds -/

theorem decode_of_not_isEncoded {bs : List UInt8} (h : ¬Text.Utf8.IsEncoded bs) :
    ∃ reason, ResultSet.decode (.bytes bs) = .error (.unreadable reason) := by
  obtain ⟨reason, hreason⟩ := read_bytes_of_not_isEncoded h
  refine ⟨reason, ?_⟩
  rw [ResultSet.decode, hreason]
  rfl

theorem Carries.decode_of_readJson (h : source.Carries s) {e : Error}
    (he : Envelope.readJson s = .error e) : ResultSet.decode source = .error e := by
  rw [ResultSet.decode, h.read_eq]
  change (Envelope.readJson s >>= _) = _
  rw [he]
  rfl

/-- What becomes of a text is found out by reading it. -/
theorem Carries.decode_cases (h : source.Carries s) :
    (∃ v, Json.read s.toList = .ok v ∧ ((∃ rs, ResultSet.decode source = .ok rs) ∨
      ∃ reason, ResultSet.decode source = .error (.undecodable reason (.text s) none))) ∨
    (∃ fault rest, Json.read s.toList = .error (.malformed fault rest) ∧
      ∃ reason, ResultSet.decode source =
        .error (.undecodable reason (.text s) (some .notJson))) ∨
    ∃ n, Json.read s.toList = .error (.integerTooLong n) ∧
      ResultSet.decode source = .error (.integerTooLong n) := by
  cases hread : Json.read s.toList with
  | ok v =>
      refine .inl ⟨v, rfl, ?_⟩
      rw [Envelope.decode_eq h.read_eq hread]
      cases Envelope.readEnvelope v with
      | ok rows => exact .inl ⟨_, rfl⟩
      | error reason => exact .inr ⟨_, rfl⟩
  | error e =>
      cases e with
      | malformed fault rest =>
          have hjson : ∃ reason, Envelope.readJson s =
              .error (.undecodable reason (.text s) (some .notJson)) := by
            rw [Envelope.readJson, hread]
            exact ⟨_, rfl⟩
          obtain ⟨reason, hreason⟩ := hjson
          exact .inr (.inl ⟨fault, rest, rfl, reason, h.decode_of_readJson hreason⟩)
      | integerTooLong n =>
          refine .inr (.inr ⟨n, rfl, h.decode_of_readJson ?_⟩)
          rw [Envelope.readJson, hread]

theorem kinds (source : Source) : source.Kinds where
  unreadable := by
    constructor
    · rintro ⟨reason, hreason⟩
      rcases source.carries_or with ⟨s, hs⟩ | hbs
      · rcases hs.decode_cases with ⟨_, _, ⟨_, h⟩ | ⟨_, h⟩⟩ | ⟨_, _, _, _, h⟩ | ⟨_, _, h⟩
        all_goals
          rw [hreason] at h
          cases h
      · exact hbs
    · rintro ⟨bs, rfl, hbs⟩
      exact decode_of_not_isEncoded hbs
  notJson hs := by
    rw [← Json.read_eq_malformed_iff]
    rcases hs.decode_cases with ⟨_, hread, ⟨_, h⟩ | ⟨_, h⟩⟩ | ⟨_, _, hread, _, h⟩ | ⟨_, hread, h⟩
    all_goals simp [hread, h]
  json hs := by
    rw [← Json.read_eq_ok_iff]
    rcases hs.decode_cases with ⟨_, hread, ⟨_, h⟩ | ⟨_, h⟩⟩ | ⟨_, _, hread, _, h⟩ | ⟨_, hread, h⟩
    all_goals simp [hread, h]
  overlong hs := by
    rw [← Json.read_eq_tooLong_iff]
    rcases hs.decode_cases with ⟨_, hread, ⟨_, h⟩ | ⟨_, h⟩⟩ | ⟨_, _, hread, _, h⟩ | ⟨_, hread, h⟩
    all_goals simp [hread, h]
  exhaustive he := by
    rcases source.carries_or with ⟨s, hs⟩ | ⟨bs, rfl, hbs⟩
    · rcases hs.decode_cases with ⟨_, _, ⟨_, h⟩ | ⟨_, h⟩⟩ | ⟨_, _, _, _, h⟩ | ⟨_, _, h⟩
      all_goals
        rw [h] at he
        cases he
      · exact .inr (.inl ⟨s, _, _, hs, rfl⟩)
      · exact .inr (.inl ⟨s, _, _, hs, rfl⟩)
      · exact .inr (.inr ⟨_, rfl⟩)
    · obtain ⟨reason, h⟩ := decode_of_not_isEncoded hbs
      rw [h] at he
      cases he
      exact .inl ⟨reason, rfl⟩

end Source

/-! ## An integer that is too long -/

/-- A text with nothing but digits, more of them than are read. -/
theorem Json.reachesOverlong_replicate {n : Nat} (h : Number.digitLimit < n) :
    ReachesOverlong (List.replicate n '1') n := by
  have hpos : n ≠ 0 := by
    rintro rfl
    cases h
  have hones : ∀ c ∈ List.replicate n '1', c = '1' := fun _ ↦ List.eq_of_mem_replicate
  have hwhole : Json.IsWhole (List.replicate n '1') := by
    refine .inr ⟨⟨by simpa using hpos, fun c hc ↦ by rw [hones c hc]; rfl⟩, fun hhead ↦ ?_⟩
    exact absurd (hones '0' (List.mem_of_head? hhead)) (by decide)
  have hnone : Json.IsWriting [] [] := .nil (List.forall_mem_nil _)
  have hword : Json.Writes (Json.minus false ++ List.replicate n '1')
      (.integer false (List.replicate n '1')) := .integer hwhole
  have hvalue : Json.IsValue ([] ++ .integer false (List.replicate n '1') :: []) := .scalar rfl
  have hreaches := ReachesOverlong.intro hnone (List.forall_mem_nil _) hword Json.ended_nil
    (by rwa [List.length_replicate]) hvalue
  rw [List.append_nil, List.nil_append, List.length_replicate] at hreaches
  exact hreaches

/-- A reply of one digit more than are read. -/
def ones : String := .ofList (List.replicate 4301 '1')

theorem reachesOverlong_ones : ReachesOverlong ones.toList 4301 := by
  have hones : ones.toList = List.replicate 4301 '1' := String.toList_ofList
  rw [hones]
  exact Json.reachesOverlong_replicate (Nat.lt_succ_self 4300)

/-- Not every reply holds rows, or is reported as no text or as no envelope. -/
theorem Source.not_forall_kinds : ¬∀ source : Source, (∃ rs, ResultSet.decode source = .ok rs) ∨
    (∃ reason, ResultSet.decode source = .error (.unreadable reason)) ∨
    ∃ reason text cause, ResultSet.decode source = .error (.undecodable reason text cause) := by
  intro h
  have hones := ((Source.text ones).kinds.overlong .text).2 reachesOverlong_ones
  rcases h (.text ones) with ⟨_, h⟩ | ⟨_, h⟩ | ⟨_, _, _, h⟩
  all_goals
    rw [hones] at h
    cases h

/-! ## Stores -/

namespace Run

open GraphQuery.Action

variable {es : List Event} {w : Workspace}

/-- A reply comes to one of the kinds of outcomes, and in every run this is all that comes of
executing a text, and of an errand that hands one over, where the transport gives that reply. -/
theorem kinds_of_reply (h : Run es w) (source : Source) :
    source.Kinds ∧ ∀ (g : StoreId) (s : Store) (text : String), w.stores[g]? = some s →
      (s.exchange text).outcome = .ok source →
      ((Command.execute g (.text text)).run w).1 = (ResultSet.decode source).map .results ∧
      ∀ r : Errand, (r.command g).Hands w g text →
        ((r.command g).run w).1 = (ResultSet.decode source).map r.result := by
  refine ⟨source.kinds, fun g s text hg hsource ↦ ?_⟩
  have hreply : s.reply text = ResultSet.decode source := by
    rw [Store.reply, hsource]
    rfl
  constructor
  · change ((Action.execute g (.text text) >>= fun rs ↦ pure (Value.results rs)).on w).1 = _
    rw [on_bind, on_execute_text hg, hreply]
    cases ResultSet.decode source <;> rfl
  · intro r hr
    rw [h.outcome_of_admits hg (h.admits_of_hands hr), hreply]

/-- An integer that is too long leaves finding, and executing a text. -/
theorem kinds_of_ones :
    let w := (Command.runAll [.connect .default
      (.recorder [.source (.text ones)] true), .startVertices (.selector (.nodes .any)),
      .build 0 (.finish .all)] .empty).2
    ((Command.execute 0 (.text "1")).run w).1 = .error (.integerTooLong 4301) ∧
      ((Command.find 0 0).run w).1 = .error (.integerTooLong 4301) := by
  have hrun := Run.start.append_history [.connect .default
    (.recorder [.source (.text ones)] true), .startVertices (.selector (.nodes .any)),
    .build 0 (.finish .all)] (by simp [Command.snapshot?, Build.snapshot?])
  obtain ⟨hkinds, hstores⟩ := kinds_of_reply hrun (.text ones)
  have hones := (hkinds.overlong .text).2 reachesOverlong_ones
  have hall : (Command.find 0 0).Hands _ 0 "g.V().All()" :=
    hrun.hands_of_admits (r := .find 0) rfl (.query rfl rfl rfl (List.forall_mem_nil _))
  obtain ⟨hexecute, -⟩ := hstores 0 _ "1" rfl rfl
  obtain ⟨-, hfind⟩ := hstores 0 _ "g.V().All()" rfl rfl
  rw [hones] at hexecute hfind
  exact ⟨hexecute, hfind (.find 0) hall⟩

end Run

end GraphQuery
