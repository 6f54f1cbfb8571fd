import GraphQuery.Transport.Http

/-!
# One query over a link

A query over a link has one fate: the request for it cannot be made, it is lost on its way, or it is
answered (`Client.fate`).  The fate is up to the client alone, and it says all of what comes of the
query (`Link.Reports`).  The answer is handed on or, if its status is an error, reported with its
text; a fault is reported if it is one that the link has to report at that point, and else comes out
as it is.  One and the same fault may be reported at one of the two points only.

Whatever the fate, one request is made at most and it is sent at most once, and the link stays as it
is but for what was asked of its client.
-/

namespace GraphQuery

open Text.Utf8

/-! ## Faults -/

/-- A fault of a kind says that a request cannot be made of what is given: an address, a value or
the sort of a value is not acceptable.  What cannot be encoded, and a label, are values. -/
inductive FaultKind.Malforms : FaultKind → Prop
  | address : Malforms .address
  | value : Malforms .value
  | encoding : Malforms .encoding
  | label (matter : LabelMatter) : Malforms (.label matter)
  | type : Malforms .type

/-- A fault of a kind says that an exchange over HTTP failed, in whatever way. -/
inductive FaultKind.Breaks : FaultKind → Prop
  | exchange (way : Exchange) : Breaks (.exchange way)

namespace FaultKind

variable {k : FaultKind}

theorem isConstruction_iff : k.isConstruction = true ↔ k.Malforms := by
  constructor
  · intro h
    cases k with
    | address => exact .address
    | value => exact .value
    | encoding => exact .encoding
    | label matter => exact .label matter
    | type => exact .type
    | _ => cases h
  · rintro (_ | _ | _ | _ | _) <;> rfl

theorem isExchange_iff : k.isExchange = true ↔ k.Breaks := by
  constructor
  · intro h
    cases k with
    | exchange way => exact .exchange way
    | _ => cases h
  · rintro ⟨way⟩
    rfl

end FaultKind

/-! ## Fates -/

/-- What becomes of a query. -/
inductive Fate
  /-- The request for it cannot be made. -/
  | unmade (fault : Fault)
  /-- The request is lost. -/
  | lost (fault : Fault)
  | answered (response : Response)

/-- What a client makes of a request.  What is not made is not sent. -/
def Client.fate (c : Client) (r : Request) : Fate :=
  match c.behaviour.make c.demands r with
  | some f => .unmade f
  | none =>
    match c.behaviour.send (c.demands ++ [.make r]) r with
    | .ok response => .answered response
    | .error f => .lost f

/-- The status of an answer is an error. -/
def Response.IsError (r : Response) : Prop := 400 ≤ r.status ∧ r.status ≤ 599

namespace Client

variable {c : Client} {r : Request}

@[simp] theorem sent_ask_make : (c.ask (.make r)).sent = c.sent := by
  simp [ask, sent]

@[simp] theorem sent_ask_send : (c.ask (.send r)).sent = c.sent ++ [r] := by
  simp [ask, sent]

@[simp] theorem closed_ask_make : (c.ask (.make r)).closed = c.closed := by
  simp [ask, closed]

@[simp] theorem closed_ask_send : (c.ask (.send r)).closed = c.closed := by
  simp [ask, closed]

@[simp] theorem sent_ask_close : (c.ask .close).sent = c.sent := by
  simp [ask, sent]

@[simp] theorem closed_ask_close : (c.ask .close).closed = true := by
  simp [ask, closed]

end Client

namespace Link

variable (l : Link) (query : String)

/-- What becomes of the next query. -/
def fate : Fate := l.client.fate (l.request query)

/-- The query is posted: the request for it can be made. -/
def Posts : Prop := ∀ f, l.fate query ≠ .unmade f

/-- What comes of a query is what its fate is, and nothing else is done. -/
structure Reports : Prop where
  /-- The client is asked to make one request for the query, to the address of the link and with the
  query as its body; it is asked to send that request, once, if it could be made. -/
  posted : let r : Request :=
      ⟨"POST", l.url.text, "text/plain; charset=utf-8", encode query.toList⟩
    (l.Posts query → (l.send query).after.client.demands =
      l.client.demands ++ [.make r, .send r]) ∧
    (¬l.Posts query → (l.send query).after.client.demands = l.client.demands ++ [.make r])
  /-- An answer is handed on unless its status is an error. -/
  ok_iff : ∀ body, (l.send query).outcome = .ok body ↔
    ∃ response, l.fate query = .answered response ∧ ¬response.IsError ∧ body = response.body
  /-- A request failed if it was lost in an exchange, or if the status of its answer is an error,
  which is reported with the text of the answer. -/
  failed_iff : ∀ q reason, (l.send query).outcome = .error (.requestFailed q reason) ↔
    q = .text query ∧
      ((∃ f, l.fate query = .lost f ∧ f.kind.Breaks ∧ reason = f.message) ∨
        ∃ response text, l.fate query = .answered response ∧ response.IsError ∧
          response.text = .ok text ∧
          reason = "HTTP " ++ toString response.status ++ ": " ++
            String.ofList (text.toList.take 200))
  malformed_iff : ∀ url reason, (l.send query).outcome = .error (.malformedRequest url reason) ↔
    url = .text l.url.text ∧
      ∃ f, l.fate query = .unmade f ∧ f.kind.Malforms ∧ reason = f.message
  /-- All other faults come out as they are, that of reading the text of an error among them. -/
  fault_iff : ∀ f, (l.send query).outcome = .error (.fault f) ↔
    (l.fate query = .unmade f ∧ ¬f.kind.Malforms) ∨ (l.fate query = .lost f ∧ ¬f.kind.Breaks) ∨
      ∃ response, l.fate query = .answered response ∧ response.IsError ∧ response.text = .error f
  complete : ∀ e, (l.send query).outcome = .error e →
    (∃ q reason, e = .requestFailed q reason) ∨ (∃ url reason, e = .malformedRequest url reason) ∨
      ∃ f, e = .fault f
  url : (l.send query).after.url = l.url
  owned : (l.send query).after.owned = l.owned
  behaviour : (l.send query).after.client.behaviour = l.client.behaviour
  closed : (l.send query).after.client.closed = l.client.closed

end Link

/-! ## What comes of a fate -/

namespace Link

variable {l : Link} {query : String}

/-- What a link makes of the fate of a query. -/
inductive Comes (l : Link) (query : String) : Fate → Except Error (List UInt8) → Prop
  | malformed {f : Fault} : f.kind.Malforms →
      Comes l query (.unmade f) (.error (.malformedRequest (.text l.url.text) f.message))
  | unmade {f : Fault} : ¬f.kind.Malforms → Comes l query (.unmade f) (.error (.fault f))
  | failed {f : Fault} : f.kind.Breaks →
      Comes l query (.lost f) (.error (.requestFailed (.text query) f.message))
  | lost {f : Fault} : ¬f.kind.Breaks → Comes l query (.lost f) (.error (.fault f))
  | refused {r : Response} {text : String} : r.IsError → r.text = .ok text →
      Comes l query (.answered r)
        (.error (.requestFailed (.text query) (statusReason r.status text)))
  | unreadable {r : Response} {f : Fault} : r.IsError → r.text = .error f →
      Comes l query (.answered r) (.error (.fault f))
  | answered {r : Response} : ¬r.IsError → Comes l query (.answered r) (.ok r.body)

theorem comes_unmade (f : Fault) : Comes l query (.unmade f) (.error (l.unmadeOutcome f)) := by
  rw [unmadeOutcome]
  split
  · rename_i hkind
    exact .malformed (FaultKind.isConstruction_iff.1 hkind)
  · rename_i hkind
    exact .unmade (mt FaultKind.isConstruction_iff.2 hkind)

theorem comes_lost (f : Fault) : Comes l query (.lost f) (sentOutcome query (.error f)) := by
  rw [sentOutcome]
  split
  · rename_i hkind
    exact .failed (FaultKind.isExchange_iff.1 hkind)
  · rename_i hkind
    exact .lost (mt FaultKind.isExchange_iff.2 hkind)

theorem isErrorStatus_iff {r : Response} : isErrorStatus r.status = true ↔ r.IsError := by
  simp only [isErrorStatus, Bool.and_eq_true, decide_eq_true_eq, Response.IsError]

theorem comes_answered (r : Response) :
    Comes l query (.answered r) (sentOutcome query (.ok r)) := by
  rw [sentOutcome, answerOutcome]
  split
  · rename_i hstatus
    cases htext : r.text with
    | ok text => exact .refused (isErrorStatus_iff.1 hstatus) htext
    | error f => exact .unreadable (isErrorStatus_iff.1 hstatus) htext
  · rename_i hstatus
    exact .answered (mt isErrorStatus_iff.2 hstatus)

namespace Comes

variable {fate : Fate} {outcome : Except Error (List UInt8)} {reason : String}

theorem eq_ok_iff (h : Comes l query fate outcome) {body : List UInt8} : outcome = .ok body ↔
    ∃ response, fate = .answered response ∧ ¬response.IsError ∧ body = response.body := by
  constructor
  · rintro rfl
    cases h with
    | answered hstatus => exact ⟨_, rfl, hstatus, rfl⟩
  · rintro ⟨response, rfl, hstatus, rfl⟩
    cases h with
    | refused herror _ | unreadable herror _ => exact absurd herror hstatus
    | answered _ => rfl

theorem eq_failed_iff (h : Comes l query fate outcome) {q : Plain} :
    outcome = .error (.requestFailed q reason) ↔ q = .text query ∧
      ((∃ f, fate = .lost f ∧ f.kind.Breaks ∧ reason = f.message) ∨
        ∃ response text, fate = .answered response ∧ response.IsError ∧ response.text = .ok text ∧
          reason = "HTTP " ++ toString response.status ++ ": " ++
            String.ofList (text.toList.take 200)) := by
  constructor
  · rintro rfl
    cases h with
    | failed hkind => exact ⟨rfl, .inl ⟨_, rfl, hkind, rfl⟩⟩
    | refused hstatus htext => exact ⟨rfl, .inr ⟨_, _, rfl, hstatus, htext, rfl⟩⟩
  · rintro ⟨rfl, ⟨f, rfl, hkind, rfl⟩ | ⟨response, text, rfl, hstatus, htext, rfl⟩⟩
    · cases h with
      | failed _ => rfl
      | lost hnot => exact absurd hkind hnot
    · cases h with
      | refused _ htext' =>
          cases htext.symm.trans htext'
          rfl
      | unreadable _ htext' => cases htext.symm.trans htext'
      | answered hnot => exact absurd hstatus hnot

theorem eq_malformed_iff (h : Comes l query fate outcome) {url : Plain} :
    outcome = .error (.malformedRequest url reason) ↔ url = .text l.url.text ∧
      ∃ f, fate = .unmade f ∧ f.kind.Malforms ∧ reason = f.message := by
  constructor
  · rintro rfl
    cases h with
    | malformed hkind => exact ⟨rfl, _, rfl, hkind, rfl⟩
  · rintro ⟨rfl, f, rfl, hkind, rfl⟩
    cases h with
    | malformed _ => rfl
    | unmade hnot => exact absurd hkind hnot

theorem eq_fault_iff (h : Comes l query fate outcome) {f : Fault} :
    outcome = .error (.fault f) ↔
      (fate = .unmade f ∧ ¬f.kind.Malforms) ∨ (fate = .lost f ∧ ¬f.kind.Breaks) ∨
        ∃ response, fate = .answered response ∧ response.IsError ∧ response.text = .error f := by
  constructor
  · rintro rfl
    cases h with
    | unmade hkind => exact .inl ⟨rfl, hkind⟩
    | lost hkind => exact .inr (.inl ⟨rfl, hkind⟩)
    | unreadable hstatus htext => exact .inr (.inr ⟨_, rfl, hstatus, htext⟩)
  · rintro (⟨rfl, hnot⟩ | ⟨rfl, hnot⟩ | ⟨response, rfl, hstatus, htext⟩)
    · cases h with
      | malformed hkind => exact absurd hkind hnot
      | unmade _ => rfl
    · cases h with
      | failed hkind => exact absurd hkind hnot
      | lost _ => rfl
    · cases h with
      | refused _ htext' => cases htext.symm.trans htext'
      | unreadable _ htext' =>
          cases htext.symm.trans htext'
          rfl
      | answered hnot => exact absurd hstatus hnot

/-- There are no other errors. -/
theorem error_cases {e : Error} (h : Comes l query fate (.error e)) :
    (∃ q reason, e = .requestFailed q reason) ∨ (∃ url reason, e = .malformedRequest url reason) ∨
      ∃ f, e = .fault f := by
  cases h with
  | malformed _ => exact .inr (.inl ⟨_, _, rfl⟩)
  | unmade _ | lost _ | unreadable _ _ => exact .inr (.inr ⟨_, rfl⟩)
  | failed _ | refused _ _ => exact .inl ⟨_, _, rfl⟩

end Comes

variable (l query)

/-- What comes of a query comes of its fate. -/
theorem comes_send : Comes l query (l.fate query) (l.send query).outcome := by
  unfold send fate Client.fate
  dsimp only
  cases l.client.behaviour.make l.client.demands (l.request query) with
  | some f => exact comes_unmade f
  | none =>
      have hmade : (l.ask (.make (l.request query))).client =
          ⟨l.client.behaviour, l.client.demands ++ [.make (l.request query)]⟩ := rfl
      rw [hmade]
      cases l.client.behaviour.send (l.client.demands ++ [.make (l.request query)])
        (l.request query) with
      | ok response => exact comes_answered response
      | error f => exact comes_lost f

/-! ## What is asked of the client -/

/-- A link after a query, according to whether the request for it could be made. -/
theorem after_send : (l.send query).after =
    match l.client.behaviour.make l.client.demands (l.request query) with
    | some _ => l.ask (.make (l.request query))
    | none => (l.ask (.make (l.request query))).ask (.send (l.request query)) := by
  unfold send
  dsimp only
  cases l.client.behaviour.make l.client.demands (l.request query) <;> rfl

theorem posts_iff : l.Posts query ↔
    l.client.behaviour.make l.client.demands (l.request query) = none := by
  unfold Posts fate Client.fate
  cases l.client.behaviour.make l.client.demands (l.request query) with
  | some f => exact ⟨fun h ↦ absurd rfl (h f), nofun⟩
  | none => cases l.client.behaviour.send _ (l.request query) <;> simp

theorem after_send_of_posts (h : l.Posts query) : (l.send query).after =
    (l.ask (.make (l.request query))).ask (.send (l.request query)) := by
  rw [after_send, (l.posts_iff query).1 h]

theorem after_send_of_not_posts (h : ¬l.Posts query) :
    (l.send query).after = l.ask (.make (l.request query)) := by
  cases hmake : l.client.behaviour.make l.client.demands (l.request query) with
  | none => exact absurd ((l.posts_iff query).2 hmake) h
  | some f => rw [after_send, hmake]

/-- Of a link only what was asked of its client depends on queries. -/
theorem send_after : (l.send query).after.url = l.url ∧ (l.send query).after.owned = l.owned ∧
    (l.send query).after.client.behaviour = l.client.behaviour ∧
    (l.send query).after.client.closed = l.client.closed := by
  by_cases h : l.Posts query
  · rw [after_send_of_posts l query h]
    exact ⟨rfl, rfl, rfl, by simp [ask]⟩
  · rw [after_send_of_not_posts l query h]
    exact ⟨rfl, rfl, rfl, by simp [ask]⟩

theorem sent_send_of_posts (h : l.Posts query) :
    (l.send query).after.client.sent = l.client.sent ++ [l.request query] := by
  rw [after_send_of_posts l query h]
  simp [ask]

theorem sent_send_of_not_posts (h : ¬l.Posts query) :
    (l.send query).after.client.sent = l.client.sent := by
  rw [after_send_of_not_posts l query h]
  simp [ask]

theorem reports : l.Reports query where
  posted := by
    refine ⟨fun h ↦ ?_, fun h ↦ ?_⟩
    · rw [after_send_of_posts l query h]
      exact List.append_assoc _ _ _
    · rw [after_send_of_not_posts l query h]
      rfl
  ok_iff _ := (l.comes_send query).eq_ok_iff
  failed_iff _ _ := (l.comes_send query).eq_failed_iff
  malformed_iff _ _ := (l.comes_send query).eq_malformed_iff
  fault_iff _ := (l.comes_send query).eq_fault_iff
  complete _ h := by
    have hcomes := l.comes_send query
    rw [h] at hcomes
    exact hcomes.error_cases
  url := (l.send_after query).1
  owned := (l.send_after query).2.1
  behaviour := (l.send_after query).2.2.1
  closed := (l.send_after query).2.2.2

end Link

end GraphQuery
