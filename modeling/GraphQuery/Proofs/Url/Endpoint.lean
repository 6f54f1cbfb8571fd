import GraphQuery.Proofs.Transport.Usage
import GraphQuery.Proofs.Url.Reader

/-!
# Where queries go

A store is asked for by a scheme, a host and a port.  Its address is put together of these without a
look at them, and then read again, so what is read need not be what was put in: a host may end
before its end, and the rest of it be taken for a path or a port.

Whatever lawful reader the address is read by, what queries are sent to leads to where the store was
asked for exactly if the scheme has no colon in it and the host stays in one piece
(`Endpoint.reaches_of_connect`).  If not, the address may be accepted all the same and lead
elsewhere (`Endpoint.not_forall_leadsTo`).
-/

namespace GraphQuery

open Text (IsAscii)

/-! ## Endpoints -/

namespace Endpoint

/-- The endpoint at a host and a port. -/
def located (scheme host : String) (port : Int) : Endpoint :=
  { default with scheme := .text scheme, host := .text host, port := .int port }

/-- What can be asked for: a scheme of HTTP, a host that stays in one piece, and a port that can be
written out, if a reader can read all of it and tell the name of the host. -/
structure Fits (read : Reader) (plain : Char → Bool) (scheme host : String) (port : Int) :
    Prop where
  http : Url.IsHttpScheme scheme.toList
  whole : Url.IsWhole plain host.toList
  written : Number.isOverlong port = false
  named : ∃ a name, read (.text (located scheme host port).text) = .ok a ∧ a.name = .ok name ∧
    name ≠ ""

section Located

variable {read : Reader} {plain : Char → Bool} {scheme host : String} {n : Int} {a : Address}

theorem text_located (scheme host : String) (n : Int) :
    (located scheme host n).text = Address.composed scheme host n := by
  have hint : (Plain.int n).inText = toString n := by simp [Plain.inText, Plain.display]
  have htext : (located scheme host n).text =
      scheme ++ "://" ++ host ++ ":" ++ (Plain.int n).inText ++ "/api/" ++ "v1" ++ "/query/" ++
        "gremlin" := rfl
  have hpath : "/api/".toList ++ "v1".toList ++ "/query/".toList ++ "gremlin".toList =
      Address.queryPath.toList := by decide
  refine String.toList_inj.1 ?_
  rw [htext, hint, Address.toList_composed, Url.composed, ← hpath]
  simp [String.toList_append]

theorem address_located (scheme host : String) (n : Int) : (located scheme host n).address =
    if Number.isOverlong n then .error (.fault .overlong)
    else .ok (located scheme host n).text := by
  have hparts : Plain.anyOverlong (located scheme host n).parts = Number.isOverlong n := by
    simp [parts, located, default, Plain.anyOverlong, Plain.isOverlong]
  rw [address, hparts]
  rfl

/-- An address that is written out is accepted, and leads to where it was asked for, if that can be
asked for, and only then. -/
theorem exists_validate_iff (hread : read.Lawful plain) (hhost : IsAscii host)
    (hn : Number.isOverlong n = false) :
    (∃ a, Address.validate read (.text (located scheme host n).text) = .ok a ∧
      a.LeadsTo scheme host n) ↔ Fits read plain scheme host n := by
  constructor
  · rintro ⟨a, hvalid, hleads⟩
    obtain ⟨ha, hhttp, name, hname, hne⟩ := Address.validate_eq_ok_iff.1 hvalid
    refine ⟨hleads.isHttpScheme hhttp, ?_, hn, a, name, ha, hname, hne⟩
    exact hleads.isWhole hread hhost hhttp (by rwa [← text_located])
  · rintro ⟨hs, hwhole, -, a, name, ha, hname, hne⟩
    rw [text_located] at ha ⊢
    have hhttp : a.isHttp = true := by
      have hlower := (hread.keepsTo ha).scheme
      rw [Address.split_composed hread hs hwhole] at hlower
      rw [Address.isHttp_iff, ← String.toList_inj, ← String.toList_inj, hlower]
      exact hs
    refine ⟨a, Address.validate_eq_ok_iff.2 ⟨ha, hhttp, name, hname, hne⟩, ?_⟩
    exact Address.leadsTo_of_isWhole hread hs.notMem hwhole hn hhttp ha

/-- What can be asked for with the reader `Url.reader`. -/
theorem fits_reader_iff : Fits Url.reader Url.Part.host.isSafe scheme host n ↔
    Url.IsHttpScheme scheme.toList ∧ Url.IsReachable host.toList ∧ Number.isOverlong n = false ∧
      (located scheme host n).text.length ≤ Url.lengthLimit := by
  constructor
  · rintro ⟨hs, hwhole, hn, hnamed⟩
    rw [text_located] at hnamed ⊢
    obtain ⟨hreachable, hlength⟩ := (Url.exists_reader_composed_iff hs hwhole hn).1 hnamed
    exact ⟨hs, hreachable, hn, hlength⟩
  · rintro ⟨hs, hreachable, hn, hlength⟩
    refine ⟨hs, hreachable.isWhole, hn, ?_⟩
    rw [text_located] at hlength ⊢
    exact (Url.exists_reader_composed_iff hs hreachable.isWhole hn).2 ⟨hreachable, hlength⟩

end Located

end Endpoint

/-! ## Connecting -/

/-- Over HTTP, a store is refused if its address is. -/
theorem Store.connect_eq_error_iff {endpoint : Endpoint} {read : Reader} {behaviour : Behaviour}
    {owned : Bool} {e : Error} : connect endpoint (.http read behaviour owned) = .error e ↔
      endpoint.address = .error e ∨ ∃ address, endpoint.address = .ok address ∧
        Address.validate read (.text address) = .error e := by
  simp only [connect, Link.connect]
  cases endpoint.address with
  | error f => simp [bind, Except.bind]
  | ok address =>
      cases hvalidate : Address.validate read (.text address) with
      | error f => simp [bind, Except.bind, hvalidate]
      | ok a => simp [bind, Except.bind, pure, Except.pure, hvalidate]

/-- A store that is connected to is the newest one. -/
theorem Command.run_connect (w : Workspace) (endpoint : Endpoint) (route : Route) :
    (Command.connect endpoint route).run w =
      match Store.connect endpoint route with
      | .ok s => (.ok (.store w.stores.size), { w with stores := w.stores.push s })
      | .error e => (.error e, w) := by
  rw [run, perform, Action.connect]
  cases Store.connect endpoint route <;> rfl

namespace Endpoint

section Connecting

variable {read : Reader} {plain : Char → Bool} {behaviour : Behaviour} {owned : Bool}
  {scheme host : String} {n : Int} {w : Workspace} {v : Value} {e : Error} {a : Address}

theorem connect_located_eq_ok_iff {s : Store} :
    Store.connect (located scheme host n) (.http read behaviour owned) = .ok s ↔
      Number.isOverlong n = false ∧
        ∃ a, Address.validate read (.text (located scheme host n).text) = .ok a ∧
          s = ⟨(located scheme host n).text, .link ⟨a, .new behaviour, owned⟩, []⟩ := by
  rw [Store.connect_eq_ok_iff, address_located]
  constructor
  · rintro ⟨address, l, haddress, hlink, rfl⟩
    obtain ⟨a, ha, rfl⟩ := Link.connect_eq_ok_iff.1 hlink
    split at haddress
    · cases haddress
    · rename_i hn
      cases haddress
      exact ⟨Bool.eq_false_iff.2 hn, a, ha, rfl⟩
  · rintro ⟨hn, a, ha, rfl⟩
    rw [if_neg (Bool.eq_false_iff.1 hn)]
    exact ⟨_, _, rfl, Link.connect_eq_ok_iff.2 ⟨a, ha, rfl⟩, rfl⟩

/-- A store is connected to over a link to its address, if that is valid. -/
theorem run_connect_of_validate (w : Workspace) (behaviour : Behaviour) (owned : Bool)
    (hn : Number.isOverlong n = false)
    (ha : Address.validate read (.text (located scheme host n).text) = .ok a) :
    ((Command.connect (located scheme host n) (.http read behaviour owned)).run w).1 =
        .ok (.store w.stores.size) ∧
      ((Command.connect (located scheme host n) (.http read behaviour owned)).run w).2.line?
        (.store w.stores.size) = some ⟨a, .new behaviour, owned⟩ := by
  rw [Command.run_connect, connect_located_eq_ok_iff.2 ⟨hn, a, ha, rfl⟩]
  refine ⟨rfl, ?_⟩
  have hnew (s : Store) : (w.stores.push s)[w.stores.size]? = some s := Array.getElem?_push_size
  exact Workspace.line?_store (w := { w with stores := _ }) (hnew _)

theorem exists_of_run_connect
    (h : ((Command.connect (located scheme host n) (.http read behaviour owned)).run w).1 = .ok v) :
    Number.isOverlong n = false ∧
      ∃ a, Address.validate read (.text (located scheme host n).text) = .ok a := by
  rw [Command.run_connect] at h
  cases hconnect : Store.connect (located scheme host n) (.http read behaviour owned) with
  | error e =>
      rw [hconnect] at h
      cases h
  | ok s =>
      obtain ⟨hn, a, ha, -⟩ := connect_located_eq_ok_iff.1 hconnect
      exact ⟨hn, a, ha⟩

theorem run_connect_eq_error
    (h : ((Command.connect (located scheme host n) (.http read behaviour owned)).run w).1 =
      .error e) :
    ((Command.connect (located scheme host n) (.http read behaviour owned)).run w).2 = w ∧
      ((∃ reason, e = .invalidUrl (.text (located scheme host n).text) reason) ∨
        (∃ f, read (.text (located scheme host n).text) = .error f ∧
          f.kind.deniesAddress = false ∧ e = .fault f) ∨
        (∃ a f, read (.text (located scheme host n).text) = .ok a ∧ a.isHttp = true ∧
          a.name = .error f ∧ e = .fault f) ∨
        (Number.isOverlong n = true ∧ e = .fault .overlong)) := by
  rw [Command.run_connect] at h ⊢
  cases hconnect : Store.connect (located scheme host n) (.http read behaviour owned) with
  | ok s =>
      rw [hconnect] at h
      cases h
  | error f =>
      rw [hconnect] at h
      obtain rfl : f = e := Except.error.inj h
      refine ⟨rfl, ?_⟩
      rw [Store.connect_eq_error_iff, address_located] at hconnect
      split at hconnect
      · rename_i hn
        rcases hconnect with h | ⟨_, h, -⟩
        · cases h
          exact .inr (.inr (.inr ⟨hn, rfl⟩))
        · cases h
      · rcases hconnect with h | ⟨_, h, herror⟩
        · cases h
        · cases h
          exact (Address.validate_eq_error herror).imp id (.imp id .inl)

end Connecting

/-- Of a store that is asked for over HTTP, with a host of ASCII: if it is connected to, its address
leads to where it was asked for exactly if there is no colon in the scheme and the host stays in one
piece, and all queries are posted to the address; it is connected to at such an address exactly if
it can be asked for; and if it is refused, its address is not valid, or the reader failed at
something else or at the name of the host, or the port cannot be written out. -/
theorem reaches_of_connect {read : Reader} {plain : Char → Bool} (hread : read.Lawful plain)
    {host : String} (hhost : IsAscii host) (scheme : String) (n : Int) (behaviour : Behaviour)
    (owned : Bool) (w : Workspace) :
    let made := (Command.connect (located scheme host n) (.http read behaviour owned)).run w
    let line := Line.store w.stores.size
    (∀ v, made.1 = .ok v → ∃ l, made.2.line? line = some l ∧
      (l.url.LeadsTo scheme host n ↔ ':' ∉ scheme.toList ∧ Url.IsWhole plain host.toList) ∧
      (l.url.LeadsTo scheme host n → l.url.text = l.url.scheme ++ "://" ++ l.url.host ++
        l.url.port.elim "" (fun m ↦ ":" ++ toString m) ++ Address.queryPath) ∧
      ∀ cs, ∃ l', (Command.runAll cs made.2).2.line? line = some l' ∧
        ∀ r ∈ l'.client.sent, r.method = "POST" ∧ r.url = l.url.text) ∧
    ((∃ v l, made.1 = .ok v ∧ made.2.line? line = some l ∧ l.url.LeadsTo scheme host n) ↔
      Fits read plain scheme host n) ∧
    ∀ e, made.1 = .error e → made.2 = w ∧
      ((∃ reason, e = .invalidUrl (.text (located scheme host n).text) reason) ∨
        (∃ f, read (.text (located scheme host n).text) = .error f ∧
          f.kind.deniesAddress = false ∧ e = .fault f) ∨
        (∃ a f, read (.text (located scheme host n).text) = .ok a ∧ a.isHttp = true ∧
          a.name = .error f ∧ e = .fault f) ∨
        (Number.isOverlong n = true ∧ e = .fault .overlong)) := by
  intro made line
  refine ⟨fun v hv ↦ ?_, ⟨?_, fun hfits ↦ ?_⟩, fun e ↦ run_connect_eq_error⟩
  · obtain ⟨hn, a, hvalid⟩ := exists_of_run_connect hv
    have hline := (run_connect_of_validate w behaviour owned hn hvalid).2
    obtain ⟨ha, hhttp, -⟩ := Address.validate_eq_ok_iff.1 hvalid
    rw [text_located] at ha
    refine ⟨_, hline, ⟨fun h ↦ ?_, fun h ↦ ?_⟩, fun h ↦ ?_, fun cs ↦ ?_⟩
    · exact ⟨(h.isHttpScheme hhttp).notMem, h.isWhole hread hhost hhttp ha⟩
    · exact Address.leadsTo_of_isWhole hread h.1 h.2 hn hhttp ha
    · exact h.text_eq hread hvalid
    · -- The link stays with its address, so all that it sends later goes there.
      obtain ⟨l', hl', hcourse⟩ := Line.course_runAll cs hline
      obtain ⟨queries, hsent, -⟩ := hcourse.sent
      refine ⟨l', hl', fun r hr ↦ ?_⟩
      rw [hsent] at hr
      obtain ⟨query, -, rfl⟩ := List.mem_map.1 hr
      exact ⟨rfl, rfl⟩
  · rintro ⟨v, l, hv, hl, hleads⟩
    obtain ⟨hn, a, hvalid⟩ := exists_of_run_connect hv
    obtain rfl := Option.some.inj
      (hl.symm.trans (run_connect_of_validate w behaviour owned hn hvalid).2)
    exact (exists_validate_iff hread hhost hn).1 ⟨a, hvalid, hleads⟩
  · obtain ⟨a, hvalid, hleads⟩ := (exists_validate_iff hread hhost hfits.written).2 hfits
    obtain ⟨hok, hline⟩ := run_connect_of_validate w behaviour owned hfits.written hvalid
    exact ⟨_, _, hok, hline, hleads⟩

/-- A client that answers everything without rows. -/
def quiet : Behaviour := .scripted []

/-- A host with a path behind it. -/
def hostWithPath : String := "db.example/cayley"

/-- The path is taken for that of the address, and the port with it. -/
theorem ofChars_hostWithPath :
    Url.ofChars (located "http" hostWithPath 64210).text.toList = .ok
      ⟨"http".toList, [], "db.example".toList, none,
        "/cayley:64210/api/v1/query/gremlin".toList, none, none⟩ := by
  rw [text_located, Address.toList_composed]
  decide +kernel

/-- Not every address that is accepted leads to where the store was asked for. -/
theorem not_forall_leadsTo : ¬∀ (read : Reader) (plain : Char → Bool), read.Lawful plain →
    ∀ (scheme host : String) (n : Int) (behaviour : Behaviour) (owned : Bool) (w : Workspace),
      IsAscii host →
        let made := (Command.connect (located scheme host n) (.http read behaviour owned)).run w
        (∀ v, made.1 = .ok v → ∃ l, made.2.line? (.store w.stores.size) = some l ∧
          l.url.LeadsTo scheme host n) ∧
        ∀ e, made.1 = .error e → ∃ url reason, e = .invalidUrl url reason := by
  intro hall
  have hvalidate := Address.validate_eq_ok_iff.2
    ⟨Url.reader_eq_ok_iff.2 ⟨_, ofChars_hostWithPath, rfl⟩, by decide, _, rfl, by decide⟩
  obtain ⟨hok, hline⟩ := run_connect_of_validate .empty quiet false (by decide) hvalidate
  obtain ⟨l, hl, hleads⟩ := (hall Url.reader Url.Part.host.isSafe Url.lawful_reader "http"
    hostWithPath 64210 quiet false .empty (by decide)).1 _ hok
  obtain rfl := Option.some.inj (hline.symm.trans hl)
  exact absurd hleads.path (by decide)

/-- The host without the path is reached. -/
theorem reaches_of_dbExample :
    Url.reader.Lawful Url.Part.host.isSafe ∧ IsAscii "db.example" ∧
      let made := (Command.connect (located "http" "db.example" 64210)
        (.http Url.reader quiet true)).run .empty
      ∃ v l, made.1 = .ok v ∧ made.2.line? (.store 0) = some l ∧
        l.url.LeadsTo "http" "db.example" 64210 := by
  have hascii : IsAscii "db.example" := by decide
  have hfits : Fits Url.reader Url.Part.host.isSafe "http" "db.example" 64210 := by
    refine fits_reader_iff.2 ⟨.inl rfl, ?_, by decide, ?_⟩
    · have hsafe : "db.example".toList.all Url.Part.host.isSafe = true := by decide
      exact .name (by decide) (List.all_eq_true.1 hsafe) (by decide)
        fun hmark ↦ absurd hmark (by decide)
    · rw [← String.length_toList, text_located, Address.toList_composed]
      decide
  exact ⟨Url.lawful_reader, hascii, (reaches_of_connect Url.lawful_reader hascii "http" 64210 quiet
    true .empty).2.1.2 hfits⟩

end Endpoint

end GraphQuery
