import GraphQuery.Address
import GraphQuery.Proofs.Ascii
import GraphQuery.Proofs.Url.Split

/-!
# Where an address leads

An address leads to a host at a port if those are its parts (`Address.LeadsTo`).  What it is read
from is split by the generic syntax of addresses, and a lawful reader keeps to that
(`Reader.Lawful`): it may write a part in another way, but takes none from elsewhere.

For any lawful reader, what was put together of a scheme, a host and a port leads there exactly if
the scheme has no colon in it and the host stays in one piece (`Address.leadsTo_of_isWhole`,
`Address.LeadsTo.isWhole`).
-/

namespace GraphQuery

open Text (IsAscii)

/-! ## Lawful readers -/

namespace Address

/-- The port that a scheme of HTTP stands for. -/
def httpPort? (scheme : String) : Option Int :=
  match scheme with
  | "http" => some 80
  | "https" => some 443
  | _ => none

/-- An address keeps to the parts of the text that it was read from.  Which characters stand for
themselves in a host is up to the reader. -/
structure KeepsTo (plain : Char → Bool) (a : Address) (s : Url.Split) : Prop where
  /-- A scheme is in lower case. -/
  scheme : a.scheme.toList = s.scheme.map Char.toLower
  userinfo : s.userinfo = [] → a.userinfo = ""
  /-- A host of ASCII is encoded, unless it is in brackets. -/
  host : (∀ c ∈ s.host, c.toNat < 0x80) → (∀ c ∈ a.host.toList, plain c = true) ∨
    a.host.toList = s.host ∧ ∃ inner, s.host = '[' :: (inner ++ [']'])
  /-- What stands for itself is only put in lower case. -/
  host_plain : (∀ c ∈ s.host, plain c = true) → a.host.toList = s.host.map Char.toLower
  /-- What is in brackets stays as it is. -/
  host_bracketed : ∀ {inner}, s.host = '[' :: (inner ++ [']']) → a.host.toList = s.host
  name : a.host = "" → a.name = .ok ""
  /-- The port that the scheme stands for may be left out. -/
  port : ∀ {n : Int}, a.isHttp = true → Number.isOverlong n = false →
    s.port = (toString n).toList → a.port = some n ∨ a.port = none ∧ httpPort? a.scheme = some n
  /-- A path of letters, digits and slashes needs no encoding, and has no dots to leave out. -/
  path : (∀ c ∈ s.path, c.isAlphanum = true ∨ c = '/') → a.path.toList = s.path
  query : s.query = none → a.query = none
  fragment : s.fragment = none → a.fragment = none
  /-- An address without user information, query and fragment is written as its scheme, its host,
  its port unless it is left out, and its path. -/
  text : a.scheme ≠ "" → a.host ≠ "" → a.userinfo = "" → a.query = none → a.fragment = none →
    a.text = a.scheme ++ "://" ++ a.host ++ a.port.elim "" (fun n ↦ ":" ++ toString n) ++ a.path

end Address

/-- A reader of addresses keeps to the generic syntax: nothing that splits an address stands for
itself in a host, the case of letters apart, and all that is read keeps to the parts of the text. -/
structure Reader.Lawful (read : Reader) (plain : Char → Bool) : Prop where
  notMem_reserved : ∀ c, plain c = true → c ∉ Url.reserved
  plain_toLower : ∀ c, plain c.toLower = plain c
  keepsTo : ∀ {s : String} {a : Address}, read (.text s) = .ok a →
    a.KeepsTo plain (Url.split s.toList)

/-! ## Accepted addresses -/

namespace Address

section Accepted

variable {read : Reader} {s : String} {a : Address} {e : Error}

theorem isHttp_iff : a.isHttp = true ↔ a.scheme = "http" ∨ a.scheme = "https" := by
  rw [isHttp, Bool.or_eq_true, decide_eq_true_eq, decide_eq_true_eq]

theorem validate_eq_ok_iff : validate read (.text s) = .ok a ↔
    read (.text s) = .ok a ∧ a.isHttp = true ∧ ∃ name, a.name = .ok name ∧ name ≠ "" := by
  unfold validate
  cases hread : read (.text s) with
  | error f => simp
  | ok b =>
      cases hhttp : b.isHttp with
      | false =>
          simp only [hhttp, Bool.not_false, if_true]
          refine ⟨nofun, ?_⟩
          rintro ⟨⟨⟩, h, -⟩
          exact absurd (hhttp.symm.trans h) nofun
      | true =>
          cases hname : b.name with
          | error f =>
              simp only [hhttp, hname, Bool.not_true, Bool.false_eq_true, if_false]
              refine ⟨nofun, ?_⟩
              rintro ⟨⟨⟩, -, name, h, -⟩
              exact absurd (hname.symm.trans h) nofun
          | ok name =>
              simp only [hhttp, hname, Bool.not_true, Bool.false_eq_true, if_false]
              by_cases hempty : name = ""
              · rw [if_pos hempty]
                refine ⟨nofun, ?_⟩
                rintro ⟨⟨⟩, -, name', h, hne⟩
                obtain rfl := Except.ok.inj (hname.symm.trans h)
                exact absurd hempty hne
              · rw [if_neg hempty]
                constructor
                · rintro ⟨⟩
                  exact ⟨rfl, hhttp, name, hname, hempty⟩
                · rintro ⟨⟨⟩, -⟩
                  rfl

/-- What is refused is no valid address, unless the reader failed at something else, or at the name
of the host. -/
theorem validate_eq_error (h : validate read (.text s) = .error e) :
    (∃ reason, e = .invalidUrl (.text s) reason) ∨
      (∃ f, read (.text s) = .error f ∧ f.kind.deniesAddress = false ∧ e = .fault f) ∨
      ∃ a f, read (.text s) = .ok a ∧ a.isHttp = true ∧ a.name = .error f ∧ e = .fault f := by
  unfold validate at h
  cases hread : read (.text s) with
  | error f =>
      rw [hread] at h
      cases hdenies : f.kind.deniesAddress with
      | true =>
          simp only [hdenies, if_true, Except.error.injEq] at h
          exact .inl ⟨_, h.symm⟩
      | false =>
          simp only [hdenies, Bool.false_eq_true, if_false, Except.error.injEq] at h
          exact .inr (.inl ⟨f, rfl, hdenies, h.symm⟩)
  | ok a =>
      rw [hread] at h
      dsimp only at h
      split at h
      · cases h
        exact .inl ⟨_, rfl⟩
      · rename_i hhttp
        rw [Bool.not_eq_true', Bool.not_eq_false] at hhttp
        cases hname : a.name with
        | error f =>
            rw [hname] at h
            cases h
            exact .inr (.inr ⟨a, f, rfl, hhttp, hname, rfl⟩)
        | ok name =>
            rw [hname] at h
            dsimp only at h
            split at h
            · cases h
              exact .inl ⟨_, rfl⟩
            · cases h

end Accepted

end Address

/-! ## Schemes of HTTP -/

namespace Url

section Schemes

variable {scheme host path cs ds : List Char} {c d : Char} {n : Int}

/-- A scheme of HTTP, whatever the case of its letters. -/
def IsHttpScheme (scheme : List Char) : Prop :=
  scheme.map Char.toLower = "http".toList ∨ scheme.map Char.toLower = "https".toList

theorem IsHttpScheme.isAlpha (h : IsHttpScheme scheme) (hc : c ∈ scheme) : c.isAlpha = true := by
  have hlower : c.toLower ∈ scheme.map Char.toLower := List.mem_map_of_mem hc
  have hletters : ∀ d ∈ "http".toList ++ "https".toList, d.isAlpha = true := by simp
  rw [← Char.isAlpha_toLower_eq_isAlpha]
  refine hletters _ (List.mem_append.2 ?_)
  rcases h with h | h <;> rw [h] at hlower
  · exact .inl hlower
  · exact .inr hlower

theorem IsHttpScheme.ne_nil (h : IsHttpScheme scheme) : scheme ≠ [] := by
  rintro rfl
  rcases h with h | h <;> cases h

theorem IsHttpScheme.notMem (h : IsHttpScheme cs) : ':' ∉ cs := fun hmem ↦
  absurd (h.isAlpha hmem) (by decide)

theorem IsHttpScheme.splitScheme_composed (h : IsHttpScheme scheme) (host port path : List Char) :
    splitScheme (composed scheme host port path) =
      (scheme, '/' :: '/' :: (host ++ ':' :: (port ++ path))) :=
  splitScheme_of_isAlpha h.ne_nil fun _ ↦ h.isAlpha

theorem split_scheme (cs : List Char) : (split cs).scheme = (splitScheme cs).1 := rfl

/-! ### Letters in lower case -/

/-- What is no letter is no other character in lower case. -/
theorem eq_of_toLower_eq (hd : d.isAlpha = false) (h : c.toLower = d) : c = d := by
  rw [← h, Char.isAlpha_toLower_eq_isAlpha, Char.isAlpha, Bool.or_eq_false_iff] at hd
  rw [← h, Char.toLower_eq_of_not_isUpper (by simp [hd.1])]

theorem map_toLower_toLower (cs : List Char) :
    (cs.map Char.toLower).map Char.toLower = cs.map Char.toLower := by
  simp

/-- What is no letter and is in one of two texts that are the same but for the case of letters, is
in the other, too. -/
theorem mem_of_map_toLower_eq (h : cs.map Char.toLower = ds.map Char.toLower) (hc : c ∈ cs)
    (halpha : c.isAlpha = false) : c ∈ ds := by
  have hmem : c.toLower ∈ ds.map Char.toLower := h ▸ List.mem_map_of_mem hc
  obtain ⟨d, hd, hdc⟩ := List.mem_map.1 hmem
  have hlower : c.toLower = c := by
    refine Char.toLower_eq_of_not_isUpper fun hupper ↦ ?_
    rw [Char.isAlpha, hupper, Bool.true_or] at halpha
    cases halpha
  rwa [← eq_of_toLower_eq halpha (hdc.trans hlower)]

/-- A text that is one in brackets but for the case of letters has these brackets. -/
theorem exists_of_map_toLower_eq
    (h : ('[' :: (cs ++ [']'])).map Char.toLower = ds.map Char.toLower) : ∃ inner,
    ds = '[' :: (inner ++ [']']) ∧ inner.map Char.toLower = cs.map Char.toLower := by
  rw [List.map_cons, List.map_append] at h
  obtain ⟨c, es, rfl, hc, hes⟩ := List.map_eq_cons_iff.1 h.symm
  obtain ⟨inner, last, rfl, hinner, hlast⟩ := List.map_eq_append_iff.1 hes
  obtain ⟨d, rfl, hd⟩ := List.map_eq_singleton_iff.1 hlast
  obtain rfl := eq_of_toLower_eq (by decide) hc
  obtain rfl := eq_of_toLower_eq (by decide) hd
  exact ⟨inner, rfl, hinner⟩

theorem isAlpha_of_mem_delimiters (h : c ∈ delimiters) : c.isAlpha = false := by
  simp only [delimiters, List.mem_cons, List.not_mem_nil, or_false] at h
  rcases h with rfl | rfl | rfl | rfl <;> rfl

end Schemes

end Url

/-! ## Leading somewhere -/

namespace Address

/-- The path of the interface for queries. -/
def queryPath : String := "/api/v1/query/gremlin"

/-- The port that is connected to. -/
def effectivePort? (a : Address) : Option Int := a.port.or (httpPort? a.scheme)

/-- An address is that of the interface for queries at a host and a port.  The case of letters does
not matter in the scheme and in the host. -/
structure LeadsTo (a : Address) (scheme host : String) (port : Int) : Prop where
  scheme : a.scheme.toList.map Char.toLower = scheme.toList.map Char.toLower
  host : a.host.toList.map Char.toLower = host.toList.map Char.toLower
  port : a.effectivePort? = some port
  path : a.path = queryPath
  userinfo : a.userinfo = ""
  query : a.query = none
  fragment : a.fragment = none

theorem head?_queryPath : queryPath.toList.head? = some '/' := by decide

theorem isAlphanum_queryPath : ∀ c ∈ queryPath.toList, c.isAlphanum = true ∨ c = '/' := by
  have hall : queryPath.toList.all (fun c ↦ c.isAlphanum || c = '/') = true := by decide
  simpa using hall

theorem notMem_queryPath : ∀ c ∈ queryPath.toList, c ≠ '?' ∧ c ≠ '#' := by
  have hall : queryPath.toList.all (fun c ↦ c ≠ '?' && c ≠ '#') = true := by decide
  simpa using hall

section Leading

variable {read : Reader} {plain : Char → Bool} {scheme host s : String} {n : Int} {a : Address}

/-- The text of the interface for queries at a host and a port. -/
def composed (scheme host : String) (port : Int) : String :=
  String.ofList (Url.composed scheme.toList host.toList (toString port).toList queryPath.toList)

@[simp] theorem toList_composed (scheme host : String) (port : Int) :
    (composed scheme host port).toList =
      Url.composed scheme.toList host.toList (toString port).toList queryPath.toList :=
  String.toList_ofList

/-- An accepted address has the scheme that was put in front, if there is no colon in that. -/
theorem isHttpScheme_of_notMem (hread : read.Lawful plain) (hscheme : ':' ∉ scheme.toList)
    (hhttp : a.isHttp = true) (ha : read (.text (composed scheme host n)) = .ok a) :
    Url.IsHttpScheme scheme.toList := by
  have hlower := (hread.keepsTo ha).scheme
  rw [toList_composed, Url.split_scheme] at hlower
  have hhttp' : Url.IsHttpScheme
      (Url.splitScheme (Url.composed scheme.toList host.toList (toString n).toList
        queryPath.toList)).1 := by
    rw [Url.IsHttpScheme, ← hlower]
    exact (isHttp_iff.1 hhttp).imp (congrArg _) (congrArg _)
  rcases Url.splitScheme_cases hscheme _ with heq | heq <;> rw [Url.composed, heq] at hhttp'
  · exact hhttp'
  · exact absurd rfl hhttp'.ne_nil

/-- The text of an address of HTTP with a host that stays in one piece is split where it was put
together. -/
theorem split_composed (hread : read.Lawful plain) (hscheme : Url.IsHttpScheme scheme.toList)
    (hhost : Url.IsWhole plain host.toList) : Url.split (composed scheme host n).toList =
      ⟨scheme.toList, host.toList ++ ':' :: (toString n).toList, queryPath.toList, none, none⟩ := by
  rw [toList_composed]
  exact Url.split_composed hread.notMem_reserved (hscheme.splitScheme_composed ..) hhost
    head?_queryPath notMem_queryPath

/-- If there is no colon in the scheme and the host stays in one piece, an address of HTTP leads
there. -/
theorem leadsTo_of_isWhole (hread : read.Lawful plain) (hscheme : ':' ∉ scheme.toList)
    (hhost : Url.IsWhole plain host.toList) (hn : Number.isOverlong n = false)
    (hhttp : a.isHttp = true) (ha : read (.text (composed scheme host n)) = .ok a) :
    a.LeadsTo scheme host n := by
  have hs := isHttpScheme_of_notMem hread hscheme hhttp ha
  have hkeeps := hread.keepsTo ha
  rw [split_composed hread hs hhost] at hkeeps
  obtain ⟨huserinfo, hhost', hport⟩ := Url.parts_composed (n := n)
    (s := ⟨scheme.toList, _, queryPath.toList, none, none⟩) hread.notMem_reserved rfl hhost
  refine ⟨?_, ?_, ?_, ?_, hkeeps.userinfo huserinfo, hkeeps.query rfl, hkeeps.fragment rfl⟩
  · rw [hkeeps.scheme]
    exact Url.map_toLower_toLower _
  · cases hhost with
    | name isPlain =>
        rw [hkeeps.host_plain (by rwa [hhost']), hhost']
        exact Url.map_toLower_toLower _
    | bracketed inner eq inside => rw [hkeeps.host_bracketed (hhost'.trans eq), hhost']
  · rcases hkeeps.port hhttp hn hport with h | ⟨h, hdefault⟩
    · rw [effectivePort?, h, Option.some_or]
    · rw [effectivePort?, h, Option.none_or, hdefault]
  · exact String.toList_inj.1 (hkeeps.path isAlphanum_queryPath)

theorem LeadsTo.isHttpScheme (h : a.LeadsTo scheme host n) (hhttp : a.isHttp = true) :
    Url.IsHttpScheme scheme.toList := by
  rw [Url.IsHttpScheme, ← h.scheme]
  rcases isHttp_iff.1 hhttp with heq | heq <;> rw [heq]
  · exact .inl rfl
  · exact .inr rfl

/-- What is behind the slashes is ASCII if the host is. -/
theorem lt_of_mem_composed (hhost : IsAscii host) {c : Char}
    (hc : c ∈ host.toList ++ ':' :: ((toString n).toList ++ queryPath.toList)) :
    c.toNat < 0x80 := by
  have hpath : queryPath.toList.all (fun c ↦ c.toNat < 0x80) = true := by decide
  rw [List.mem_append, List.mem_cons, List.mem_append] at hc
  rcases hc with hc | rfl | hc | hc
  · exact hhost c hc
  · decide
  · rcases Number.eq_of_mem_toString hc with rfl | hdigit
    · decide
    · exact Text.lt_of_le (Identifier.isDigit_iff.1 hdigit).2 (by decide)
  · exact of_decide_eq_true (List.all_eq_true.1 hpath c hc)

/-- An address of HTTP leads to a host of ASCII only if that stays in one piece. -/
theorem LeadsTo.isWhole (h : a.LeadsTo scheme host n) (hread : read.Lawful plain)
    (hhost : IsAscii host) (hhttp : a.isHttp = true)
    (ha : read (.text (composed scheme host n)) = .ok a) : Url.IsWhole plain host.toList := by
  have hsplit := (h.isHttpScheme hhttp).splitScheme_composed host.toList (toString n).toList
    queryPath.toList
  -- The host that was read may be any part of what is behind the slashes, but it is written like
  -- the whole host.
  have hkeeps := hread.keepsTo ha
  rw [toList_composed] at hkeeps
  have hlower := h.host
  rcases hkeeps.host fun c hc ↦ lt_of_mem_composed hhost (Url.mem_host_of_split hsplit hc).1 with
    hplain | ⟨heq, inner, hinner⟩
  · refine .name fun c hc ↦ ?_
    have hmem : c.toLower ∈ a.host.toList.map Char.toLower := by
      rw [hlower]
      exact List.mem_map_of_mem hc
    obtain ⟨d, hd, hdc⟩ := List.mem_map.1 hmem
    rw [← hread.plain_toLower, ← hdc, hread.plain_toLower]
    exact hplain d hd
  · rw [heq, hinner] at hlower
    obtain ⟨inner', hhost', hinnerLower⟩ := Url.exists_of_map_toLower_eq hlower
    refine .bracketed inner' hhost' fun c hc hends ↦ ?_
    have hmem := Url.mem_of_map_toLower_eq hinnerLower hc (Url.isAlpha_of_mem_delimiters hends)
    refine (Url.mem_host_of_split hsplit ?_).2 hends
    rw [hinner]
    exact List.mem_cons_of_mem _ (List.mem_append_left _ hmem)

/-- An address that leads somewhere is written as its scheme, its host, its port if it has to be
named, and the path. -/
theorem LeadsTo.text_eq (h : a.LeadsTo scheme host n) (hread : read.Lawful plain)
    (hvalid : validate read (.text s) = .ok a) : a.text =
      a.scheme ++ "://" ++ a.host ++ a.port.elim "" (fun m ↦ ":" ++ toString m) ++ queryPath := by
  obtain ⟨ha, hhttp, name, hname, hne⟩ := validate_eq_ok_iff.1 hvalid
  have hkeeps := hread.keepsTo ha
  rw [← h.path]
  refine hkeeps.text ?_ ?_ h.userinfo h.query h.fragment
  · rintro heq
    rw [isHttp, heq] at hhttp
    exact absurd hhttp (by decide)
  · rintro heq
    exact hne (Except.ok.inj (hname.symm.trans (hkeeps.name heq)))

end Leading

end Address

end GraphQuery
