import GraphQuery.Proofs.Url.Host
import GraphQuery.Proofs.Url.Leading

/-!
# Reading addresses

The reader of addresses `Url.reader` is lawful (`Url.lawful_reader`).  The characters that stand for
themselves in a host are its safe ones.

Which hosts it can be asked for is a grammar (`Url.IsReachable`): a name of safe characters, with
labels that can be decoded if the first one is encoded, or an address of numbers of either kind
(`Url.exists_reader_composed_iff`).
-/

namespace GraphQuery.Url

/-! ## What is read -/

section Reading

variable {cs : List Char} {u : Url}

/-- The address that a text with a scheme is written for, given the normal forms of its host and its
port. -/
def normalForm (s : Split) (host : List Char) (port : Option Int) : Url where
  scheme := s.scheme.map Char.toLower
  userinfo := Part.userinfo.encode s.userinfo
  host := host
  port := port
  path := Part.path.encode (normalPath s.path)
  query := s.query.map Part.query.encode
  fragment := s.fragment.map Part.fragment.encode

theorem ofChars_of_scheme (hscheme : (split cs).scheme ≠ []) : ofChars cs =
    if lengthLimit < cs.length then .error .tooLong
    else match cs.find? isControl with
      | some c => .error (.control c (cs.takeWhile (!isControl ·)).length)
      | none =>
        match normalHost (split cs).host with
        | .error f => .error f
        | .ok host =>
          match normalPort (split cs).scheme (split cs).port with
          | .error f => .error f
          | .ok port => .ok (normalForm (split cs) host port) := by
  have hlower : ((split cs).scheme.map Char.toLower).isEmpty = false := by
    rw [List.isEmpty_eq_false_iff, Ne, List.map_eq_nil_iff]
    exact hscheme
  simp only [ofChars, bind, Except.bind, pure, Except.pure, throw, throwThe, MonadExceptOf.throw,
    hlower, Bool.not_false, Bool.true_or, Bool.not_true, Bool.false_and, Bool.false_eq_true,
    if_false, if_true, Split.host, Split.port]
  cases cs.find? isControl with
  | some c => rfl
  | none =>
      cases normalHost (splitHost (splitUserinfo (split cs).authority).2).1 with
      | error f => rfl
      | ok host =>
          cases normalPort (split cs).scheme (splitHost (splitUserinfo (split cs).authority).2).2
            with
          | error f => rfl
          | ok port => rfl

/-- An address with a scheme is read if it is not too long, has no control characters, and if its
host and its port are what they have to be. -/
theorem ofChars_eq_ok_iff (hscheme : (split cs).scheme ≠ []) : ofChars cs = .ok u ↔
    (cs.length ≤ lengthLimit ∧ ∀ c ∈ cs, isControl c = false) ∧ ∃ host port,
      normalHost (split cs).host = .ok host ∧
        normalPort (split cs).scheme (split cs).port = .ok port ∧
        u = normalForm (split cs) host port := by
  have hcontrol : (∀ c ∈ cs, isControl c = false) ↔ cs.find? isControl = none := by
    simp [List.find?_eq_none]
  rw [ofChars_of_scheme hscheme, hcontrol]
  by_cases hlength : lengthLimit < cs.length
  · rw [if_pos hlength]
    exact ⟨nofun, fun h ↦ absurd hlength (Nat.not_lt.2 h.1.1)⟩
  · rw [if_neg hlength]
    cases cs.find? isControl with
    | some c => exact ⟨nofun, fun h ↦ nomatch h.1.2⟩
    | none =>
        cases normalHost (split cs).host with
        | error f => exact ⟨nofun, fun ⟨_, _, _, hhost, _⟩ ↦ nomatch hhost⟩
        | ok host =>
            cases normalPort (split cs).scheme (split cs).port with
            | error f => exact ⟨nofun, fun ⟨_, _, _, _, hport, _⟩ ↦ nomatch hport⟩
            | ok port =>
                constructor
                · rintro ⟨⟩
                  exact ⟨⟨Nat.not_lt.1 hlength, rfl⟩, host, port, rfl, rfl, rfl⟩
                · rintro ⟨-, _, _, ⟨⟩, ⟨⟩, rfl⟩
                  rfl

theorem parts_of_ofChars (h : ofChars cs = .ok u) :
    (u.scheme = (split cs).scheme.map Char.toLower ∧
      u.userinfo = Part.userinfo.encode (split cs).userinfo) ∧
    (normalHost (split cs).host = .ok u.host ∧
      normalPort (split cs).scheme (split cs).port = .ok u.port) ∧
    (u.path = Part.path.encode (normalPath (split cs).path) ∨
      u.path = Part.path.encode (split cs).path) ∧
    u.query = (split cs).query.map Part.query.encode ∧
    u.fragment = (split cs).fragment.map Part.fragment.encode := by
  simp only [ofChars, bind, Except.bind, pure, Except.pure, throw, throwThe,
    MonadExceptOf.throw] at h
  repeat' split at h
  all_goals cases h
  all_goals exact ⟨⟨rfl, rfl⟩, ⟨‹_›, ‹_›⟩, by first | exact .inl rfl | exact .inr rfl, rfl, rfl⟩

end Reading

/-! ## The reader is lawful -/

section Lawful

variable {scheme cs : List Char} {n : Int} {u : Url} {a : Address} {s : String}

/-- An integer is a port, which is left out if it is that of the scheme. -/
theorem normalPort_toString (hn : Number.isOverlong n = false) :
    normalPort scheme (toString n).toList =
      .ok (if defaultPort? scheme = some n then none else some n) := by
  have hne : (toString n).toList.isEmpty = false := by
    rw [List.isEmpty_eq_false_iff, Number.toList_toString]
    split
    · exact List.cons_ne_nil _ _
    · exact Nat.toDigits_ne_nil
  rw [normalPort, hne, Number.readInteger?_toString, hn]
  rfl

theorem defaultPort?_toLower (h : defaultPort? scheme = some n) :
    defaultPort? (scheme.map Char.toLower) = some n := by
  unfold defaultPort? at h
  split at h
  case h_6 => cases h
  all_goals
    rename_i heq
    rw [← String.toList_ofList (l := scheme), heq]
    cases h
    rfl

theorem mem_of_mem_pieces {isSeparator : Char → Bool} {p : List Char} {c : Char}
    (hp : p ∈ pieces isSeparator cs) (hc : c ∈ p) : c ∈ cs := by
  induction cs generalizing p with
  | nil =>
      rw [pieces, List.mem_singleton] at hp
      rw [hp] at hc
      cases hc
  | cons d cs ih =>
      rw [pieces] at hp
      split at hp
      · rcases List.mem_cons.1 hp with rfl | hp
        · cases hc
        · exact List.mem_cons_of_mem _ (ih hp hc)
      · rw [pieces_eq] at hp ih
        rcases List.mem_cons.1 hp with rfl | hp
        · rcases List.mem_cons.1 hc with rfl | hc
          · exact List.mem_cons_self
          · exact List.mem_cons_of_mem _ (ih List.mem_cons_self hc)
        · exact List.mem_cons_of_mem _ (ih (List.mem_cons_of_mem _ hp) hc)

/-- Without dots there is nothing to leave out of a path. -/
theorem normalPath_of_notMem (h : '.' ∉ cs) : normalPath cs = cs := by
  have hdots (p : List Char) (hp : '.' ∈ p) : p ∉ pieces (· = '/') cs := fun hmem ↦
    h (mem_of_mem_pieces hmem hp)
  have hone := hdots ['.'] (by simp)
  have htwo := hdots ['.', '.'] (by simp)
  simp [normalPath, hone, htwo]

theorem isSafe_path_of_isAlphanum {c : Char} (h : c.isAlphanum = true ∨ c = '/') :
    Part.path.isSafe c = true := by
  rcases h with h | rfl
  · have hbounds := bounds_of_isAlphanum h
    have hmarks : c ∉ " \"#<>?\x60\x7b\x7d".toList := by
      intro hmem
      have hmarks : " \"#<>?\x60\x7b\x7d".toList.all (!·.isAlphanum) = true := by decide
      simpa [h] using List.all_eq_true.1 hmarks c hmem
    simp only [Part.isSafe, isVisible, Bool.and_eq_true, decide_eq_true_eq, Bool.not_eq_true',
      List.contains_eq_mem, decide_eq_false_iff_not]
    exact ⟨by omega, hmarks⟩
  · decide

theorem writtenHost_of_safe (h : ∀ c ∈ u.host, Part.host.isSafe c = true) :
    u.writtenHost = u.host := by
  have hcolon : ':' ∉ u.host := fun hmem ↦ not_safe_of_mem (by simp) (h _ hmem)
  rw [writtenHost, if_neg (by simpa using hcolon)]

theorem writtenHost_of_isIPv6 (h : isIPv6 u.host = true) :
    u.writtenHost = '[' :: (u.host ++ [']']) := by
  obtain ⟨p, rest, heq, -⟩ := exists_of_isIPv6 h
  have hcolon : ':' ∈ u.host := by
    rw [heq]
    exact List.mem_append_right _ List.mem_cons_self
  rw [writtenHost, if_pos (by simpa using hcolon)]

theorem writtenHost_eq_nil_iff : u.writtenHost = [] ↔ u.host = [] := by
  unfold writtenHost
  split
  · rename_i hcolon
    refine ⟨nofun, fun h ↦ ?_⟩
    rw [h] at hcolon
    cases hcolon
  · exact Iff.rfl

/-- An address without user information, query and fragment in characters. -/
theorem chars_eq (hscheme : u.scheme ≠ []) (hhost : u.writtenHost ≠ [])
    (huserinfo : u.userinfo = []) (hquery : u.query = none) (hfragment : u.fragment = none) :
    u.chars = u.scheme ++ ':' :: '/' :: '/' :: (u.writtenHost ++
      (u.port.elim [] fun m ↦ ':' :: (toString m).toList) ++ u.path) := by
  have hauthority : u.authority =
      u.writtenHost ++ u.port.elim [] fun m ↦ ':' :: (toString m).toList := by
    rw [Url.authority, huserinfo, writtenHost]
    cases u.port <;> rfl
  have hne : u.authority ≠ [] := by
    rw [hauthority]
    exact List.append_ne_nil_of_left_ne_nil hhost _
  rw [chars, if_neg (by simpa using hscheme), if_neg (by simpa using hne), hquery, hfragment,
    hauthority]
  simp

theorem reader_eq_ok_iff :
    reader (.text s) = .ok a ↔ ∃ u, ofChars s.toList = .ok u ∧ a = u.address := by
  simp only [reader]
  cases ofChars s.toList with
  | error f => simp
  | ok u => simp [eq_comm]

/-- A text that is not read is no address. -/
theorem deniesAddress_of_reader {f : GraphQuery.Fault} (h : reader (.text s) = .error f) :
    f.kind.deniesAddress = true := by
  simp only [reader] at h
  cases hread : ofChars s.toList with
  | error f => rw [hread] at h; cases h; rfl
  | ok u => rw [hread] at h; cases h

theorem keepsTo_of_ofChars (h : ofChars cs = .ok u) :
    u.address.KeepsTo Part.host.isSafe (split cs) := by
  obtain ⟨⟨hscheme, huserinfo⟩, ⟨hhost, hport⟩, hpath, hquery, hfragment⟩ := parts_of_ofChars h
  have hwritten : u.address.host.toList = u.writtenHost := String.toList_ofList
  constructor
  case scheme => exact String.toList_ofList.trans hscheme
  case userinfo =>
    intro hnil
    rw [hnil] at huserinfo
    exact congrArg String.ofList huserinfo
  case host =>
    intro hascii
    rw [hwritten]
    rcases normalHost_cases hascii hhost with hsafe | ⟨hbrackets, hipv6⟩
    · rw [writtenHost_of_safe hsafe]
      exact .inl hsafe
    · exact .inr ⟨(writtenHost_of_isIPv6 hipv6).trans hbrackets.symm, _, hbrackets⟩
  case host_plain =>
    intro hsafe
    obtain ⟨-, heq⟩ := (normalHost_eq_ok_iff_of_safe hsafe).1 hhost
    rw [hwritten, writtenHost_of_safe (by simpa [heq, isSafe_toLower] using hsafe), heq]
  case host_bracketed =>
    intro inner heq
    rw [heq] at hhost
    obtain ⟨hipv6, rfl⟩ := normalHost_eq_ok_iff_of_bracketed.1 hhost
    rw [hwritten, writtenHost_of_isIPv6 hipv6, heq]
  case name =>
    intro hempty
    have hnil : u.host = [] := by
      rw [← writtenHost_eq_nil_iff, ← hwritten, hempty]
      rfl
    simp [address, readHost, hnil, Label.encodingMark]
  case port =>
    intro n hhttp hn heq
    rw [heq, normalPort_toString hn, Except.ok.injEq] at hport
    change u.port = _ ∨ u.port = _ ∧ _
    rw [← hport]
    split
    · rename_i hdefault
      have hlower := defaultPort?_toLower hdefault
      rw [← hscheme] at hlower
      refine .inr ⟨rfl, ?_⟩
      change Address.httpPort? (String.ofList u.scheme) = some n
      rcases Address.isHttp_iff.1 hhttp with hs | hs
      all_goals
        change String.ofList u.scheme = _ at hs
        rw [defaultPort?, hs] at hlower
        rw [hs]
        exact hlower
    · exact .inl rfl
  case path =>
    intro hall
    have hdots : '.' ∉ (split cs).path := fun hmem ↦ by
      rcases hall _ hmem with h | h <;> cases h
    have hsafe : ∀ c ∈ (split cs).path, Part.path.isSafe c = true := fun c hc ↦
      isSafe_path_of_isAlphanum (hall c hc)
    rw [normalPath_of_notMem hdots, or_self, encode_of_safe hsafe] at hpath
    exact String.toList_ofList.trans hpath
  case query =>
    intro hnone
    rw [hnone] at hquery
    exact congrArg (Option.map String.ofList) hquery
  case fragment =>
    intro hnone
    rw [hnone] at hfragment
    exact congrArg (Option.map String.ofList) hfragment
  case text =>
    intro hs hh hu hq hf
    have hchars := chars_eq (u := u) (fun hnil ↦ hs (congrArg String.ofList hnil))
      (fun hnil ↦ hh (congrArg String.ofList hnil)) (String.ofList_eq_empty_iff.1 hu)
      (Option.map_eq_none_iff.1 hq) (Option.map_eq_none_iff.1 hf)
    refine String.toList_inj.1 ?_
    simp only [address, text, hchars, String.toList_append, String.toList_ofList]
    cases u.port <;> simp

theorem lawful_reader : reader.Lawful Part.host.isSafe where
  notMem_reserved _ hsafe hmem := not_safe_of_mem hmem hsafe
  plain_toLower := isSafe_toLower
  keepsTo h := by
    obtain ⟨u, hu, rfl⟩ := reader_eq_ok_iff.1 h
    exact keepsTo_of_ofChars hu

end Lawful

/-! ## What can be asked for -/

/-- A host that can be asked for. -/
inductive IsReachable (host : List Char) : Prop
  /-- A name or an address of four numbers.  The labels of the name can be decoded if the first one
  is encoded. -/
  | name (ne_nil : host ≠ []) (safe : ∀ c ∈ host, Part.host.isSafe c = true)
    (ipv4 : looksLikeIPv4 host = true → isIPv4 host = true)
    (labels : (host.map Char.toLower).take 4 = Label.encodingMark →
      ∃ n ns, Label.decodeAll (host.map Char.toLower) = .ok (n :: ns))
  | bracketed (inner : List Char) (eq : host = '[' :: (inner ++ [']'])) (ipv6 : isIPv6 inner = true)
    (inside : ∀ c ∈ inner, c ∉ delimiters) (visible : ∀ c ∈ inner, isControl c = false)

theorem IsReachable.isWhole {host : List Char} (h : IsReachable host) :
    IsWhole Part.host.isSafe host := by
  cases h with
  | name _ safe => exact .name safe
  | bracketed inner eq _ inside => exact .bracketed inner eq inside

section Reachable

variable {host : List Char} {u : Url} {scheme name : String} {n : Int}

theorem exists_readHost_iff : (∃ m ms, u.readHost = .ok (m :: ms)) ↔ u.host ≠ [] ∧
    (u.host.take 4 = Label.encodingMark →
      ∃ m ms, Label.decodeAll u.host = .ok (m :: ms)) := by
  unfold readHost
  split
  · rename_i hmark
    have hne : u.host ≠ [] := by
      intro hnil
      rw [hnil] at hmark
      cases hmark
    exact ⟨fun h ↦ ⟨hne, fun _ ↦ h⟩, fun h ↦ h.2 hmark⟩
  · rename_i hmark
    refine ⟨?_, fun h ↦ ?_⟩
    · rintro ⟨m, ms, heq⟩
      refine ⟨?_, fun h ↦ absurd h hmark⟩
      intro hnil
      rw [hnil] at heq
      cases heq
    · obtain ⟨c, cs, hcons⟩ := List.exists_cons_of_ne_nil h.1
      exact ⟨c.toNat, cs.map Char.toNat, by rw [hcons, List.map_cons]⟩

/-- A host can be asked for if it stays in one piece, has no control characters, and has a normal
form that can be read. -/
theorem isReachable_iff : IsReachable host ↔
    IsWhole Part.host.isSafe host ∧ (∀ c ∈ host, isControl c = false) ∧
      ∃ h, normalHost host = .ok h ∧ h ≠ [] ∧
      (h.take 4 = Label.encodingMark → ∃ m ms, Label.decodeAll h = .ok (m :: ms)) := by
  constructor
  · intro h
    refine ⟨h.isWhole, ?_⟩
    cases h with
    | name ne_nil safe ipv4 labels =>
        refine ⟨fun c hc ↦ isControl_of_safe (safe c hc), _,
          (normalHost_eq_ok_iff_of_safe safe).2 ⟨ipv4, rfl⟩, ?_, labels⟩
        rwa [Ne, List.map_eq_nil_iff]
    | bracketed inner eq ipv6 inside visible =>
        refine ⟨?_, inner, ?_, ?_, ?_⟩
        · rw [eq]
          intro c hc
          rw [List.mem_cons, List.mem_append, List.mem_singleton] at hc
          rcases hc with rfl | hc | rfl
          · decide
          · exact visible c hc
          · decide
        · rw [eq]
          exact normalHost_eq_ok_iff_of_bracketed.2 ⟨ipv6, rfl⟩
        · rintro rfl
          cases ipv6
        · -- A bracketed host has no labels: no IPv6 address starts with the mark.
          intro hmark
          have hhead := congrArg List.head? hmark
          rw [List.head?_take, if_neg (by decide)] at hhead
          exact absurd hhead (head?_of_isIPv6 ipv6)
  · rintro ⟨hwhole, hcontrol, h, hnormal, hne, hlabels⟩
    cases hwhole with
    | name safe =>
        obtain ⟨hipv4, rfl⟩ := (normalHost_eq_ok_iff_of_safe safe).1 hnormal
        exact .name (by rintro rfl; exact hne rfl) safe hipv4 hlabels
    | bracketed inner eq inside =>
        subst eq
        obtain ⟨hipv6, rfl⟩ := normalHost_eq_ok_iff_of_bracketed.1 hnormal
        refine .bracketed h rfl hipv6 inside fun c hc ↦ hcontrol c ?_
        exact List.mem_cons_of_mem _ (List.mem_append_left _ hc)

theorem exists_name_iff : (∃ name, u.address.name = .ok name ∧ name ≠ "") ↔
    ∃ m ms, u.readHost = .ok (m :: ms) := by
  simp only [address]
  cases u.readHost with
  | error f => simp
  | ok host => cases host <;> simp

/-- Only in its host an address of HTTP may have control characters. -/
theorem isControl_composed_iff (hscheme : IsHttpScheme scheme.toList) :
    (∀ c ∈ (Address.composed scheme name n).toList, isControl c = false) ↔
      ∀ c ∈ name.toList, isControl c = false := by
  have hpath : Address.queryPath.toList.all (!isControl ·) = true := by decide
  rw [Address.toList_composed]
  refine ⟨fun h c hc ↦ h c ?_, fun h c hc ↦ ?_⟩
  · exact List.mem_append_right _ (List.mem_cons_of_mem _ (List.mem_cons_of_mem _
      (List.mem_cons_of_mem _ (List.mem_append_left _ hc))))
  · simp only [composed, List.mem_append, List.mem_cons] at hc
    rcases hc with hc | rfl | rfl | rfl | hc | rfl | hc | hc
    · refine isControl_of_safe (safe_of_isAlphanum ?_)
      rw [Char.isAlphanum, hscheme.isAlpha hc, Bool.true_or]
    · decide
    · decide
    · decide
    · exact h c hc
    · decide
    · rcases Number.eq_of_mem_toString hc with rfl | hdigit
      · decide
      · exact isControl_of_safe (safe_of_isAlphanum (by rw [Char.isAlphanum, hdigit, Bool.or_true]))
    · simpa using List.all_eq_true.1 hpath c hc

/-- What was put together for HTTP with a host that stays in one piece is read, and its host has a
name, if the host can be asked for and the whole is not too long. -/
theorem exists_reader_composed_iff (hscheme : IsHttpScheme scheme.toList)
    (hhost : IsWhole Part.host.isSafe name.toList) (hn : Number.isOverlong n = false) :
    (∃ a m, reader (.text (Address.composed scheme name n)) = .ok a ∧ a.name = .ok m ∧ m ≠ "") ↔
      IsReachable name.toList ∧ (Address.composed scheme name n).length ≤ lengthLimit := by
  have hsplit := Address.split_composed (n := n) lawful_reader hscheme hhost
  obtain ⟨-, hhost', hport⟩ := parts_composed (n := n)
    (s := ⟨scheme.toList, _, Address.queryPath.toList, none, none⟩)
    lawful_reader.notMem_reserved rfl hhost
  have hne : (split (Address.composed scheme name n).toList).scheme ≠ [] := by
    rw [hsplit]
    exact hscheme.ne_nil
  have hread (u : Url) := ofChars_eq_ok_iff (u := u) hne
  simp only [hsplit, hhost', hport, normalPort_toString hn, isControl_composed_iff hscheme,
    String.length_toList] at hread
  rw [isReachable_iff]
  constructor
  · rintro ⟨a, m, ha, hname, hne⟩
    obtain ⟨u, hu, rfl⟩ := reader_eq_ok_iff.1 ha
    obtain ⟨⟨hlength, hcontrol⟩, h, port, hnormal, -, rfl⟩ := (hread u).1 hu
    exact ⟨⟨hhost, hcontrol, h, hnormal, exists_readHost_iff.1 (exists_name_iff.1 ⟨m, hname, hne⟩)⟩,
      hlength⟩
  · rintro ⟨⟨-, hcontrol, h, hnormal, hlabels⟩, hlength⟩
    let u := normalForm ⟨scheme.toList, name.toList ++ ':' :: (toString n).toList,
      Address.queryPath.toList, none, none⟩ h
        (if defaultPort? scheme.toList = some n then none else some n)
    have hu := (hread u).2 ⟨⟨hlength, hcontrol⟩, h, _, hnormal, rfl, rfl⟩
    have hreadHost : ∃ m ms, u.readHost = .ok (m :: ms) := exists_readHost_iff.2 hlabels
    obtain ⟨m, hname, hne⟩ := exists_name_iff.2 hreadHost
    exact ⟨_, m, reader_eq_ok_iff.2 ⟨u, hu, rfl⟩, hname, hne⟩

end Reachable

end GraphQuery.Url
