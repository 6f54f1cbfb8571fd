import GraphQuery.Proofs.Json.Writing

/-!
# Which tokens are those of a value

`IsValue` says by a grammar which tokens are those of a JSON value.  The reader of tokens accepts
what the grammar derives, with one exception: an integer with too many digits stops it as soon as it
gets there, whatever comes after.

* What the reader has read of a text is described by its mode (`Mode.Follows`): the open containers
  with what is in them so far, and whatever else the mode says.  One step keeps this
  (`follows_step`), so what was read to the end is a value, and what was read before an integer can
  be completed to one.
* The other way round all values are read whose integers are short (`IsValue.exists_reads`).  That
  an integer is reached that is too long is seen by putting a short one in its place
  (`IsValue.map_shorten`).

`exists_readFrom_iff` and `readFrom_eq_tooLong_iff` put this together.
-/

namespace GraphQuery.Json

/-! ## The grammar -/

/-- Tokens are those of a JSON value. -/
inductive IsValue : List Token → Prop
  | scalar {t : Token} : t.isScalar = true → IsValue [t]
  | array {items : List (List Token)} : (∀ ts ∈ items, IsValue ts) → IsValue (arrayTokens items)
  | object {members : List (CodePoints × List Token)} : (∀ m ∈ members, IsValue m.2) →
      IsValue (objectTokens members)

/-- No integer is too long to be read. -/
abbrev IsShort (ts : List Token) : Prop := ∀ t ∈ ts, t.isOverlong = false

/-- The tokens of the items before another one. -/
abbrev itemsBefore (items : List (List Token)) : List Token := items.flatMap (· ++ [.comma])

/-- The tokens of a member. -/
abbrev memberTokens (m : CodePoints × List Token) : List Token := .text m.1 :: .colon :: m.2

theorem intercalate_comma_concat (items : List (List Token)) (last : List Token) :
    [Token.comma].intercalate (items ++ [last]) = itemsBefore items ++ last := by
  induction items with
  | nil => simp
  | cons item items ih =>
      rw [List.cons_append, List.intercalate_cons_of_ne_nil (by simp), ih, itemsBefore, itemsBefore,
        List.flatMap_cons, List.append_assoc (item ++ _)]

theorem arrayTokens_concat (items : List (List Token)) (last : List Token) :
    arrayTokens (items ++ [last]) = .openArray :: (itemsBefore items ++ last ++ [.closeArray]) := by
  rw [arrayTokens, intercalate_comma_concat]

theorem objectTokens_concat (members : List (CodePoints × List Token)) (key : CodePoints)
    (last : List Token) : objectTokens (members ++ [(key, last)]) =
      .openObject :: (itemsBefore (members.map memberTokens) ++ memberTokens (key, last) ++
        [.closeObject]) := by
  rw [objectTokens, List.map_append, List.map_singleton, intercalate_comma_concat]

theorem subset_intercalate {sep ts : List Token} {items : List (List Token)} (h : ts ∈ items) :
    ts ⊆ sep.intercalate items := by
  induction items with
  | nil => cases h
  | cons item items ih =>
      cases items with
      | nil =>
          obtain rfl := List.mem_singleton.1 h
          rw [List.intercalate_singleton]
          exact List.Subset.refl ts
      | cons next items =>
          rw [List.intercalate_cons_cons]
          rcases List.mem_cons.1 h with rfl | h
          · exact fun t ht ↦ by simp [ht]
          · exact fun t ht ↦ List.mem_append_right _ (ih h ht)

theorem subset_arrayTokens {items : List (List Token)} {ts : List Token} (h : ts ∈ items) :
    ts ⊆ arrayTokens items := by
  intro t ht
  exact List.mem_cons_of_mem _ (List.mem_append_left _ (subset_intercalate h ht))

theorem subset_objectTokens {members : List (CodePoints × List Token)} {m : CodePoints × List Token}
    (h : m ∈ members) : m.2 ⊆ objectTokens members := by
  intro t ht
  have hmember : t ∈ memberTokens m := List.mem_cons_of_mem _ (List.mem_cons_of_mem _ ht)
  exact List.mem_cons_of_mem _ (List.mem_append_left _
    (subset_intercalate (List.mem_map_of_mem h) hmember))

theorem isFound_of_isScalar {t : Token} (h : t.isScalar = true) : t.isFound = true := by
  cases t with
  | brokenText _ _ | unknown => cases h
  | _ => rfl

theorem isFound_intercalate {items : List (List Token)}
    (h : ∀ ts ∈ items, ∀ t ∈ ts, t.isFound = true) :
    ∀ t ∈ [Token.comma].intercalate items, t.isFound = true := by
  induction items with
  | nil => exact List.forall_mem_nil _
  | cons item items ih =>
      obtain ⟨hitem, hitems⟩ := List.forall_mem_cons.1 h
      cases items with
      | nil => rwa [List.intercalate_singleton]
      | cons next items =>
          rw [List.intercalate_cons_cons]
          exact List.forall_mem_append.2 ⟨List.forall_mem_append.2 ⟨hitem, by decide⟩, ih hitems⟩

/-- All tokens of a value are found. -/
theorem IsValue.isFound {ts : List Token} (h : IsValue ts) : ∀ t ∈ ts, t.isFound = true := by
  induction h with
  | scalar ht => exact List.forall_mem_singleton.2 (isFound_of_isScalar ht)
  | array _ ih =>
      exact List.forall_mem_cons.2
        ⟨rfl, List.forall_mem_append.2 ⟨isFound_intercalate ih, by decide⟩⟩
  | object _ ih =>
      refine List.forall_mem_cons.2
        ⟨rfl, List.forall_mem_append.2 ⟨isFound_intercalate (List.forall_mem_map.2 ?_), by decide⟩⟩
      exact fun m hm ↦ List.forall_mem_cons.2 ⟨rfl, List.forall_mem_cons.2 ⟨rfl, ih m hm⟩⟩

theorem separated_intercalate {items : List (List Token)} (h : ∀ ts ∈ items, Separated ts) :
    Separated ([Token.comma].intercalate items) := by
  induction items with
  | nil => exact .nil
  | cons item items ih =>
      obtain ⟨hitem, hitems⟩ := List.forall_mem_cons.1 h
      cases items with
      | nil => rwa [List.intercalate_singleton]
      | cons next items =>
          rw [List.intercalate_cons_cons, List.append_assoc, List.singleton_append]
          refine hitem.append ((ih hitems).cons fun _ _ ↦ .inl rfl) ?_
          rintro _ _ _ ⟨⟩
          exact .inr rfl

/-- What is enclosed in signs is separated. -/
theorem separated_enclosed {ts : List Token} {first last : Token} (h : Separated ts)
    (hfirst : first.isScalar = false) (hlast : last.isScalar = false) :
    Separated (first :: (ts ++ [last])) := by
  refine (h.append (.singleton last) ?_).cons fun _ _ ↦ .inl hfirst
  rintro _ _ _ ⟨⟩
  exact .inr hlast

/-- No two scalars of a value are next to each other. -/
theorem IsValue.separated {ts : List Token} (h : IsValue ts) : Separated ts := by
  induction h with
  | scalar _ => exact .singleton _
  | array _ ih => exact separated_enclosed (separated_intercalate ih) rfl rfl
  | object _ ih =>
      refine separated_enclosed (separated_intercalate (List.forall_mem_map.2 ?_)) rfl rfl
      exact fun m hm ↦ ((ih m hm).cons fun _ _ ↦ .inl rfl).cons fun _ hcolon ↦ .inr (by
        cases hcolon
        rfl)

/-! ## Values are read -/

/-- A relation that holds somewhere for each item holds of lists, item by item. -/
theorem exists_forall₂ {α β : Type} {R : α → β → Prop} {l : List α} (h : ∀ a ∈ l, ∃ b, R a b) :
    ∃ bs, List.Forall₂ R l bs := by
  induction l with
  | nil => exact ⟨[], .nil⟩
  | cons a l ih =>
      obtain ⟨b, hb⟩ := h a List.mem_cons_self
      obtain ⟨bs, hbs⟩ := ih fun a ha ↦ h a (List.mem_cons_of_mem _ ha)
      exact ⟨b :: bs, .cons hb hbs⟩

section Tokens

variable {t : Token} {l : Lexeme} {mode : Mode}

/-- A scalar is read at once, unless it is an integer that is too long. -/
theorem exists_startValue_scalar (h : t.isScalar = true) (hshort : t.isOverlong = false) :
    ∃ v, ∀ stack start, startValue stack ⟨t, start⟩ = .ok (.complete v stack) := by
  cases t with
  | null | bool _ | decimal _ | text _ => exact ⟨_, fun _ _ ↦ rfl⟩
  | integer negative digits => exact ⟨_, fun _ _ ↦ if_neg (of_decide_eq_false hshort)⟩
  | _ => cases h

theorem startValue_of_isOverlong (h : t.isOverlong = true) : ∃ negative digits,
    t = .integer negative digits ∧ Number.digitLimit < digits.length ∧
      ∀ stack start, startValue stack ⟨t, start⟩ = .error (.integerTooLong digits.length) := by
  cases t with
  | integer negative digits =>
      have hlong : Number.digitLimit < digits.length := of_decide_eq_true h
      exact ⟨negative, digits, rfl, hlong, fun _ _ ↦ if_pos hlong⟩
  | _ => cases h

/-- What may start a value. -/
theorem startValue_eq_ok {stack : List Frame} (h : startValue stack l = .ok mode) :
    l.token = .openObject ∧ mode = .objectStart stack ∨
      l.token = .openArray ∧ mode = .arrayStart stack ∨
      (l.token.isScalar = true ∧ l.token.isOverlong = false) ∧ ∃ v, mode = .complete v stack := by
  obtain ⟨t, start⟩ := l
  cases hlong : t.isOverlong with
  | true =>
      obtain ⟨_, _, _, _, herror⟩ := startValue_of_isOverlong hlong
      rw [herror] at h
      cases h
  | false =>
      cases hscalar : t.isScalar with
      | true =>
          obtain ⟨v, hv⟩ := exists_startValue_scalar hscalar hlong
          rw [hv] at h
          cases h
          exact .inr (.inr ⟨⟨rfl, rfl⟩, v, rfl⟩)
      | false =>
          cases t with
          | openObject =>
              cases h
              exact .inl ⟨rfl, rfl⟩
          | openArray =>
              cases h
              exact .inr (.inl ⟨rfl, rfl⟩)
          | null | bool _ | integer _ _ | decimal _ | text _ => cases hscalar
          | _ => cases h

theorem startMember_eq_ok {read : List (CodePoints × Json)} {stack : List Frame}
    (h : startMember read stack l = .ok mode) :
    ∃ key, l.token = .text key ∧ mode = .colon read key stack := by
  obtain ⟨t, start⟩ := l
  cases t with
  | text key =>
      cases h
      exact ⟨key, rfl, rfl⟩
  | _ => cases h

theorem exists_reads_scalar (h : t.isScalar = true) (hshort : t.isOverlong = false) :
    ∃ v, Reads [t] v := by
  obtain ⟨v, hv⟩ := exists_startValue_scalar h hshort
  exact ⟨v, fun stack ↦ .cons (hv stack) .nil⟩

end Tokens

/-- The tokens of a value are read, unless one of them is an integer that is too long. -/
theorem IsValue.exists_reads {ts : List Token} (h : IsValue ts) (hshort : IsShort ts) :
    ∃ v, Reads ts v := by
  induction h with
  | scalar ht => exact exists_reads_scalar ht (hshort _ List.mem_cons_self)
  | array _ ih =>
      obtain ⟨vs, hvs⟩ := exists_forall₂ (R := Reads) fun ts hts ↦
        ih ts hts fun t ht ↦ hshort t (subset_arrayTokens hts ht)
      exact ⟨_, reads_array hvs⟩
  | @object members _ ih =>
      obtain ⟨ns, hns⟩ := exists_forall₂ (R := ReadsMember) (l := members) fun m hm ↦ by
        obtain ⟨v, hv⟩ := ih m hm fun t ht ↦ hshort t (subset_objectTokens hm ht)
        exact ⟨(m.1, v), rfl, hv⟩
      exact ⟨_, reads_object hns⟩

/-! ## What was read -/

/-- The tokens that have opened containers, with what is in them so far. -/
inductive Opens : List Frame → List Token → Prop
  | nil : Opens [] []
  | array {stack : List Frame} {read : List Json} {ts : List Token} {items : List (List Token)} :
      Opens stack ts → (∀ us ∈ items, IsValue us) →
      Opens (.array read :: stack) (ts ++ .openArray :: itemsBefore items)
  | object {stack : List Frame} {read : List (CodePoints × Json)} {key : CodePoints}
      {ts : List Token} {members : List (CodePoints × List Token)} :
      Opens stack ts → (∀ m ∈ members, IsValue m.2) →
      Opens (.object read key :: stack)
        (ts ++ .openObject :: (itemsBefore (members.map memberTokens) ++ [.text key, .colon]))

/-- In containers that are open, a value can be completed to a value of all. -/
theorem Opens.exists_completion {stack : List Frame} {ts us : List Token} (h : Opens stack ts)
    (hus : IsValue us) : ∃ rest, IsValue (ts ++ us ++ rest) := by
  induction h generalizing us with
  | nil => exact ⟨[], by simpa using hus⟩
  | @array _ _ ts items _ hitems ih =>
      have harray : IsValue (arrayTokens (items ++ [us])) :=
        .array (List.forall_mem_append.2 ⟨hitems, by simpa using hus⟩)
      obtain ⟨rest, hrest⟩ := ih harray
      refine ⟨.closeArray :: rest, ?_⟩
      simpa [arrayTokens_concat] using hrest
  | @object _ _ key ts members _ hmembers ih =>
      have hobject : IsValue (objectTokens (members ++ [(key, us)])) :=
        .object (List.forall_mem_append.2 ⟨hmembers, by simpa using hus⟩)
      obtain ⟨rest, hrest⟩ := ih hobject
      refine ⟨.closeObject :: rest, ?_⟩
      simpa [objectTokens_concat] using hrest

/-- What the reader has read when it is in a mode. -/
def Mode.Follows : Mode → List Token → Prop
  | value stack, ts => Opens stack ts
  | arrayStart stack, ts => ∃ us, Opens stack us ∧ ts = us ++ [.openArray]
  | objectStart stack, ts => ∃ us, Opens stack us ∧ ts = us ++ [.openObject]
  | name _ stack, ts => ∃ us, ∃ members : List (CodePoints × List Token), Opens stack us ∧
      (∀ m ∈ members, IsValue m.2) ∧
      ts = us ++ .openObject :: itemsBefore (members.map memberTokens)
  | colon _ key stack, ts => ∃ us, ∃ members : List (CodePoints × List Token), Opens stack us ∧
      (∀ m ∈ members, IsValue m.2) ∧
      ts = us ++ .openObject :: (itemsBefore (members.map memberTokens) ++ [.text key])
  | complete _ stack, ts => ∃ us vs, Opens stack us ∧ IsValue vs ∧ ts = us ++ vs

variable {stack : List Frame} {ts us : List Token} {l : Lexeme} {mode mode' : Mode}

theorem follows_startValue (h : Opens stack ts) (hstep : startValue stack l = .ok mode) :
    mode.Follows (ts ++ [l.token]) := by
  rcases startValue_eq_ok hstep with ⟨ht, rfl⟩ | ⟨ht, rfl⟩ | ⟨ht, v, rfl⟩
  · exact ⟨ts, h, by rw [ht]⟩
  · exact ⟨ts, h, by rw [ht]⟩
  · exact ⟨ts, [l.token], h, .scalar ht.1, rfl⟩

theorem follows_startMember {read : List (CodePoints × Json)}
    {members : List (CodePoints × List Token)} (h : Opens stack us)
    (hmembers : ∀ m ∈ members, IsValue m.2)
    (hstep : startMember read stack l = .ok mode) :
    mode.Follows (us ++ .openObject :: itemsBefore (members.map memberTokens) ++ [l.token]) := by
  obtain ⟨key, ht, rfl⟩ := startMember_eq_ok hstep
  exact ⟨us, members, h, hmembers, by simp [ht]⟩

/-- An array is opened with nothing in it. -/
theorem Opens.openArray (h : Opens stack us) (read : List Json) :
    Opens (.array read :: stack) (us ++ [.openArray]) :=
  .array h (List.forall_mem_nil _)

/-- One token is read. -/
theorem follows_step (h : mode.Follows ts) (hstep : step mode l = .ok mode') :
    mode'.Follows (ts ++ [l.token]) := by
  cases mode with
  | value stack => exact follows_startValue h hstep
  | arrayStart stack =>
      obtain ⟨us, hus, rfl⟩ := h
      rw [step] at hstep
      split at hstep
      · rename_i ht
        cases hstep
        refine ⟨us, arrayTokens [], hus, .array (List.forall_mem_nil _), ?_⟩
        simp [ht, arrayTokens]
      · exact follows_startValue (hus.openArray []) hstep
  | objectStart stack =>
      obtain ⟨us, hus, rfl⟩ := h
      rw [step] at hstep
      split at hstep
      · rename_i ht
        cases hstep
        refine ⟨us, objectTokens [], hus, .object (List.forall_mem_nil _), ?_⟩
        simp [ht, objectTokens]
      · exact follows_startMember hus (List.forall_mem_nil _) hstep
  | name read stack =>
      obtain ⟨us, members, hus, hmembers, rfl⟩ := h
      exact follows_startMember hus hmembers hstep
  | colon read key stack =>
      obtain ⟨us, members, hus, hmembers, rfl⟩ := h
      rw [step] at hstep
      split at hstep
      · rename_i ht
        cases hstep
        have hopens : Opens (.object read key :: stack) _ := .object hus hmembers
        simpa [ht, Mode.Follows] using hopens
      · cases hstep
  | complete v stack =>
      obtain ⟨us, vs, hus, hvs, rfl⟩ := h
      cases hus with
      | nil => cases hstep
      | @array stack read us items hus hitems =>
          have hall : ∀ ts ∈ items ++ [vs], IsValue ts :=
            List.forall_mem_append.2 ⟨hitems, by simpa using hvs⟩
          rw [step] at hstep
          split at hstep
          · rename_i ht
            cases hstep
            have hopens : Opens (.array (v :: read) :: stack) _ := .array hus hall
            simpa [ht, Mode.Follows] using hopens
          · split at hstep
            · rename_i ht
              cases hstep
              refine ⟨us, arrayTokens (items ++ [vs]), hus, .array hall, ?_⟩
              simp [ht, arrayTokens_concat]
            · cases hstep
      | @object stack read key us members hus hmembers =>
          have hall : ∀ m ∈ members ++ [(key, vs)], IsValue m.2 :=
            List.forall_mem_append.2 ⟨hmembers, by simpa using hvs⟩
          rw [step] at hstep
          split at hstep
          · rename_i ht
            cases hstep
            refine ⟨us, members ++ [(key, vs)], hus, hall, ?_⟩
            simp [ht]
          · split at hstep
            · rename_i ht
              cases hstep
              refine ⟨us, objectTokens (members ++ [(key, vs)]), hus, .object hall, ?_⟩
              simp [ht, objectTokens_concat]
            · cases hstep

theorem exists_of_readFrom_append {ls ls' : List Lexeme}
    (h : readFrom mode (ls ++ ls') = .ok mode') :
    ∃ next, readFrom mode ls = .ok next ∧ readFrom next ls' = .ok mode' := by
  rw [readFrom_append] at h
  cases hnext : readFrom mode ls with
  | error e =>
      rw [hnext] at h
      cases h
  | ok next =>
      rw [hnext] at h
      exact ⟨next, rfl, h⟩

theorem exists_of_readFrom_cons {ls : List Lexeme} (h : readFrom mode (l :: ls) = .ok mode') :
    ∃ next, step mode l = .ok next ∧ readFrom next ls = .ok mode' := by
  rw [readFrom_cons] at h
  cases hnext : step mode l with
  | error e =>
      rw [hnext] at h
      cases h
  | ok next =>
      rw [hnext] at h
      exact ⟨next, rfl, h⟩

theorem follows_readFrom {ls : List Lexeme} (h : mode.Follows ts)
    (hread : readFrom mode ls = .ok mode') : mode'.Follows (ts ++ ls.map Lexeme.token) := by
  induction ls generalizing mode ts with
  | nil =>
      cases hread
      simpa using h
  | cons l ls ih =>
      obtain ⟨next, hstep, hread⟩ := exists_of_readFrom_cons hread
      rw [List.map_cons, List.append_cons]
      exact ih (follows_step h hstep) hread

/-! ## Integers that are too long -/

/-- In these modes a value may come next. -/
def Mode.TakesValue : Mode → Prop
  | value _ | arrayStart _ => True
  | _ => False

/-- Where a value may come next, what was read has opened the containers around it. -/
theorem Mode.TakesValue.exists_opens (htakes : mode.TakesValue) (h : mode.Follows ts) :
    ∃ stack, Opens stack ts := by
  cases mode with
  | value stack => exact ⟨stack, h⟩
  | arrayStart stack =>
      obtain ⟨us, hus, rfl⟩ := h
      exact ⟨_, hus.openArray []⟩
  | _ => cases htakes

/-- An integer is read only where a value may come next. -/
theorem takesValue_of_step {negative : Bool} {digits : List Char}
    (ht : l.token = .integer negative digits) (h : step mode l = .ok mode') : mode.TakesValue := by
  cases mode with
  | value _ | arrayStart _ => trivial
  | objectStart stack => simp [step, startMember, ht] at h
  | name read stack => simp [step, startMember, ht] at h
  | colon read key stack => simp [step, ht] at h
  | complete v stack =>
      cases stack with
      | nil => cases h
      | cons frame stack => cases frame <;> simp [step, ht] at h

theorem Mode.TakesValue.step_eq (htakes : mode.TakesValue) (ht : l.token ≠ .closeArray) :
    ∃ stack, step mode l = startValue stack l := by
  cases mode with
  | value stack => exact ⟨stack, rfl⟩
  | arrayStart stack => exact ⟨_, if_neg ht⟩
  | _ => cases htakes

/-- Nothing but an integer that is too long is refused as such. -/
theorem startValue_eq_tooLong {stack : List Frame} {n : Nat}
    (h : startValue stack l = .error (.integerTooLong n)) :
    ∃ negative digits, l.token = .integer negative digits ∧ Number.digitLimit < digits.length ∧
      digits.length = n := by
  obtain ⟨t, start⟩ := l
  cases hlong : t.isOverlong with
  | true =>
      obtain ⟨negative, digits, ht, hdigits, herror⟩ := startValue_of_isOverlong hlong
      rw [herror] at h
      cases h
      exact ⟨negative, digits, ht, hdigits, rfl⟩
  | false =>
      cases hscalar : t.isScalar with
      | true =>
          obtain ⟨v, hv⟩ := exists_startValue_scalar hscalar hlong
          rw [hv] at h
          cases h
      | false =>
          cases t with
          | integer _ _ => cases hscalar
          | _ => cases h

theorem startMember_ne_tooLong {read : List (CodePoints × Json)} {stack : List Frame} {n : Nat} :
    startMember read stack l ≠ .error (.integerTooLong n) := by
  rw [startMember]
  split <;> exact nofun

/-- It is refused only where a value may come next. -/
theorem step_eq_tooLong {n : Nat} (h : step mode l = .error (.integerTooLong n)) :
    mode.TakesValue ∧ ∃ negative digits, l.token = .integer negative digits ∧
      Number.digitLimit < digits.length ∧ digits.length = n := by
  cases mode with
  | value stack => exact ⟨trivial, startValue_eq_tooLong h⟩
  | arrayStart stack =>
      rw [step] at h
      split at h
      · cases h
      · exact ⟨trivial, startValue_eq_tooLong h⟩
  | objectStart stack =>
      rw [step] at h
      split at h
      · cases h
      · exact absurd h startMember_ne_tooLong
  | name read stack => exact absurd h startMember_ne_tooLong
  | colon read key stack =>
      rw [step] at h
      split at h <;> cases h
  | complete v stack =>
      rcases stack with _ | ⟨_ | _, _⟩
      · cases h
      all_goals
        rw [step] at h
        split at h
        · cases h
        · split at h <;> cases h

/-- An integer that is too long is never read. -/
theorem isOverlong_eq_false_of_step (h : step mode l = .ok mode') :
    l.token.isOverlong = false := by
  refine Bool.eq_false_iff.2 fun hlong ↦ ?_
  obtain ⟨negative, digits, ht, -, herror⟩ := startValue_of_isOverlong hlong
  obtain ⟨stack, hstack⟩ := (takesValue_of_step ht h).step_eq (by rw [ht]; exact nofun)
  rw [hstack, herror] at h
  cases h

/-! ### A short integer in their place -/

/-- The token with a short integer in place of one that is too long. -/
def Token.shorten (t : Token) : Token :=
  match t with
  | integer negative _ => if t.isOverlong then integer negative ['0'] else t
  | _ => t

theorem isOverlong_shorten (t : Token) : t.shorten.isOverlong = false := by
  cases t with
  | integer negative digits =>
      rw [Token.shorten]
      split
      · rfl
      · exact Bool.eq_false_iff.2 ‹_›
  | _ => rfl

theorem shorten_eq_self {t : Token} (h : t.isOverlong = false) : t.shorten = t := by
  cases t with
  | integer negative digits => rw [Token.shorten, h, if_neg Bool.false_ne_true]
  | _ => rfl

theorem isScalar_shorten (t : Token) : t.shorten.isScalar = t.isScalar := by
  cases t with
  | integer negative digits =>
      rw [Token.shorten]
      split <;> rfl
  | _ => rfl

theorem map_intercalate (f : Token → Token) (sep : List Token) (items : List (List Token)) :
    (sep.intercalate items).map f = (sep.map f).intercalate (items.map (List.map f)) := by
  induction items with
  | nil => rfl
  | cons item items ih =>
      cases items with
      | nil => simp
      | cons next items => simp_all [List.intercalate_cons_cons]

/-- Values remain values. -/
theorem IsValue.map_shorten {ts : List Token} (h : IsValue ts) :
    IsValue (ts.map Token.shorten) := by
  induction h with
  | @scalar t ht => exact .scalar (by rwa [isScalar_shorten])
  | @array items _ ih =>
      have htokens : (arrayTokens items).map Token.shorten =
          arrayTokens (items.map (List.map Token.shorten)) := by
        simp [arrayTokens, map_intercalate, Token.shorten]
      rw [htokens]
      exact .array (List.forall_mem_map.2 ih)
  | @object members _ ih =>
      have htokens : (objectTokens members).map Token.shorten =
          objectTokens (members.map (Prod.map id (List.map Token.shorten))) := by
        simp [objectTokens, map_intercalate, Token.shorten, Function.comp_def]
      rw [htokens]
      exact .object (List.forall_mem_map.2 ih)

/-! ## The reader -/

section Lexemes

variable {ls : List Lexeme}

/-- Reading stops at a token. -/
theorem exists_step_of_readFrom_eq_error {e : ReadError} (h : readFrom mode ls = .error e) :
    ∃ before l after mode', ls = before ++ l :: after ∧ readFrom mode before = .ok mode' ∧
      step mode' l = .error e := by
  induction ls generalizing mode with
  | nil => cases h
  | cons l ls ih =>
      rw [readFrom_cons] at h
      cases hstep : step mode l with
      | error e' =>
          rw [hstep] at h
          cases h
          exact ⟨[], l, ls, mode, rfl, rfl, hstep⟩
      | ok next =>
          rw [hstep] at h
          obtain ⟨before, l', after, mode', rfl, hbefore, hl'⟩ := ih h
          refine ⟨l :: before, l', after, mode', rfl, ?_, hl'⟩
          rw [readFrom_cons, hstep]
          exact hbefore

theorem isShort_of_readFrom (h : readFrom mode ls = .ok mode') :
    IsShort (ls.map Lexeme.token) := by
  induction ls generalizing mode with
  | nil => exact List.forall_mem_nil _
  | cons l ls ih =>
      obtain ⟨next, hstep, hread⟩ := exists_of_readFrom_cons h
      exact List.forall_mem_cons.2 ⟨isOverlong_eq_false_of_step hstep, ih hread⟩

theorem follows_of_readFrom (h : readFrom (.value []) ls = .ok mode) :
    mode.Follows (ls.map Lexeme.token) := by
  have hstart : (Mode.value []).Follows [] := Opens.nil
  exact follows_readFrom hstart h

/-- Tokens are read to the end of a value if and only if they are those of a value whose integers
are short. -/
theorem exists_readFrom_iff : (∃ v, readFrom (.value []) ls = .ok (.complete v [])) ↔
    IsValue (ls.map Lexeme.token) ∧ IsShort (ls.map Lexeme.token) := by
  constructor
  · rintro ⟨v, hv⟩
    obtain ⟨us, vs, hus, hvs, heq⟩ := follows_of_readFrom hv
    cases hus
    exact ⟨heq ▸ hvs, isShort_of_readFrom hv⟩
  · rintro ⟨hvalue, hshort⟩
    obtain ⟨v, hv⟩ := hvalue.exists_reads hshort
    exact ⟨v, hv [] ls rfl⟩

/-- In the midst of a value the reader gets to an integer, whether it is too long or not. -/
theorem exists_readFrom_of_isValue {before : List Lexeme} {negative : Bool} {digits : List Char}
    {rest : List Token} (hbefore : IsShort (before.map Lexeme.token))
    (h : IsValue (before.map Lexeme.token ++ .integer negative digits :: rest)) :
    ∃ mode, readFrom (.value []) before = .ok mode ∧ mode.TakesValue := by
  obtain ⟨v, hv⟩ := h.map_shorten.exists_reads
    (List.forall_mem_map.2 fun t _ ↦ isOverlong_shorten t)
  have hsame : (before.map Lexeme.token).map Token.shorten = before.map Lexeme.token :=
    (List.map_congr_left fun t ht ↦ shorten_eq_self (hbefore t ht)).trans (List.map_id _)
  obtain ⟨digits', hdigits'⟩ : ∃ digits', (Token.integer negative digits).shorten =
      .integer negative digits' := by
    rw [Token.shorten]
    split <;> exact ⟨_, rfl⟩
  have hread := hv [] (before ++ ⟨.integer negative digits', []⟩ ::
    (rest.map Token.shorten).map (⟨·, []⟩)) (by simp [hsame, hdigits', Function.comp_def])
  obtain ⟨mode, hmode, hread⟩ := exists_of_readFrom_append hread
  obtain ⟨next, hstep, -⟩ := exists_of_readFrom_cons hread
  exact ⟨mode, hmode, takesValue_of_step rfl hstep⟩

/-- Reading stops at an integer if and only if it is the first that is too long, and what is before
it starts a value in which there may be an integer next. -/
theorem readFrom_eq_tooLong_iff {n : Nat} :
    readFrom (.value []) ls = .error (.integerTooLong n) ↔ ∃ before negative digits after rest,
      ls.map Lexeme.token = before ++ .integer negative digits :: after ∧ IsShort before ∧
        Number.digitLimit < digits.length ∧ digits.length = n ∧
        IsValue (before ++ .integer negative digits :: rest) := by
  constructor
  · intro h
    obtain ⟨before, l, after, mode, rfl, hbefore, hl⟩ := exists_step_of_readFrom_eq_error h
    obtain ⟨htakes, negative, digits, ht, hlong, hlength⟩ := step_eq_tooLong hl
    obtain ⟨stack, hopens⟩ := htakes.exists_opens (follows_of_readFrom hbefore)
    have hscalar : IsValue [.integer negative digits] := .scalar rfl
    obtain ⟨rest, hrest⟩ := hopens.exists_completion hscalar
    refine ⟨before.map Lexeme.token, negative, digits, after.map Lexeme.token, rest, ?_,
      isShort_of_readFrom hbefore, hlong, hlength, ?_⟩
    · rw [List.map_append, List.map_cons, ht]
    · simpa using hrest
  · rintro ⟨_, negative, digits, _, rest, htokens, hshort, hlong, rfl, hvalue⟩
    obtain ⟨before, after, rfl, rfl, hafter⟩ := List.map_eq_append_iff.1 htokens
    obtain ⟨⟨_, start⟩, after, rfl, rfl, rfl⟩ := List.map_eq_cons_iff.1 hafter
    obtain ⟨mode, hmode, htakes⟩ := exists_readFrom_of_isValue hshort hvalue
    obtain ⟨stack, hstack⟩ := htakes.step_eq (l := ⟨.integer negative digits, start⟩) nofun
    have herror : startValue stack ⟨.integer negative digits, start⟩ =
        .error (.integerTooLong digits.length) := if_pos hlong
    rw [readFrom_append, hmode]
    change readFrom mode (_ :: _) = _
    rw [readFrom_cons, hstack, herror]
    rfl

end Lexemes

end GraphQuery.Json
