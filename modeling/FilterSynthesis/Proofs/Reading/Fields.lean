import FilterSynthesis.Reading.Record

namespace FilterSynthesis

namespace RecordFormat

variable {σ α β : Type} {format : RecordFormat σ α}
  {field : σ → String → Json → Except (Fault Unit) σ}

theorem exists_ofMembers {members : List (String × Json)}
    (takes : ∀ member ∈ members, member.1 ∈ format.names → ∀ state,
      ∃ next, field state member.1 member.2 = .ok next) (state : σ) :
    ∃ final, format.ofMembers field state members = .ok final := by
  induction members generalizing state with
  | nil => exact ⟨state, rfl⟩
  | cons member rest induction =>
      obtain ⟨key, value⟩ := member
      obtain ⟨here, later⟩ := List.forall_mem_cons.mp takes
      rw [ofMembers]
      split
      · rename_i known
        obtain ⟨next, answer⟩ := here known state
        rw [answer]
        exact induction later next
      · exact induction later state

theorem ofMembers_concat {members : List (String × Json)} {state gathered next : σ} {key : String}
    {value : Json} (taken : format.ofMembers field state members = .ok gathered)
    (known : key ∈ format.names) (answer : field gathered key value = .ok next) :
    format.ofMembers field state (members ++ [(key, value)]) = .ok next := by
  induction members generalizing state with
  | nil =>
      cases taken
      rw [List.nil_append, ofMembers, if_pos known, answer]
      rfl
  | cons member rest induction =>
      obtain ⟨first, held⟩ := member
      rw [ofMembers] at taken
      rw [List.cons_append, ofMembers]
      split at taken
      · rename_i listed
        rw [if_pos listed]
        cases read : field state first held with
        | error fault =>
            rw [read] at taken
            cases taken
        | ok middle =>
            rw [read] at taken
            exact induction taken
      · rename_i unlisted
        rw [if_neg unlisted]
        exact induction taken

theorem ofMembers_put {key : String} (unknown : key ∉ format.names) (value : Json)
    (members : List (String × Json)) (state : σ) :
    format.ofMembers field state (Entries.put key value members) =
      format.ofMembers field state members := by
  induction members generalizing state with
  | nil => exact if_neg unknown
  | cons member rest induction =>
      obtain ⟨first, held⟩ := member
      rw [Entries.put]
      split
      · rename_i same
        cases same
        rw [ofMembers, ofMembers, if_neg unknown, if_neg unknown]
      · rw [ofMembers, ofMembers]
        split
        · cases field state first held with
          | error fault => rfl
          | ok next => exact induction next
        · exact induction state

/-- How a state holds one of the fields: `decode` reads it, and no other field changes it. -/
structure Holds (format : RecordFormat σ α) (field : σ → String → Json → Except (Fault Unit) σ)
    (name : String) (decode : Json → Except (Fault Unit) β) (held : σ → Option β) : Prop where
  known : name ∈ format.names
  takes : ∀ {value result}, decode value = .ok result → ∀ state,
    ∃ next, field state name value = .ok next
  here : ∀ {state value next}, field state name value = .ok next →
    ∃ result, decode value = .ok result ∧ held next = some result
  there : ∀ {state other value next}, other ∈ format.names → other ≠ name →
    field state other value = .ok next → held next = held state

theorem Holds.of_ofMembers {name : String} {decode : Json → Except (Fault Unit) β}
    {held : σ → Option β} (holds : Holds format field name decode held)
    {members : List (String × Json)} (distinct : (Entries.keys members).Nodup) {state final : σ}
    (taken : format.ofMembers field state members = .ok final) :
    (members.lookup name = none ∧ held final = held state) ∨
      ∃ value result, members.lookup name = some value ∧ decode value = .ok result ∧
        held final = some result := by
  induction members generalizing state with
  | nil =>
      cases taken
      exact .inl ⟨rfl, rfl⟩
  | cons member rest induction =>
      obtain ⟨key, value⟩ := member
      obtain ⟨fresh, distinct⟩ := List.nodup_cons.mp distinct
      rw [ofMembers] at taken
      by_cases same : key = name
      · subst same
        rw [if_pos holds.known] at taken
        split at taken
        · rename_i next answer
          obtain ⟨result, decoded, set⟩ := holds.here answer
          -- the name does not come again, so what it holds now is what it holds in the end
          refine .inr ⟨value, result, List.lookup_cons_self, decoded, ?_⟩
          rcases induction distinct taken with ⟨_, kept⟩ | ⟨later, _, found, _⟩
          · rw [kept, set]
          · exact absurd (Entries.mem_keys_iff.mpr ⟨later, found⟩) fresh
        · cases taken
      · have apart : (name == key) = false := beq_eq_false_iff_ne.mpr (Ne.symm same)
        rw [List.lookup_cons, apart]
        split at taken
        · rename_i listed
          split at taken
          · rename_i next answer
            rw [← holds.there listed same answer]
            exact induction distinct taken
          · cases taken
        · exact induction distinct taken

/-- What a field gives: nothing if it is absent, and what it is decoded to if it is there. -/
inductive Gives (decode : Json → Except (Fault Unit) β) : Option Json → Option β → Prop
  | absent : Gives decode none none
  | present {value : Json} {result : β} (decoded : decode value = .ok result) :
      Gives decode (some value) (some result)

theorem gives_none_iff {decode : Json → Except (Fault Unit) β} {found : Option Json} :
    Gives decode found none ↔ found = none := by
  constructor
  · rintro ⟨⟩
    rfl
  · rintro rfl
    exact .absent

theorem gives_some_iff {decode : Json → Except (Fault Unit) β} {found : Option Json}
    {result : β} :
    Gives decode found (some result) ↔ ∃ value, found = some value ∧ decode value = .ok result := by
  constructor
  · rintro ⟨⟩
    exact ⟨_, rfl, ‹_›⟩
  · rintro ⟨value, rfl, decoded⟩
    exact .present decoded

theorem exists_gives_getD_iff {decode : Json → Except (Fault Unit) β} {found : Option Json}
    {default result : β} :
    (∃ held : Option β, Gives decode found held ∧ held.getD default = result) ↔
      found = none ∧ result = default ∨ ∃ value, found = some value ∧
          decode value = .ok result := by
  constructor
  · rintro ⟨held, gives, equal⟩
    cases gives with
    | absent => exact .inl ⟨rfl, equal.symm⟩
    | present decoded =>
        cases equal
        exact .inr ⟨_, rfl, decoded⟩
  · rintro (⟨absent, equal⟩ | there)
    · exact ⟨none, gives_none_iff.mpr absent, equal.symm⟩
    · exact ⟨some result, gives_some_iff.mpr there, rfl⟩

theorem Gives.unique {decode : Json → Except (Fault Unit) β} {found : Option Json}
    {left right : Option β} (one : Gives decode found left) (other : Gives decode found right) :
    left = right := by
  cases one with
  | absent =>
      cases other
      rfl
  | present first =>
      cases other with
      | present second => rw [Except.ok.inj (first.symm.trans second)]

theorem Holds.gives_of_ofMembers {name : String} {decode : Json → Except (Fault Unit) β}
    {held : σ → Option β} (holds : Holds format field name decode held)
    {members : List (String × Json)} (distinct : (Entries.keys members).Nodup) {state final : σ}
    (unset : held state = none) (taken : format.ofMembers field state members = .ok final) :
    Gives decode (members.lookup name) (held final) := by
  rcases holds.of_ofMembers distinct taken with ⟨absent, kept⟩ |
      ⟨value, result, found, decoded, set⟩
  · rw [absent, kept, unset]
    exact .absent
  · rw [found, set]
    exact .present decoded

theorem Holds.takes_of_gives {name : String} {decode : Json → Except (Fault Unit) β}
    {held : σ → Option β} (holds : Holds format field name decode held) {here : Option Json}
    {result : Option β} (gives : Gives decode here result) {value : Json}
    (found : here = some value) (state : σ) : ∃ next, field state name value = .ok next := by
  cases gives with
  | absent => cases found
  | present decoded =>
      cases found
      exact holds.takes decoded state

theorem ofElements_nil (index : Nat) (names : List String) (state : σ) :
    ofElements field index names state [] = .ok state := by
  cases names <;> rfl

theorem ofElements_concat {index : Nat} {names later : List String} {state gathered next : σ}
    {values : List Json} {name : String} {value : Json}
    (taken : ofElements field index names state values = .ok gathered)
    (remaining : names.drop values.length = name :: later)
    (answer : field gathered name value = .ok next) :
    ofElements field index names state (values ++ [value]) = .ok next := by
  induction values generalizing index names state with
  | nil =>
      rw [List.length_nil, List.drop_zero] at remaining
      subst remaining
      cases taken
      rw [List.nil_append, ofElements, answer]
      exact ofElements_nil _ _ _
  | cons first rest induction =>
      cases names with
      | nil => cases remaining
      | cons other others =>
          rw [ofElements] at taken
          rw [List.cons_append, ofElements]
          cases read : field state other first with
          | error fault =>
              rw [read] at taken
              cases taken
          | ok middle =>
              rw [read] at taken
              exact induction taken remaining

theorem ofJson_object_eq_ok_iff {members : List (String × Json)} {result : α} :
    format.ofJson field (.object members) = .ok result ↔
      ∃ final, format.ofMembers field format.start members = .ok final ∧
        format.complete final = .ok result := by
  rw [ofJson]
  cases format.ofMembers field format.start members with
  | error fault => simp
  | ok final =>
      cases complete : format.complete final <;> simp [complete]

end RecordFormat

theorem map_eq_ok_iff {ε α β : Type} {change : α → β} {read : Except ε α} {result : β} :
    read.map change = .ok result ↔ ∃ value, read = .ok value ∧ change value = result := by
  cases read <;> simp [Except.map]

end FilterSynthesis
