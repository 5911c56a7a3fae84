import FilterSynthesis.Proofs.Schema.Correspondence

/-!
Schemas that inputs give rise to. They begin with what some values have in common and go on by rules
and meets. In each dict within them every field has some evidence, and what is said of all values
lies below each field: a meet narrows both, and a rule leads to a part of a schema or wraps it.
-/

namespace FilterSynthesis

def Literal.kind : Literal → Schema
  | .bool _ => .bool
  | .int _ => .int
  | .str _ => .str

namespace Schema

inductive Reachable : Schema → Prop
  | common {values : List Json} (nonempty : values ≠ [])
      (wellFormed : ∀ value ∈ values, value.WellFormed) : Reachable (common values)
  | rule {schema : Schema} {constants : Constants} {rule : Rule} (reachable : Reachable schema)
      (offered : rule ∈ schema.rules constants) : Reachable rule.output
  | meet {left right : Schema} (first : Reachable left) (second : Reachable right) :
      Reachable (left.meet right)

inductive Occurs (part : Schema) : Schema → Prop
  | here : Occurs part part
  | element {element : Schema} (within : Occurs part element) : Occurs part (.list element)
  | field {fields : List (String × Schema)} {values : Schema} {field : String × Schema}
      (listed : field ∈ fields) (within : Occurs part field.2) : Occurs part (.dict fields values)
  | values {fields : List (String × Schema)} {values : Schema} (within : Occurs part values) :
      Occurs part (.dict fields values)

/-- In every dict inside, no field is without evidence, and `values` lies below each field. -/
inductive Summarised : Schema → Prop
  | none : Summarised .none
  | any : Summarised .any
  | bool : Summarised .bool
  | int : Summarised .int
  | str : Summarised .str
  | list {element : Schema} (within : Summarised element) : Summarised (.list element)
  | dict {fields : List (String × Schema)} {values : Schema}
      (evident : ∀ field ∈ fields, field.2 ≠ .any) (lower : ∀ field ∈ fields, Below values field.2)
      (each : ∀ field ∈ fields, Summarised field.2) (rest : Summarised values) :
      Summarised (.dict fields values)

variable {schema part left right : Schema}

theorem Summarised.of_occurs (summarised : schema.Summarised) (occurs : part.Occurs schema) :
    part.Summarised := by
  induction occurs with
  | here => exact summarised
  | element within induction =>
      cases summarised with
      | list inside => exact induction inside
  | field listed within induction =>
      cases summarised with
      | dict evident lower each rest => exact induction (each _ listed)
  | values within induction =>
      cases summarised with
      | dict evident lower each rest => exact induction rest

theorem Distinct.of_occurs (distinct : schema.Distinct) (occurs : part.Occurs schema) :
    part.Distinct := by
  induction occurs with
  | here => exact distinct
  | element within induction =>
      cases distinct with
      | list inside => exact induction inside
  | field listed within induction =>
      cases distinct with
      | dict keys each rest => exact induction (each _ listed)
  | values within induction =>
      cases distinct with
      | dict keys each rest => exact induction rest

theorem meet_eq_any_iff : left.meet right = .any ↔ left = .any ∧ right = .any := by
  cases left <;> cases right <;> simp [Schema.meet]

theorem Summarised.meet (first : left.Summarised) (second : right.Summarised) :
    (left.meet right).Summarised := by
  induction first generalizing right with
  | any => rwa [any_meet]
  | list within induction =>
      cases second with
      | any => exact .list within
      | list others => exact .list (induction others)
      | _ => exact .none
  | @dict fields values evident lower each rest induction restInduction =>
      cases second with
      | any => exact .dict evident lower each rest
      | @dict others otherValues otherEvident otherLower otherEach otherRest =>
          have met : ∀ field ∈ meetFields fields others, field.2 ≠ .any ∧
              Below (values.meet otherValues) field.2 ∧ field.2.Summarised := by
            intro field member
            obtain ⟨left, right, onLeft, reached, equal⟩ := mem_meetFields_iff.mp member
            have onRight := Entries.mem_of_lookup reached
            have below := meet_below values otherValues
            rw [equal]
            refine ⟨?_, ?_, induction _ onLeft (otherEach _ onRight)⟩
            · exact fun absent => evident _ onLeft (meet_eq_any_iff.mp absent).1
            · exact (below.1.trans (lower _ onLeft)).meet (below.2.trans (otherLower _ onRight))
          exact .dict (fun field member => (met field member).1)
            (fun field member => (met field member).2.1)
            (fun field member => (met field member).2.2) (restInduction otherRest)
      | _ => exact .none
  | _ => cases second <;> constructor

theorem of_ne_any (value : Json) : of value ≠ .any := by
  cases value with
  | number value => cases value <;> nofun
  | _ => nofun

theorem summarised_meetAll {schemas : List Schema}
    (each : ∀ schema ∈ schemas, schema.Summarised) : (meetAll schemas).Summarised :=
  meetAll_induction .any (fun _ _ first second => first.meet second) each

theorem summarised_ofFields {fields : List (String × Schema)}
    (evident : ∀ field ∈ fields, field.2 ≠ .any) (each : ∀ field ∈ fields, field.2.Summarised) :
    (ofFields fields).Summarised := by
  refine .dict evident (fun field listed => ?_) each
      (summarised_meetAll (List.forall_mem_map.mpr each))
  exact below_meetAll_iff.mp (.refl _) _ (List.mem_map_of_mem listed)

theorem summarised_of {value : Json} (wellFormed : value.WellFormed) : (of value).Summarised := by
  induction wellFormed with
  | null => exact .none
  | bool value => exact .bool
  | int value => exact .int
  | float value => exact .none
  | string value => exact .str
  | array each induction =>
      simp only [of, ofElements_eq_map]
      exact .list (summarised_meetAll (List.forall_mem_map.mpr induction))
  | object keys each induction =>
      simp only [of, ofMembers_eq_map]
      exact summarised_ofFields (List.forall_mem_map.mpr fun member _ => of_ne_any member.2)
        (List.forall_mem_map.mpr induction)

/-- A rule leads to a part of its schema, or to lists of it, or to a plain schema. -/
theorem Applies.output_cases {output : Schema} {operator : Operator}
    (applies : Applies schema operator output) :
    output.Occurs schema ∨ output = .list schema ∨ output = .list .str ∨ output = .bool := by
  cases applies with
  | index found => exact .inl (.field (Entries.mem_of_lookup found) .here)
  | values => exact .inl (.values .here)
  | elements => exact .inl (.element .here)
  | select | sortBy | sort => exact .inl .here
  | groupBy => exact .inr (.inl rfl)
  | keys => exact .inr (.inr (.inl rfl))
  | all | any => exact .inr (.inr (.inr rfl))

theorem Summarised.applies {output : Schema} {operator : Operator}
    (summarised : schema.Summarised) (applies : Applies schema operator output) :
    output.Summarised := by
  rcases applies.output_cases with occurs | rfl | rfl | rfl
  · exact summarised.of_occurs occurs
  · exact .list summarised
  · exact .list .str
  · exact .bool

theorem Reachable.distinct (reachable : schema.Reachable) : schema.Distinct := by
  induction reachable with
  | common nonempty wellFormed => exact distinct_common wellFormed
  | rule reachable offered induction =>
      exact (applies_of_mem_rules induction offered).distinct induction
  | meet first second firstInduction secondInduction => exact firstInduction.meet secondInduction

theorem Reachable.summarised (reachable : schema.Reachable) : schema.Summarised := by
  induction reachable with
  | common nonempty wellFormed =>
      refine summarised_meetAll (List.forall_mem_map.mpr fun value member => ?_)
      exact summarised_of (wellFormed value member)
  | rule reachable offered induction =>
      exact induction.applies (applies_of_mem_rules reachable.distinct offered)
  | meet first second firstInduction secondInduction => exact firstInduction.meet secondInduction

/-! What an invariant dict says of its values, and what is selected by. -/

theorem Summarised.eq_nil {fields : List (String × Schema)}
    (summarised : (Schema.dict fields .any).Summarised) : fields = [] := by
  cases summarised with
  | dict evident lower each rest =>
      refine List.eq_nil_iff_forall_not_mem.mpr fun field listed => ?_
      have above := lower field listed
      cases found : field.2 with
      | any => exact evident field listed found
      | _ =>
          rw [found] at above
          cases above

theorem holds_iff {field : Schema} {literal : Literal} :
    field.Holds literal ↔ field = .any ∨ field = literal.kind := by
  cases field <;> cases literal <;> simp [Holds, Literal.kind]

theorem Summarised.lookup_of_select {constants : Constants} {key : String} {literal : Literal}
    {output : Schema} (summarised : schema.Summarised) (distinct : schema.Distinct)
    (offered : ⟨.select key literal, output⟩ ∈ schema.rules constants) :
    ∃ fields values, schema = .dict fields values ∧ fields.lookup key = some literal.kind := by
  cases distinct with
  | dict keys _ _ =>
      cases summarised with
      | dict evident _ _ _ =>
          rcases mem_rules_dict_iff.mp offered with ⟨_, field, listed, equal | selects⟩ | equal |
            equal
          · cases equal
          · obtain ⟨_, comparable, equal⟩ := selects
            cases equal
            have kind := (holds_iff.mp (mem_comparable_iff.mp comparable).2).resolve_left
              (evident _ listed)
            exact ⟨_, _, rfl, kind ▸ Entries.lookup_of_mem keys listed⟩
          · cases equal
          · cases equal
  | list within => cases applies_of_mem_rules (.list within) offered
  | _ => simp [rules] at offered

/-- In every dict inside a schema that inputs give rise to, the keys differ, no field is without
evidence, and `values` lies below each field; so it is without evidence itself only if there are no
fields. A selection is offered only for a field that holds booleans, integers or strings, and
compares it with a literal of that kind. -/
theorem reachable_dicts_are_summarised (schema : Schema) (reachable : schema.Reachable) :
    (∀ fields values, (dict fields values).Occurs schema →
      (Entries.keys fields).Nodup ∧
        (∀ field ∈ fields, field.2 ≠ .any ∧ values.Refines field.2) ∧
          (values = .any → fields = [])) ∧
      ∀ constants key literal output, ⟨.select key literal, output⟩ ∈ schema.rules constants →
        ∃ fields values, schema = dict fields values ∧
          fields.lookup key = some literal.kind := by
  constructor
  · intro fields values occurs
    have distinct := reachable.distinct.of_occurs occurs
    have summarised := reachable.summarised.of_occurs occurs
    refine ⟨?_, ?_, fun absent => (absent ▸ summarised).eq_nil⟩
    · cases distinct with
      | dict keys each rest => exact keys
    · cases distinct with
      | dict keys each rest =>
          cases summarised with
          | dict evident lower _ _ =>
              intro field listed
              exact ⟨evident field listed, (refines_iff_below rest).mpr (lower field listed)⟩
  · intro constants key literal output offered
    exact reachable.summarised.lookup_of_select reachable.distinct offered

theorem narrowed_dict_is_summarised :
    Reachable (dict [("a", .bool)] .none) ∧
      (∀ field ∈ [("a", Schema.bool)], field.2 ≠ .any ∧ Schema.none.Refines field.2) ∧
      ∃ fields values, dict [("a", .bool)] .none = dict fields values ∧
        fields.lookup "a" = some (Literal.bool true).kind := by
  have elements : Reachable (dict [("a", .bool), ("b", .int)] .none) := by
    have whole : Reachable (common
        [.array [.object [("a", .bool true), ("b", .number (.int 0))]]]) := by
      refine .common (List.cons_ne_nil _ _) (List.forall_mem_singleton.mpr (.array ?_))
      refine List.forall_mem_singleton.mpr (.object (by decide) ?_)
      exact List.forall_mem_cons.mpr ⟨.bool true, List.forall_mem_singleton.mpr (.int 0)⟩
    have offered : ⟨.forEach, dict [("a", .bool), ("b", .int)] .none⟩ ∈
        (list (dict [("a", .bool), ("b", .int)] .none)).rules ⟨[], [], []⟩ :=
      mem_rules_list_iff.mpr (.inr (.inl rfl))
    exact .rule whole offered
  have object : Reachable (common [.object [("c", .null), ("a", .bool false)]]) := by
    refine .common (List.cons_ne_nil _ _) (List.forall_mem_singleton.mpr (.object (by decide) ?_))
    exact List.forall_mem_cons.mpr ⟨.null, List.forall_mem_singleton.mpr (.bool false)⟩
  have reachable : Reachable (dict [("a", .bool)] .none) := elements.meet object
  have offered : ⟨.select "a" (.bool true), dict [("a", .bool)] .none⟩ ∈
      (dict [("a", .bool)] .none).rules ⟨[true], [], []⟩ :=
    mem_rules_dict_iff.mpr
      (.inl ⟨"a", .bool, List.mem_cons_self, .inr ⟨.bool true, by decide, rfl⟩⟩)
  obtain ⟨dicts, selects⟩ := reachable_dicts_are_summarised _ reachable
  exact ⟨reachable, (dicts _ _ .here).2.1, selects _ _ _ _ offered⟩

end Schema

end FilterSynthesis
