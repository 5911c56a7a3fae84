import FilterSynthesis.Proofs.Program.Meaning
import FilterSynthesis.Proofs.Schema.Order
import FilterSynthesis.Proofs.Search.Path

/-!
The rules are a type system for operators. An operator that a rule offers applies to every value
that the schema admits, and what it yields is admitted by the schema that the rule leads to. -/

namespace FilterSynthesis

namespace Schema

structure Admits (schema : Schema) (value : Json) : Prop where
  below : Below schema (of value)
  wellFormed : value.WellFormed

/-- An operator for values of a schema, and the schema of what it yields. -/
inductive Applies : Schema → Operator → Schema → Prop
  | index {fields : List (String × Schema)} {values field : Schema} {key : String}
      (found : fields.lookup key = some field) : Applies (.dict fields values) (.index key) field
  | select {fields : List (String × Schema)} {values : Schema} (key : String)
      (literal : Literal) :
      Applies (.dict fields values) (.select key literal) (.dict fields values)
  | values {fields : List (String × Schema)} {values : Schema} :
      Applies (.dict fields values) .forEach values
  | keys {fields : List (String × Schema)} {values : Schema} :
      Applies (.dict fields values) .keys (.list .str)
  | all {element : Schema} : Applies (.list element) .all .bool
  | any {element : Schema} : Applies (.list element) .any .bool
  | groupBy {fields : List (String × Schema)} {values : Schema} (key : String) :
      Applies (.list (.dict fields values)) (.groupBy key) (.list (.list (.dict fields values)))
  | sortBy {fields : List (String × Schema)} {values : Schema} (key : String) :
      Applies (.list (.dict fields values)) (.sortBy key) (.list (.dict fields values))
  | elements {element : Schema} : Applies (.list element) .forEach element
  | sort {element : Schema} : Applies (.list element) .sort (.list element)

theorem applies_of_mem_rules {constants : Constants} {schema : Schema} (distinct : schema.Distinct)
    {rule : Rule} (member : rule ∈ schema.rules constants) :
    Applies schema rule.operator rule.output := by
  cases distinct with
  | list within =>
      rename_i element
      simp only [rules, List.mem_append, List.mem_cons, List.not_mem_nil, or_false] at member
      rcases member with special | rfl | rfl
      · cases element with
        | bool | any =>
            simp only [elementRules, List.mem_cons, List.not_mem_nil, or_false] at special
            rcases special with rfl | rfl
            · exact .all
            · exact .any
        | dict fields values =>
            simp only [elementRules, List.mem_flatMap, List.mem_cons, List.not_mem_nil,
              or_false] at special
            obtain ⟨key, _, rfl | rfl⟩ := special
            · exact .groupBy key
            · exact .sortBy key
        | _ => simp [elementRules] at special
      · exact .elements
      · exact .sort
  | dict keys each rest =>
      simp only [rules, fieldRules, List.mem_append, List.mem_flatMap, List.mem_cons,
        List.mem_map, List.not_mem_nil, or_false] at member
      rcases member with ⟨⟨key, field⟩, listed, rfl | ⟨literal, _, rfl⟩⟩ | rfl | rfl
      · exact .index (Entries.lookup_of_mem keys listed)
      · exact .select key literal
      · exact .values
      · exact .keys
  | _ => simp [rules] at member

theorem Applies.distinct {schema output : Schema} {operator : Operator}
    (applies : Applies schema operator output) (distinct : schema.Distinct) : output.Distinct := by
  cases applies with
  | index found =>
      cases distinct with
      | dict keys each rest => exact each _ (Entries.mem_of_lookup found)
  | values =>
      cases distinct with
      | dict keys each rest => exact rest
  | elements =>
      cases distinct with
      | list within => exact within
  | select | sortBy | sort => exact distinct
  | keys => exact .list .str
  | all | any => exact .bool
  | groupBy => exact .list distinct

theorem Applies.unique {schema output other : Schema} {operator : Operator}
    (first : Applies schema operator output) (second : Applies schema operator other) :
    output = other := by
  cases first with
  | index found =>
      cases second with
      | index again => exact Option.some.inj (found.symm.trans again)
  | _ =>
      cases second
      rfl

theorem admits_list_iff {element : Schema} {elements : List Json} :
    (Schema.list element).Admits (.array elements) ↔ ∀ value ∈ elements, element.Admits value := by
  constructor
  · intro admits value member
    exact ⟨below_list_iff.mp admits.below value member, admits.wellFormed.of_mem member⟩
  · intro each
    exact ⟨below_list_iff.mpr fun value member => (each value member).below,
      .array fun value member => (each value member).wellFormed⟩

theorem Admits.exists_elements {element : Schema} {value : Json}
    (admits : (Schema.list element).Admits value) : ∃ elements, value = .array elements :=
  exists_elements_of_below admits.below

theorem Admits.exists_members {fields : List (String × Schema)} {values : Schema} {value : Json}
    (admits : (Schema.dict fields values).Admits value) : ∃ members, value = .object members :=
  exists_members_of_below admits.below

/-! Grouping is the only operator that nests deeper than its input is nested, and what it leads to
can only be grouped again after its lists have been taken apart. -/

/-- The levels by which values of a schema may exceed the input. -/
def excess : Schema → Nat
  | .list (.list (.dict _ _)) => 1
  | _ => 0

@[simp] theorem excess_dict (fields : List (String × Schema)) (values : Schema) :
    (dict fields values).excess = 0 := rfl

theorem excess_le_one (schema : Schema) : schema.excess ≤ 1 := by
  unfold excess
  split <;> omega

end Schema

theorem mem_of_mem_runsBy {α : Type} {agree : α → α → Bool} {elements run : List α}
    (member : run ∈ runsBy agree elements) {element : α} (within : element ∈ run) :
    element ∈ elements := by
  fun_induction runsBy agree elements with
  | case1 => simp at member
  | case2 first rest induction =>
      rcases List.mem_cons.mp member with rfl | later
      · rcases List.mem_cons.mp within with rfl | taken
        · exact List.mem_cons_self
        · exact List.mem_cons_of_mem _ ((List.takeWhile_prefix _).subset taken)
      · exact List.mem_cons_of_mem _ ((List.dropWhile_suffix _).subset (induction later))

namespace Json

theorem mem_sort_iff {elements : List Json} {element : Json} :
    element ∈ sort elements ↔ element ∈ elements :=
  (Sorting.stable_perm _ _).mem_iff

theorem mem_sortedUnder_iff {key : String} {elements : List Json} {element : Json} :
    element ∈ sortedUnder key elements ↔ element ∈ elements :=
  (Sorting.stable_perm _ _).mem_iff

theorem mem_of_mem_groupedUnder {key : String} {elements group : List Json}
    (member : group ∈ groupedUnder key elements) {element : Json} (within : element ∈ group) :
    element ∈ elements :=
  mem_sortedUnder_iff.mp (mem_of_mem_runsBy member within)

theorem depth_array_eq_of_mem_iff {lefts rights : List Json}
    (same : ∀ element, element ∈ lefts ↔ element ∈ rights) :
    (array lefts).depth = (array rights).depth := by
  have bound : ∀ {lefts rights : List Json}, (∀ element, element ∈ lefts ↔ element ∈ rights) →
      (array lefts).depth ≤ (array rights).depth := by
    intro lefts rights same
    have least : (array rights).depth = depthOfElements rights + 1 := rfl
    rw [least, depth_array_le_iff]
    intro element member
    exact depthOfElements_le_iff.mp (Nat.le_refl _) element ((same element).mp member)
  exact Nat.le_antisymm (bound same) (bound fun element => (same element).symm)

end Json

namespace Schema

theorem Admits.bool (value : Bool) : Schema.bool.Admits (.bool value) := ⟨.bool, .bool value⟩

theorem Admits.all_isObject {fields : List (String × Schema)} {values : Schema}
    {elements : List Json} (admits : (Schema.list (.dict fields values)).Admits (.array elements)) :
    elements.all Json.isObject = true := by
  rw [List.all_eq_true]
  intro element member
  obtain ⟨members, rfl⟩ := (admits_list_iff.mp admits element member).exists_members
  rfl

theorem admits_sortedKeys (members : List (String × Json)) :
    (Schema.list .str).Admits (.array ((Json.sortedKeys members).map .string)) := by
  apply admits_list_iff.mpr
  intro key listed
  obtain ⟨name, _, rfl⟩ := List.mem_map.mp listed
  exact ⟨.str, .string name⟩

theorem depth_sortedKeys_le (members : List (String × Json)) :
    (Json.array ((Json.sortedKeys members).map .string)).depth ≤ 1 := by
  apply Json.depth_array_le_iff.mpr
  intro key listed
  obtain ⟨name, _, rfl⟩ := List.mem_map.mp listed
  exact Nat.le_refl _

theorem Admits.of_mem_iff {element : Schema} {elements others : List Json}
    (admits : (Schema.list element).Admits (.array elements))
    (same : ∀ value, value ∈ others ↔ value ∈ elements) :
    (Schema.list element).Admits (.array others) ∧
      (Json.array others).depth = (Json.array elements).depth := by
  refine ⟨?_, Json.depth_array_eq_of_mem_iff same⟩
  apply admits_list_iff.mpr
  intro value member
  exact admits_list_iff.mp admits value ((same value).mp member)

theorem Admits.groupedUnder {element : Schema} {elements : List Json}
    (admits : (Schema.list element).Admits (.array elements)) (key : String) :
    (Schema.list (.list element)).Admits
      (.array ((Json.groupedUnder key elements).map .array)) := by
  apply admits_list_iff.mpr
  refine List.forall_mem_map.mpr fun group listed => ?_
  apply admits_list_iff.mpr
  intro value member
  exact admits_list_iff.mp admits value (Json.mem_of_mem_groupedUnder listed member)

theorem depth_groupedUnder_le (key : String) (elements : List Json) :
    (Json.array ((Json.groupedUnder key elements).map .array)).depth ≤
      (Json.array elements).depth + 1 := by
  apply Json.depth_array_le_iff.mpr
  refine List.forall_mem_map.mpr fun group listed => ?_
  apply Json.depth_array_le_iff.mpr
  intro value member
  exact Json.depthOfElements_le_iff.mp (Nat.le_refl _) value
    (Json.mem_of_mem_groupedUnder listed member)

theorem Applies.sound {schema output : Schema} {operator : Operator}
    (applies : Applies schema operator output) {value : Json} (admits : schema.Admits value) :
    ∃ results, operator.meaning value = some results ∧
      ∀ result ∈ results, output.Admits result ∧
        result.depth + schema.excess ≤ value.depth + output.excess := by
  have little := excess_le_one schema
  cases applies with
  | index found =>
      rename_i fields values key
      obtain ⟨members, rfl⟩ := admits.exists_members
      obtain ⟨held, present, below⟩ := (below_dict_iff.mp admits.below).1 key output found
      have member := Entries.mem_of_lookup present
      have shallow : held.depth < _ := Json.depth_lt_of_member member
      refine ⟨[held],
        by simp [Operator.meaning, Json.isObject, Json.held, Json.lookup?, present], ?_⟩
      refine List.forall_mem_singleton.mpr ?_
      exact ⟨⟨below, admits.wellFormed.of_member member⟩, by omega⟩
  | select key literal =>
      obtain ⟨members, rfl⟩ := admits.exists_members
      refine ⟨_, by simp [Operator.meaning, Json.isObject]; rfl, ?_⟩
      intro result member
      split at member
      · rw [List.mem_singleton.mp member]
        exact ⟨admits, Nat.le_refl _⟩
      · simp at member
  | values =>
      obtain ⟨members, rfl⟩ := admits.exists_members
      refine ⟨Entries.values members, rfl, ?_⟩
      intro result listed
      obtain ⟨member, within, rfl⟩ := List.mem_map.mp listed
      have shallow := Json.depth_lt_of_member within
      exact ⟨⟨(below_dict_iff.mp admits.below).2 member within,
        admits.wellFormed.of_member within⟩, by omega⟩
  | keys =>
      obtain ⟨members, rfl⟩ := admits.exists_members
      refine ⟨_, rfl, ?_⟩
      refine List.forall_mem_singleton.mpr ?_
      have flat := depth_sortedKeys_le members
      have nested : 0 < (Json.object members).depth := Nat.succ_pos _
      refine ⟨admits_sortedKeys members, ?_⟩
      rw [excess_dict]
      omega
  | all | any =>
      obtain ⟨elements, rfl⟩ := admits.exists_elements
      have nested : 0 < (Json.array elements).depth := Nat.succ_pos _
      refine ⟨_, rfl, ?_⟩
      refine List.forall_mem_singleton.mpr ?_
      have flat : ∀ value, (Json.bool value).depth = 0 := fun _ => rfl
      refine ⟨Admits.bool _, ?_⟩
      rw [flat]
      omega
  | groupBy key =>
      obtain ⟨elements, rfl⟩ := admits.exists_elements
      have objects := admits.all_isObject
      refine ⟨_, by simp only [Operator.meaning, objects, if_true]; rfl, ?_⟩
      refine List.forall_mem_singleton.mpr ?_
      exact ⟨admits.groupedUnder key, depth_groupedUnder_le key elements⟩
  | sortBy key =>
      obtain ⟨elements, rfl⟩ := admits.exists_elements
      by_cases short : elements.length < 2
      · refine ⟨_, by simp only [Operator.meaning, short, if_true]; rfl, ?_⟩
        refine List.forall_mem_singleton.mpr ?_
        exact ⟨admits, Nat.le_refl _⟩
      · have objects := admits.all_isObject
        refine ⟨_, by simp only [Operator.meaning, short, objects, if_true, if_false]; rfl, ?_⟩
        refine List.forall_mem_singleton.mpr ?_
        obtain ⟨sorted, depth⟩ := admits.of_mem_iff fun _ => Json.mem_sortedUnder_iff
        exact ⟨sorted, by rw [depth]⟩
  | elements =>
      obtain ⟨elements, rfl⟩ := admits.exists_elements
      refine ⟨elements, rfl, ?_⟩
      intro result member
      have shallow := Json.depth_lt_of_mem member
      exact ⟨admits_list_iff.mp admits result member, by omega⟩
  | sort =>
      obtain ⟨elements, rfl⟩ := admits.exists_elements
      refine ⟨_, rfl, ?_⟩
      refine List.forall_mem_singleton.mpr ?_
      obtain ⟨sorted, depth⟩ := admits.of_mem_iff fun _ => Json.mem_sort_iff
      exact ⟨sorted, by rw [depth]⟩

theorem Admits.follow {constants : Constants} {schema last : Schema} {path : RulePath}
    {pipeline : Pipeline} (leads : schema.follow constants path = some (pipeline, last))
    (distinct : schema.Distinct) {value : Json} (admits : schema.Admits value) :
    ∃ results, pipeline.meaning value = some results ∧
      ∀ result ∈ results, last.Admits result ∧
        result.depth + schema.excess ≤ value.depth + last.excess := by
  induction path generalizing schema pipeline value with
  | nil =>
      cases leads
      refine ⟨[value], rfl, ?_⟩
      refine List.forall_mem_singleton.mpr ?_
      exact ⟨admits, Nat.le_refl _⟩
  | cons position rest induction =>
      obtain ⟨rule, others, picked, continues, rfl⟩ := follow_cons_eq_some.mp leads
      have applies := applies_of_mem_rules distinct (List.mem_of_getElem? picked)
      obtain ⟨middle, first, sound⟩ := applies.sound admits
      have later : ∀ reaching ∈ middle, ∃ results, others.meaning reaching = some results ∧
          ∀ result ∈ results, last.Admits result ∧
            result.depth + rule.output.excess ≤ reaching.depth + last.excess :=
        fun reaching member => induction continues (applies.distinct distinct)
            (sound reaching member).1
      cases found : flatMap? (Pipeline.meaning others) middle with
      | none =>
          obtain ⟨reaching, member, fails⟩ := flatMap?_eq_none_iff.mp found
          obtain ⟨results, succeeds, _⟩ := later reaching member
          simp [fails] at succeeds
      | some results =>
          refine ⟨results, by rw [Pipeline.meaning, first, Option.bind_some, found], ?_⟩
          intro result member
          obtain ⟨reaching, within, part, yields, listed⟩ := mem_of_flatMap? found member
          obtain ⟨again, yieldsAgain, admitted⟩ := later reaching within
          cases yields.symm.trans yieldsAgain
          have before := (sound reaching within).2
          have after := (admitted result listed).2
          exact ⟨(admitted result listed).1, by omega⟩

theorem distinct_of_follow {constants : Constants} {schema last : Schema} {path : RulePath}
    {pipeline : Pipeline} (leads : schema.follow constants path = some (pipeline, last))
    (distinct : schema.Distinct) : last.Distinct := by
  induction path generalizing schema pipeline with
  | nil =>
      cases leads
      exact distinct
  | cons position rest induction =>
      obtain ⟨rule, others, picked, continues, _⟩ := follow_cons_eq_some.mp leads
      have applies := applies_of_mem_rules distinct (List.mem_of_getElem? picked)
      exact induction continues (applies.distinct distinct)

theorem follow_unique {constants : Constants} {schema last other : Schema} {path again : RulePath}
    {pipeline : Pipeline} (distinct : schema.Distinct)
    (leads : schema.follow constants path = some (pipeline, last))
    (leadsAgain : schema.follow constants again = some (pipeline, other)) : last = other := by
  induction path generalizing schema pipeline again with
  | nil =>
      cases leads
      cases again with
      | nil =>
          cases leadsAgain
          rfl
      | cons position rest =>
          obtain ⟨_, _, _, _, impossible⟩ := follow_cons_eq_some.mp leadsAgain
          cases impossible
  | cons position rest induction =>
      obtain ⟨rule, others, picked, continues, rfl⟩ := follow_cons_eq_some.mp leads
      have applies := applies_of_mem_rules distinct (List.mem_of_getElem? picked)
      cases again with
      | nil => cases leadsAgain
      | cons position rest =>
          obtain ⟨rule', others', picked', continues', same⟩ := follow_cons_eq_some.mp leadsAgain
          obtain ⟨operator, rfl⟩ := List.cons.inj same
          have applies' := applies_of_mem_rules distinct (List.mem_of_getElem? picked')
          rw [← operator] at applies'
          rw [← applies.unique applies'] at continues'
          exact induction (applies.distinct distinct) continues continues'

end Schema

end FilterSynthesis
