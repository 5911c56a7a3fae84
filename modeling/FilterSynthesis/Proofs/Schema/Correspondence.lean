import FilterSynthesis.Proofs.Schema.Lattice
import FilterSynthesis.Proofs.Schema.Soundness

namespace FilterSynthesis

namespace Constants

def Within (few many : Constants) : Prop := ∀ literal ∈ few.all, literal ∈ many.all

theorem mem_all_ofLiterals {literals : List Literal} {literal : Literal} :
    literal ∈ (ofLiterals literals).all ↔ literal ∈ literals := by
  induction literals with
  | nil => simp [ofLiterals, all, boolLiterals, intLiterals, strLiterals]
  | cons first rest induction =>
      simp only [all, boolLiterals, intLiterals, strLiterals, List.mem_append,
        List.mem_map] at induction
      rw [List.mem_cons, ← induction]
      cases first <;> cases literal <;>
        simp [ofLiterals, all, boolLiterals, intLiterals, strLiterals]

theorem within_ofLiterals {few many : List Literal} (within : ∀ literal ∈ few, literal ∈ many) :
    (ofLiterals few).Within (ofLiterals many) :=
  fun literal member => mem_all_ofLiterals.mpr (within literal (mem_all_ofLiterals.mp member))

end Constants

namespace Schema

variable {left right : Schema} {few many : Constants}

/-- A field of the schema can hold the literal. -/
def Holds : Schema → Literal → Prop
  | .any, _ | .bool, .bool _ | .int, .int _ | .str, .str _ => True
  | _, _ => False

theorem mem_comparable_iff {constants : Constants} {field : Schema} {literal : Literal} :
    literal ∈ field.comparable constants ↔ literal ∈ constants.all ∧ field.Holds literal := by
  cases field <;> cases literal <;>
    simp [comparable, Holds, Constants.all, Constants.boolLiterals, Constants.intLiterals,
      Constants.strLiterals]

theorem mem_rules_dict_iff {constants : Constants} {fields : List (String × Schema)}
    {values : Schema} {rule : Rule} :
    rule ∈ (dict fields values).rules constants ↔
      (∃ key field, (key, field) ∈ fields ∧ (rule = ⟨.index key, field⟩ ∨
        ∃ literal ∈ field.comparable constants,
          rule = ⟨.select key literal, dict fields values⟩)) ∨
      rule = ⟨.forEach, values⟩ ∨ rule = ⟨.keys, .list .str⟩ := by
  simp only [rules, fieldRules, List.mem_append, List.mem_flatMap, List.mem_cons, List.mem_map,
    List.not_mem_nil, or_false, Prod.exists, eq_comm]

theorem mem_rules_list_iff {constants : Constants} {element : Schema} {rule : Rule} :
    rule ∈ (list element).rules constants ↔
      rule ∈ elementRules (list element) element ∨ rule = ⟨.forEach, element⟩ ∨
        rule = ⟨.sort, list element⟩ := by
  simp only [rules, List.mem_append, List.mem_cons, List.not_mem_nil, or_false]

theorem mem_elementRules_dict_iff {whole : Schema} {fields : List (String × Schema)}
    {values : Schema} {rule : Rule} :
    rule ∈ elementRules whole (dict fields values) ↔
      ∃ key ∈ Entries.keys fields, rule = ⟨.groupBy key, .list whole⟩ ∨
          rule = ⟨.sortBy key, whole⟩ := by
  simp only [elementRules, List.mem_flatMap, List.mem_cons, List.not_mem_nil, or_false]

theorem Alike.holds (alike : Alike left right) {literal : Literal} (holds : left.Holds literal) :
    right.Holds literal := by
  obtain ⟨below, above⟩ := alike
  cases below with
  | any | bool | int | str => cases above; exact holds
  | _ => exact holds.elim

theorem Alike.exists_elementRule (alike : Alike left right) {rule : Rule}
    (member : rule ∈ elementRules (list left) left) :
    ∃ other ∈ elementRules (list right) right, other.operator = rule.operator ∧
      Alike rule.output other.output := by
  have whole := alike_list_iff.mpr alike
  cases left with
  | bool | any =>
      obtain ⟨below, above⟩ := alike
      cases below <;> cases above
      exact ⟨rule, member, rfl, .refl _⟩
  | dict fields values =>
      obtain ⟨others, rest, rfl⟩ := alike.exists_dict
      obtain ⟨key, listed, rule⟩ := mem_elementRules_dict_iff.mp member
      have there := ((alike_dict_iff.mp alike).1 key).mp listed
      rcases rule with rfl | rfl
      · exact ⟨_, mem_elementRules_dict_iff.mpr ⟨key, there, .inl rfl⟩, rfl,
          alike_list_iff.mpr whole⟩
      · exact ⟨_, mem_elementRules_dict_iff.mpr ⟨key, there, .inr rfl⟩, rfl, whole⟩
  | _ => simp [elementRules] at member

/-- For every rule of a schema an alike schema has one with the same operator and an alike
output. -/
theorem Alike.exists_rule (alike : Alike left right) (distinct : left.Distinct)
    (within : few.Within many) {rule : Rule} (member : rule ∈ left.rules few) :
    ∃ other ∈ right.rules many, other.operator = rule.operator ∧
      Alike rule.output other.output := by
  cases distinct with
  | list _ =>
      obtain ⟨element, rfl⟩ := alike.exists_list
      have elements := alike_list_iff.mp alike
      rcases mem_rules_list_iff.mp member with special | rfl | rfl
      · obtain ⟨other, listed, operator, output⟩ := elements.exists_elementRule special
        exact ⟨other, mem_rules_list_iff.mpr (.inl listed), operator, output⟩
      · exact ⟨_, mem_rules_list_iff.mpr (.inr (.inl rfl)), rfl, elements⟩
      · exact ⟨_, mem_rules_list_iff.mpr (.inr (.inr rfl)), rfl, alike⟩
  | dict keys _ _ =>
      obtain ⟨others, rest, rfl⟩ := alike.exists_dict
      obtain ⟨agree, fields, values⟩ := alike_dict_iff.mp alike
      rcases mem_rules_dict_iff.mp member with ⟨key, field, listed, rule⟩ | rfl | rfl
      · obtain ⟨other, found⟩ := Entries.mem_keys_iff.mp
          ((agree key).mp (List.mem_map_of_mem listed))
        have there := Entries.mem_of_lookup found
        have same := fields key field other (Entries.lookup_of_mem keys listed) found
        rcases rule with rfl | ⟨literal, comparable, rfl⟩
        · exact ⟨_, mem_rules_dict_iff.mpr (.inl ⟨key, other, there, .inl rfl⟩), rfl, same⟩
        · obtain ⟨known, holds⟩ := mem_comparable_iff.mp comparable
          have offered := mem_comparable_iff.mpr ⟨within literal known, same.holds holds⟩
          exact ⟨_, mem_rules_dict_iff.mpr (.inl ⟨key, other, there, .inr ⟨literal, offered, rfl⟩⟩),
            rfl, alike⟩
      · exact ⟨_, mem_rules_dict_iff.mpr (.inr (.inl rfl)), rfl, values⟩
      · exact ⟨_, mem_rules_dict_iff.mpr (.inr (.inr rfl)), rfl, .refl _⟩
  | _ => simp [rules] at member

theorem Alike.exists_follow (alike : Alike left right) (distinct : left.Distinct)
    (within : few.Within many) {path : RulePath} {pipeline : Pipeline} {last : Schema}
    (leads : left.follow few path = some (pipeline, last)) :
    ∃ other reached, right.follow many other = some (pipeline, reached) ∧
      other.length = path.length := by
  induction path generalizing left right pipeline with
  | nil =>
      cases leads
      exact ⟨[], right, rfl, rfl⟩
  | cons position rest induction =>
      obtain ⟨rule, operators, picked, continues, rfl⟩ := follow_cons_eq_some.mp leads
      have member := List.mem_of_getElem? picked
      obtain ⟨other, listed, operator, output⟩ := alike.exists_rule distinct within member
      obtain ⟨place, there⟩ := List.mem_iff_getElem?.mp listed
      have further := (applies_of_mem_rules distinct member).distinct distinct
      obtain ⟨path, reached, onward, length⟩ := induction output further continues
      refine ⟨place :: path, reached, ?_, by simp [length]⟩
      exact follow_cons_eq_some.mpr ⟨other, operators, there, onward, by rw [operator]⟩

end Schema

end FilterSynthesis
