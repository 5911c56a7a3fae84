import FilterSynthesis.Proofs.Json.Handover
import FilterSynthesis.Proofs.Program.Faithfulness
import FilterSynthesis.Proofs.Schema.Soundness
import FilterSynthesis.Proofs.Search.Exactness

namespace FilterSynthesis

theorem exists_mapM_of_forall {α β : Type} {change : α → Option β} {relates : α → β → Prop}
    {values : List α} (each : ∀ value ∈ values, ∃ result, change value = some result ∧
      relates value result) :
    ∃ results, values.mapM change = some results ∧
      ∀ result ∈ results, ∃ value ∈ values, relates value result := by
  induction values with
  | nil => exact ⟨[], rfl, by simp⟩
  | cons value rest induction =>
      obtain ⟨⟨first, here, related⟩, later⟩ := List.forall_mem_cons.mp each
      obtain ⟨others, there, origins⟩ := induction later
      refine ⟨first :: others, by simp [here, there], ?_⟩
      intro result member
      rcases List.mem_cons.mp member with rfl | member
      · exact ⟨value, List.mem_cons_self, related⟩
      · obtain ⟨origin, within, related⟩ := origins result member
        exact ⟨origin, List.mem_cons_of_mem _ within, related⟩

namespace Schema

theorem Admits.run {constants : Constants} {schema last : Schema} {path : RulePath}
    {pipeline : Pipeline} (leads : schema.follow constants path = some (pipeline, last))
    (distinct : schema.Distinct) {value : Json} (admits : schema.Admits value)
    (shallow : value.depth < outputNesting) :
    ∃ outputs, Filter.run pipeline.text value = .ok outputs ∧
      ∀ output ∈ outputs, Below last (of output) ∧ output.depth ≤ value.depth + 1 := by
  obtain ⟨results, succeeds, sound⟩ := admits.follow leads distinct
  have little := excess_le_one last
  have handed : ∀ result ∈ results, ∃ output, result.handedOn? = some output ∧
      (Below last (of output) ∧ output.depth ≤ value.depth + 1) := by
    intro result member
    obtain ⟨admitted, nested⟩ := sound result member
    obtain ⟨output, handed, shape, deep⟩ :=
      admitted.wellFormed.exists_handedOn (by omega)
    exact ⟨output, handed, shape ▸ admitted.below, by omega⟩
  obtain ⟨outputs, found, origins⟩ := exists_mapM_of_forall handed
  refine ⟨outputs, ?_, ?_⟩
  · rw [Filter.run_eq_ok_iff, Filter.oracle_pipeline, succeeds, Option.bind_some, found]
  · intro output member
    obtain ⟨_, _, held⟩ := origins output member
    exact held

theorem admits_common {values : List Json} (wellFormed : ∀ value ∈ values, value.WellFormed)
    {value : Json} (member : value ∈ values) : (common values).Admits value :=
  ⟨common_below member, wellFormed value member⟩

end Schema

/-- The rules are sound. A pipeline along a path of rules runs on every value that refines the
schema it starts from, and every output refines the schema it leads to and is nested at most one
level deeper. So no pipeline that a search reviews fails on one of the inputs it starts from. -/
theorem rules_are_sound :
    (∀ schema : Schema, schema.Distinct → ∀ value : Json, value.WellFormed →
      value.depth ≤ 126 → schema.Refines (Schema.of value) →
        ∀ constants path pipeline last, schema.follow constants path = some (pipeline, last) →
          ∃ outputs, Filter.run pipeline.text value = .ok outputs ∧
            ∀ output ∈ outputs, last.Refines (Schema.of output) ∧
              output.depth ≤ value.depth + 1) ∧
      ∀ problem : Problem,
        (∀ tried ∈ problem.spec.examples, tried.input.WellFormed ∧ tried.input.depth ≤ 126) →
          ∀ attempt ∈ (search problem
              (Schema.common (problem.spec.examples.map (·.input)))).attempts,
            ∀ tried ∈ problem.spec.examples,
              ∃ outputs, Filter.run attempt.pipeline.text tried.input = .ok outputs := by
  constructor
  · intro schema distinct value wellFormed shallow refines constants path pipeline last leads
    have admits : schema.Admits value :=
      ⟨(Schema.refines_iff_below distinct).mp refines, wellFormed⟩
    obtain ⟨outputs, succeeds, sound⟩ := admits.run leads distinct (Nat.lt_succ_of_le shallow)
    have reached := Schema.distinct_of_follow leads distinct
    refine ⟨outputs, succeeds, fun output member => ?_⟩
    obtain ⟨below, nested⟩ := sound output member
    exact ⟨(Schema.refines_iff_below reached).mpr below, nested⟩
  · intro problem inputs attempt member tried listed
    obtain ⟨_, explores⟩ := Search.exists_explores problem
      (Schema.common (problem.spec.examples.map (·.input)))
    obtain ⟨path, last, leads, _⟩ := explores.exists_follow member
    have wellFormed : ∀ value ∈ problem.spec.examples.map (·.input), value.WellFormed :=
      List.forall_mem_map.mpr fun other within => (inputs other within).1
    have admits := Schema.admits_common wellFormed (List.mem_map_of_mem listed)
    obtain ⟨outputs, succeeds, _⟩ := admits.run leads (Schema.distinct_common wellFormed)
      (Nat.lt_succ_of_le (inputs tried listed).2)
    exact ⟨outputs, succeeds⟩

theorem grouping_is_sound :
    (∃ outputs, Filter.run (Pipeline.text [.groupBy "a"]) (.array [.object [("a", .bool true)]]) =
        .ok outputs ∧
      ∀ output ∈ outputs,
        (Schema.list (.list (.dict [("a", .bool)] .bool))).Refines (Schema.of output) ∧
          output.depth ≤ 3) ∧
      ∀ attempt ∈ (search ⟨Filter.oracle,
          ⟨[⟨.array [.object [("a", .bool true)]], []⟩], .ofLiterals [], .aggregate⟩, 2, 1⟩
          (Schema.common [.array [.object [("a", .bool true)]]])).attempts,
        ∃ outputs, Filter.run attempt.pipeline.text (.array [.object [("a", .bool true)]]) =
          .ok outputs := by
  have wellFormed : (Json.array [.object [("a", .bool true)]]).WellFormed := by
    refine .array (List.forall_mem_singleton.mpr (.object (List.nodup_singleton _) ?_))
    exact List.forall_mem_singleton.mpr (.bool true)
  constructor
  · exact rules_are_sound.1 _ (Schema.distinct_of wellFormed) _ wellFormed (by decide) (by rfl)
      (.ofLiterals []) [0] _ _ rfl
  · intro attempt member
    exact rules_are_sound.2 ⟨Filter.oracle,
      ⟨[⟨.array [.object [("a", .bool true)]], []⟩], .ofLiterals [], .aggregate⟩, 2, 1⟩
      (List.forall_mem_singleton.mpr ⟨wellFormed, by decide⟩) attempt member _ List.mem_cons_self

end FilterSynthesis
