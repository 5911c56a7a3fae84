import FilterSynthesis.Proofs.Evaluation
import FilterSynthesis.Proofs.Synthesis.Success

namespace FilterSynthesis

/-- The second example asks, for the same input, for what the first output of the first holds under
a key. -/
def Example.ProjectsTo (key : String) (tried projected : Example) : Prop :=
  ∃ head others held, tried.output = head :: others ∧ head.lookup? key = some held ∧
    projected = ⟨tried.input, [held]⟩

/-- The oracle accepts the program for the examples and, in a record, the program of each field for
the examples projected to it. -/
inductive Oracle.Certifies (oracle : Oracle) : Program → List Example → Prop
  | pipeline {operators : Pipeline} {examples : List Example}
      (accepted : oracle.Accepts (Program.pipeline operators).text examples) :
      Certifies oracle (.pipeline operators) examples
  | record {fields : List (String × Program)} {examples : List Example}
      (projected : String → List Example)
      (accepted : oracle.Accepts (Program.record fields).text examples)
      (projects : ∀ field ∈ fields,
        List.Forall₂ (Example.ProjectsTo field.1) examples (projected field.1))
      (each : ∀ field ∈ fields, Certifies oracle field.2 (projected field.1)) :
      Certifies oracle (.record fields) examples

namespace Synthesis

variable {task : Task} {constants : Constants} {examples : List Example} {heads : List Json}
  {depth : Nat}

theorem projectsTo_withOutputs {key : String} (firsts : heads? examples = some heads)
    (held : ∀ head ∈ heads, ∃ value, head.lookup? key = some value) :
    List.Forall₂ (Example.ProjectsTo key) examples
      (withOutputs examples (heads.map (project key))) := by
  induction examples generalizing heads with
  | nil => exact .nil
  | cons first rest induction =>
      have equal := heads?_eq_some_iff.mp firsts
      cases heads with
      | nil => simp at equal
      | cons head heads =>
          rw [List.map_cons, List.map_cons, List.cons.injEq] at equal
          obtain ⟨others, output⟩ := List.head?_eq_some_iff.mp equal.1
          obtain ⟨⟨value, here⟩, there⟩ := List.forall_mem_cons.mp held
          refine .cons ⟨head, others, value, output, here, ?_⟩
            (induction (heads?_eq_some_iff.mpr equal.2) there)
          simp only [project, here, Option.getD_some]

theorem certified_of_assembled (verifies : task.settings.verifyAssembled = true)
    (smaller : ∀ others found, headDepth others < headDepth examples →
      (programs task others constants 1).result = .ok found →
        ∀ program ∈ found, task.oracle.Certifies program others)
    {program : Program} (ends : (assembled task examples constants depth).result = .ok program) :
    task.oracle.Certifies program examples := by
  obtain ⟨heads, firsts, ⟨fields, values, record, shared, keys, found, reviewed⟩ |
    ⟨_, candidate, wraps, reviewed⟩⟩ := exists_heads_of_assembled ends
  · obtain ⟨rfl, accepts⟩ := accepts_of_verified verifies reviewed
    refine .record (fun key => withOutputs examples (heads.map (project key))) accepts
      (fun field member => ?_) fun field member => ?_
    · have listed : field.1 ∈ Entries.keys fields := keys ▸ List.mem_map_of_mem member
      exact projectsTo_withOutputs firsts ((Schema.mem_keys_common_iff shared).mp listed)
    · obtain ⟨others, here⟩ := found field member
      exact smaller _ _ (headDepth_project_lt firsts shared field.1) here field.2
        List.mem_cons_self
  · obtain ⟨rfl, accepts⟩ := accepts_of_verified verifies reviewed
    obtain ⟨_, pipeline, _, _, rfl, _⟩ := exists_pipeline_of_wrapped wraps
    exact .pipeline accepts

theorem certified_of_programs (verifies : task.settings.verifyAssembled = true) {wanted : Nat}
    {found : List Program} (ends : (programs task examples constants wanted).result = .ok found) :
    ∀ program ∈ found, task.oracle.Certifies program examples := by
  induction bound : headDepth examples using Nat.strongRecOn generalizing examples wanted found with
  | ind depth induction =>
      rcases programs_cases ends with ⟨first, others, rfl, accepted⟩ | ⟨program, rfl, ended⟩
      · exact List.forall_mem_map.mpr fun pipeline member => .pipeline (accepted pipeline member).1
      · refine List.forall_mem_singleton.mpr (certified_of_assembled verifies ?_ ended)
        intro others found fewer here
        exact induction _ (bound ▸ fewer) here rfl

end Synthesis

/-- Every answer of a synthesis with a final review is accepted for the examples, and so is, on
every level of a record, the program of each field for the examples projected to the field. -/
theorem answers_are_sound (oracle : Oracle) (settings : Settings)
    (verifies : settings.verifyAssembled = true) (examples : List Example)
    (constants : List Literal) (found : List Program)
    (ends : (Synthesis.run oracle settings examples constants).result = .ok found) :
    ∀ program ∈ found, oracle.Certifies program examples := by
  by_cases empty : examples = []
  · subst empty
    cases ends
  · rw [Synthesis.run_of_ne_nil empty] at ends
    exact Synthesis.certified_of_programs verifies ends

theorem nested_record_is_certified :
    (Synthesis.run Filter.oracle ⟨1, 2, .aggregate, true⟩
        [⟨.object [("a", .bool true)], [.object [("v", .object [("w", .bool true)])]]⟩] []).result =
      .ok [.record [("v", .record [("w", .pipeline [.index "a"])])]] ∧
    Filter.oracle.Certifies (.record [("v", .record [("w", .pipeline [.index "a"])])])
      [⟨.object [("a", .bool true)], [.object [("v", .object [("w", .bool true)])]]⟩] := by
  have ends : (Synthesis.run Filter.oracle ⟨1, 2, .aggregate, true⟩
      [⟨.object [("a", .bool true)], [.object [("v", .object [("w", .bool true)])]]⟩] []).result =
        .ok [.record [("v", .record [("w", .pipeline [.index "a"])])]] := by cbv
  exact ⟨ends, answers_are_sound Filter.oracle _ rfl _ [] _ ends _ List.mem_cons_self⟩

end FilterSynthesis
