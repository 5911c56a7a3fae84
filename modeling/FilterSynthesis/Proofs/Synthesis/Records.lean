import FilterSynthesis.Proofs.Evaluation
import FilterSynthesis.Proofs.Synthesis.Answers
import FilterSynthesis.Proofs.Synthesis.Exhaustion

namespace FilterSynthesis

/-- A pipeline within the depth; or a record for examples that no such pipeline fits. All examples
of a record have objects as their first outputs, and the members of the first of these are
`first`. -/
inductive Program.HasShape (task : Task) (constants : Constants) : Program → List Example → Prop
  | pipeline {operators : Pipeline} {examples : List Example}
      (short : operators.length ≤ task.settings.depth) :
      HasShape task constants (.pipeline operators) examples
  | record {fields : List (String × Program)} {examples : List Example}
      {first : List (String × Json)} {rest : List (List (String × Json))}
      (projected : String → List Example) (exhausted : task.Exhausted constants examples)
      (objects : examples.map (·.output.head?) =
        (first :: rest).map fun members => some (.object members))
      (keys : Entries.keys fields =
        (Entries.keys first).filter fun key => ∀ members ∈ rest, key ∈ Entries.keys members)
      (distinct : (Entries.keys fields).Nodup)
      (projects : ∀ field ∈ fields,
        List.Forall₂ (Example.ProjectsTo field.1) examples (projected field.1))
      (each : ∀ field ∈ fields, HasShape task constants field.2 (projected field.1)) :
      HasShape task constants (.record fields) examples

namespace Schema

theorem keys_foldl_meet {rest : List (List (String × Json))} {lefts fields : List (String × Schema)}
    {left values : Schema}
    (shared : ((rest.map Json.object).map of).foldl meet (dict lefts left) = dict fields values) :
    Entries.keys fields =
      (Entries.keys lefts).filter fun key => ∀ members ∈ rest, key ∈ Entries.keys members := by
  induction rest generalizing lefts left with
  | nil =>
      cases shared
      simp
  | cons members rest induction =>
      have later : ((rest.map Json.object).map of).foldl meet
          (dict (meetFields lefts (ofMembers members))
            (left.meet (meetAll (Entries.values (ofMembers members))))) = dict fields values :=
                shared
      rw [induction later, keys_meetFields, keys_ofMembers, List.filter_filter]
      refine List.filter_congr fun key _ => ?_
      simp [Bool.and_comm]

theorem keys_common {first : List (String × Json)} {rest : List (List (String × Json))}
    {fields : List (String × Schema)} {values : Schema}
    (shared : common ((first :: rest).map Json.object) = dict fields values) :
    Entries.keys fields =
      (Entries.keys first).filter fun key => ∀ members ∈ rest, key ∈ Entries.keys members := by
  have begins : ((rest.map Json.object).map of).foldl meet
      (dict (ofMembers first) (meetAll (Entries.values (ofMembers first)))) =
        dict fields values := shared
  rw [keys_foldl_meet begins, keys_ofMembers]

theorem exists_objects_of_common {values : List Json} {fields : List (String × Schema)}
    {rest : Schema} (shared : common values = dict fields rest) :
    ∃ first others, values = (first :: others).map Json.object := by
  have objects : ∀ value ∈ values, value ∈ Set.range Json.object := by
    intro value member
    obtain ⟨members, rfl⟩ := isObject_of_common shared member
    exact ⟨members, rfl⟩
  obtain ⟨all, rfl⟩ := (Set.range_list_map Json.object).ge objects
  cases all with
  | nil => cases shared
  | cons first others => exact ⟨first, others, rfl⟩

end Schema

namespace Synthesis

variable {task : Task} {constants : Constants} {examples : List Example}

theorem wellFormed_under
    (wellFormed : ∀ tried ∈ examples, ∀ output ∈ tried.output, output.WellFormed) (key : String) :
    ∀ tried ∈ examples.map (·.under key), ∀ output ∈ tried.output, output.WellFormed := by
  refine List.forall_mem_map.mpr fun tried member output listed => ?_
  obtain ⟨head, first, rfl⟩ := List.mem_map.mp listed
  exact (wellFormed tried member head (List.mem_of_mem_take first)).project key

theorem shape_of_assembled (exhausted : task.Exhausted constants examples)
    (wellFormed : ∀ tried ∈ examples, ∀ output ∈ tried.output, output.WellFormed)
    (smaller : ∀ key found, headDepth (examples.map (·.under key)) < headDepth examples →
      (programs task (examples.map (·.under key)) constants 1).result = .ok found →
        ∀ program ∈ found, program.HasShape task constants (examples.map (·.under key)))
    {program : Program}
    (ends : (assembled task examples constants task.settings.depth).result = .ok program) :
    program.HasShape task constants examples := by
  obtain ⟨heads, firsts, ⟨fields, values, record, shared, keys, found, reviewed⟩ |
    ⟨_, candidate, wraps, reviewed⟩⟩ := exists_heads_of_assembled ends
  · obtain ⟨first, rest, rfl⟩ := Schema.exists_objects_of_common shared
    obtain rfl := eq_of_verified reviewed
    have order := Schema.keys_common shared
    have objects := heads?_eq_some_iff.mp firsts
    rw [List.map_map] at objects
    refine .record (fun key => examples.map (·.under key)) exhausted objects (keys.trans order) ?_
      (fun field member => ?_) fun field member => ?_
    · obtain ⟨tried, listed, others, output⟩ := exists_tried firsts List.mem_cons_self
      have head :=
          wellFormed tried listed (.object first) (by rw [output]; exact List.mem_cons_self)
      rw [keys, order]
      cases head with
      | object distinct each => exact distinct.filter _
    · have listed : field.1 ∈ Entries.keys fields := keys ▸ List.mem_map_of_mem member
      rw [← withOutputs_project firsts]
      exact projectsTo_withOutputs firsts ((Schema.mem_keys_common_iff shared).mp listed)
    · obtain ⟨others, here⟩ := found field member
      have fewer := headDepth_project_lt firsts shared field.1
      rw [withOutputs_project firsts] at here fewer
      exact smaller field.1 _ fewer here field.2 List.mem_cons_self
  · obtain rfl := eq_of_verified reviewed
    obtain ⟨_, pipeline, path, last, rfl, _, leads, within⟩ := exists_pipeline_of_wrapped wraps
    exact .pipeline (Schema.length_of_follow leads ▸ within)

theorem shape_of_programs
    (wellFormed : ∀ tried ∈ examples, ∀ output ∈ tried.output, output.WellFormed) {wanted : Nat}
    {found : List Program} (ends : (programs task examples constants wanted).result = .ok found) :
    ∀ program ∈ found, program.HasShape task constants examples := by
  induction bound : headDepth examples using Nat.strongRecOn generalizing examples wanted found with
  | ind depth induction =>
      rcases exhausted_or_found task constants examples wanted with
        exhausted | ⟨pipelines, searched, short⟩
      · rw [result_programs_of_exhausted exhausted] at ends
        cases ended : (assembled task examples constants task.settings.depth).result with
        | error error =>
            rw [ended] at ends
            cases ends
        | ok program =>
            rw [ended] at ends
            cases ends
            refine List.forall_mem_singleton.mpr
              (shape_of_assembled exhausted wellFormed (fun key found fewer here => ?_) ended)
            exact induction _ (bound ▸ fewer) (wellFormed_under wellFormed key) here rfl
      · cases searched.symm.trans ends
        exact List.forall_mem_map.mpr fun pipeline member => .pipeline (short pipeline member)

theorem eq_singleton_of_record {wanted : Nat} {found : List Program}
    (ends : (programs task examples constants wanted).result = .ok found)
    {fields : List (String × Program)} (listed : .record fields ∈ found) :
    found = [.record fields] := by
  rcases programs_cases ends with ⟨first, others, rfl, _⟩ | ⟨program, rfl, _⟩
  · obtain ⟨_, _, equal⟩ := List.mem_map.mp listed
    cases equal
  · rw [List.mem_singleton.mp listed]

end Synthesis

/-- A record that synthesis answers is its only answer, and it has the shape of a record: no
pipeline within the depth fits, the first outputs are objects, the keys are those that all of these
have, in the order of the first, and the program of each field has a shape for what they hold under
its key. -/
theorem records_have_shape (oracle : Oracle) (settings : Settings) (examples : List Example)
    (constants : List Literal)
    (wellFormed : ∀ tried ∈ examples, ∀ output ∈ tried.output, output.WellFormed)
    (found : List Program)
    (ends : (Synthesis.run oracle settings examples constants).result = .ok found)
    (fields : List (String × Program)) (listed : .record fields ∈ found) :
    found = [.record fields] ∧
      Program.HasShape ⟨oracle, settings, Schema.common (examples.map (·.input))⟩
        (.ofLiterals constants) (.record fields) examples := by
  by_cases empty : examples = []
  · subst empty
    cases ends
  · rw [Synthesis.run_of_ne_nil empty] at ends
    exact ⟨Synthesis.eq_singleton_of_record ends listed,
      Synthesis.shape_of_programs wellFormed ends _ listed⟩

theorem shared_fields_keep_order :
    (Synthesis.run Filter.oracle ⟨0, 2, .aggregate, false⟩
        [⟨.bool true,
        [.object [("b", .bool true), ("x", .null), ("a", .object [("c", .bool true)])]]⟩,
          ⟨.bool false, [.object [("a", .object [("c", .bool false)]), ("b", .bool false)]]⟩]
        []).result =
      .ok [.record [("b", .pipeline .identity), ("a", .record [("c", .pipeline .identity)])]] ∧
    Program.HasShape ⟨Filter.oracle, ⟨0, 2, .aggregate, false⟩, .bool⟩ (.ofLiterals [])
      (.record [("b", .pipeline .identity), ("a", .record [("c", .pipeline .identity)])])
      [⟨.bool true,
      [.object [("b", .bool true), ("x", .null), ("a", .object [("c", .bool true)])]]⟩,
        ⟨.bool false, [.object [("a", .object [("c", .bool false)]), ("b", .bool false)]]⟩] := by
  have ends : (Synthesis.run Filter.oracle ⟨0, 2, .aggregate, false⟩
      [⟨.bool true,
      [.object [("b", .bool true), ("x", .null), ("a", .object [("c", .bool true)])]]⟩,
        ⟨.bool false, [.object [("a", .object [("c", .bool false)]), ("b", .bool false)]]⟩]
      []).result =
    .ok [.record [("b", .pipeline .identity), ("a", .record [("c", .pipeline .identity)])]] := by
        cbv
  have inner : ∀ value, (Json.object [("c", .bool value)]).WellFormed := fun value =>
    .object (List.nodup_singleton _) (List.forall_mem_singleton.mpr (.bool value))
  refine ⟨ends, (records_have_shape Filter.oracle _ _ [] ?_ _ ends _ List.mem_cons_self).2⟩
  refine List.forall_mem_cons.mpr ⟨?_, List.forall_mem_singleton.mpr ?_⟩
  · refine List.forall_mem_singleton.mpr (.object (by decide) ?_)
    exact List.forall_mem_cons.mpr ⟨.bool true, List.forall_mem_cons.mpr
      ⟨.null, List.forall_mem_singleton.mpr (inner true)⟩⟩
  · refine List.forall_mem_singleton.mpr (.object (by decide) ?_)
    exact List.forall_mem_cons.mpr ⟨inner false, List.forall_mem_singleton.mpr (.bool false)⟩

end FilterSynthesis
