import FilterSynthesis.Proofs.Search.Exactness
import FilterSynthesis.Proofs.Synthesis.Solvability

namespace FilterSynthesis

structure Program.Solves (program : Program) (examples : List Example) : Prop where
  distinct : program.HasDistinctKeys
  reproduces : program.Reproduces examples

namespace Synthesis

variable {settings : Settings} {schema : Schema} {constants : Constants} {examples : List Example}
  {task : Task} {depth : Nat}

/-- The search for pipelines finds none just if no path of limited length leads to one that the
oracle accepts, and otherwise ends with such pipelines. -/
theorem result_pipelines (task : Task) (constants : Constants) (examples : List Example)
    (depth wanted : Nat) :
    ((pipelines task examples constants depth wanted).result = .ok (.exhausted depth) ∧
      ∀ path pipeline last, task.schema.follow constants path = some (pipeline, last) →
        path.length ≤ depth → ¬task.oracle.Accepts pipeline.text examples) ∨
    ∃ first others, (pipelines task examples constants depth wanted).result =
        .ok (.found first others) ∧
      ∀ pipeline ∈ first :: others, task.oracle.Accepts pipeline.text examples ∧
        ∃ path last, task.schema.follow constants path = some (pipeline, last) ∧
          path.length ≤ depth := by
  obtain ⟨tried, explores⟩ := Search.exists_explores
    ⟨task.oracle, spec task examples constants, depth, wanted⟩ task.schema
  have fits_iff : ∀ pipeline : Pipeline, Problem.fits
      ⟨task.oracle, spec task examples constants, depth, wanted⟩ pipeline = true ↔
        task.oracle.Accepts pipeline.text examples :=
    fun _ => (Oracle.accepts_iff task.settings.policy).symm
  unfold pipelines
  dsimp only
  cases outcome : (search _ task.schema).outcome with
  | exhausted reached =>
      obtain ⟨rfl, unfit⟩ := (explores.exhausted_iff reached).mp outcome
      refine Or.inl ⟨rfl, fun path pipeline last leads within accepts => ?_⟩
      have unfit := unfit path pipeline last leads within
      rw [(fits_iff pipeline).mpr accepts] at unfit
      cases unfit
  | found first others =>
      have found_eq := explores.found_eq
      rw [outcome] at found_eq
      refine Or.inr ⟨first, others, rfl, fun pipeline member => ?_⟩
      have listed : pipeline ∈ (Outcome.found first others).pipelines := member
      rw [found_eq] at listed
      obtain ⟨path, kept, rfl⟩ := List.mem_map.mp listed
      obtain ⟨among, fits⟩ := List.mem_filter.mp kept
      obtain ⟨⟨⟨pipeline, last⟩, leads⟩, within, _⟩ := explores.tries path among
      rw [Problem.pipelineAt_of_follow _ leads] at fits ⊢
      exact ⟨(fits_iff pipeline).mp fits, path, last, leads, within⟩

theorem pipelines_cases (settings : Settings) (schema : Schema) (constants : Constants)
    (examples : List Example) (depth wanted : Nat) :
    ((pipelines ⟨Filter.oracle, settings, schema⟩ examples constants depth wanted).result =
        .ok (.exhausted depth) ∧ ¬IsReachable schema constants depth examples) ∨
    ∃ first others,
      (pipelines ⟨Filter.oracle, settings, schema⟩ examples constants depth wanted).result =
        .ok (.found first others) ∧ IsReachable schema constants depth examples := by
  have reproduces_iff : ∀ pipeline : Pipeline, Filter.oracle.Accepts pipeline.text examples ↔
      (Program.pipeline pipeline).Reproduces examples :=
    fun pipeline => Program.accepts_iff_reproduces (.pipeline pipeline) examples
  rcases result_pipelines ⟨Filter.oracle, settings, schema⟩ constants examples depth wanted with
    ⟨nothing, unfit⟩ | ⟨first, others, something, accepted⟩
  · refine Or.inl ⟨nothing, ?_⟩
    intro reachable
    obtain ⟨path, pipeline, last, leads, within, reproduces⟩ := reachable
    exact unfit path pipeline last leads within ((reproduces_iff pipeline).mpr reproduces)
  · obtain ⟨accepts, path, last, leads, within⟩ := accepted first List.mem_cons_self
    exact Or.inr ⟨_, _, something, path, first, last, leads, within,
      (reproduces_iff first).mp accepts⟩

theorem programs_cases {wanted : Nat} {found : List Program}
    (ends : (programs task examples constants wanted).result = .ok found) :
    (∃ first others, found = (first :: others).map Program.pipeline ∧
      ∀ pipeline ∈ first :: others, task.oracle.Accepts pipeline.text examples ∧
        ∃ path last, task.schema.follow constants path = some (pipeline, last) ∧
          path.length ≤ task.settings.depth) ∨
    ∃ program, found = [program] ∧
      (assembled task examples constants task.settings.depth).result = .ok program := by
  rw [programs] at ends
  obtain ⟨outcome, searched, ends⟩ := Trace.result_bind_eq_ok_iff.mp ends
  rcases result_pipelines task constants examples task.settings.depth wanted with
    ⟨nothing, _⟩ | ⟨first, others, something, accepted⟩
  · cases nothing.symm.trans searched
    obtain ⟨program, ended, rfl⟩ := Trace.result_map_eq_ok_iff.mp ends
    exact Or.inr ⟨program, rfl, ended⟩
  · cases something.symm.trans searched
    cases ends
    exact Or.inl ⟨first, others, rfl, accepted⟩

/-- A pipeline for the first outputs alone is accepted for these, and is only searched for if an
example asks for another number of outputs than one. -/
theorem exists_pipeline_of_wrapped {heads : List Json} {program : Program}
    (ends : (wrapped task examples heads constants depth).result = .ok program) :
    (∃ tried ∈ examples, tried.output.length ≠ 1) ∧
      ∃ pipeline path last, program = .pipeline pipeline ∧
        task.oracle.Accepts pipeline.text (withOutputs examples heads) ∧
          task.schema.follow constants path = some (pipeline, last) ∧ path.length ≤ depth := by
  unfold wrapped at ends
  split at ends
  · cases ends
  · rename_i several
    refine ⟨by simpa using several, ?_⟩
    obtain ⟨found, searched, ends⟩ := Trace.result_bind_eq_ok_iff.mp ends
    rcases result_pipelines task constants (withOutputs examples heads) depth 1 with
      ⟨nothing, _⟩ | ⟨first, others, something, accepted⟩
    · cases nothing.symm.trans searched
      cases ends
    · cases something.symm.trans searched
      cases ends
      obtain ⟨accepts, path, last, leads, within⟩ := accepted first List.mem_cons_self
      exact ⟨first, path, last, rfl, accepts, leads, within⟩

theorem verified_cases (task : Task) (constants : Constants) (examples : List Example)
    (program : Program) :
    ((verified task examples constants program).result = .ok program ∧
      (task.settings.verifyAssembled = true → task.oracle.Accepts program.text examples)) ∨
    (verified task examples constants program).result = .error (.unverified program.text) ∧
      task.settings.verifyAssembled = true ∧ ¬task.oracle.Accepts program.text examples := by
  unfold verified
  split
  · rename_i verifies
    dsimp only
    split
    · rename_i found
      exact .inl ⟨rfl, fun _ => (Oracle.accepts_iff task.settings.policy).mpr found⟩
    · rename_i refuses
      exact .inr ⟨rfl, verifies, fun accepts => refuses (accepts task.settings.policy)⟩
  · rename_i waives
    exact .inl ⟨rfl, fun verifies => absurd verifies waives⟩

theorem eq_of_verified {program result : Program}
    (ends : (verified task examples constants program).result = .ok result) : result = program := by
  rcases verified_cases task constants examples program with ⟨passed, _⟩ | ⟨refused, _⟩
  · exact Except.ok.inj (ends.symm.trans passed)
  · cases ends.symm.trans refused

theorem accepts_of_verified (verifies : task.settings.verifyAssembled = true)
    {program result : Program}
    (ends : (verified task examples constants program).result = .ok result) :
    result = program ∧ task.oracle.Accepts program.text examples := by
  refine ⟨eq_of_verified ends, ?_⟩
  rcases verified_cases task constants examples program with ⟨_, accepts⟩ | ⟨refused, _⟩
  · exact accepts verifies
  · cases ends.symm.trans refused

theorem verified_of_waived (waives : task.settings.verifyAssembled = false) (program : Program) :
    (verified task examples constants program).result = .ok program := by
  rcases verified_cases task constants examples program with ⟨passed, _⟩ | ⟨_, verifies, _⟩
  · exact passed
  · cases waives.symm.trans verifies

theorem verified_of_reproduces {program : Program} (reproduces : program.Reproduces examples) :
    (verified ⟨Filter.oracle, settings, schema⟩ examples constants program).result =
        .ok program := by
  rcases verified_cases ⟨Filter.oracle, settings, schema⟩ constants examples program with
    ⟨passed, _⟩ | ⟨_, _, refuses⟩
  · exact passed
  · exact absurd ((Program.accepts_iff_reproduces program examples).mpr reproduces) refuses

theorem verified_of_not_reproduces (verifies : settings.verifyAssembled = true) {program : Program}
    (fails : ¬program.Reproduces examples) :
    (verified ⟨Filter.oracle, settings, schema⟩ examples constants program).result =
      .error (.unverified program.text) := by
  rcases verified_cases ⟨Filter.oracle, settings, schema⟩ constants examples program with
    ⟨_, accepts⟩ | ⟨refused, _⟩
  · exact absurd ((Program.accepts_iff_reproduces program examples).mp (accepts verifies)) fails
  · exact refused

theorem reproduces_of_verified (verifies : settings.verifyAssembled = true)
    {program result : Program}
    (ends : (verified ⟨Filter.oracle, settings, schema⟩ examples constants program).result =
      .ok result) : result = program ∧ program.Reproduces examples := by
  obtain ⟨equal, accepts⟩ := accepts_of_verified verifies ends
  exact ⟨equal, (Program.accepts_iff_reproduces program examples).mp accepts⟩

variable {heads : List Json} {bound : Nat}
  {fewer : ∀ key, headDepth (withOutputs examples (heads.map (project key))) < bound}

theorem fields_of_fieldPrograms {keys : List String} {record : List (String × Program)}
    (ends : (fieldPrograms task examples heads bound fewer constants depth keys).result =
      .ok record) :
    Entries.keys record = keys ∧ ∀ field ∈ record, ∃ others,
      (programs task (withOutputs examples (heads.map (project field.1))) constants 1).result =
        .ok (field.2 :: others) := by
  induction keys generalizing record with
  | nil =>
      rw [fieldPrograms] at ends
      cases ends
      exact ⟨rfl, by simp⟩
  | cons key rest induction =>
      rw [fieldPrograms] at ends
      obtain ⟨found, here, ends⟩ := Trace.result_bind_eq_ok_iff.mp ends
      cases found with
      | nil => cases ends
      | cons program others =>
          obtain ⟨record, there, rfl⟩ := Trace.result_map_eq_ok_iff.mp ends
          obtain ⟨keys, each⟩ := induction there
          refine ⟨?_, List.forall_mem_cons.mpr ⟨⟨others, here⟩, each⟩⟩
          rw [Entries.keys_cons, keys]

theorem exists_fieldPrograms {keys : List String}
    (each : ∀ key ∈ keys, ∃ program others,
      (programs task (withOutputs examples (heads.map (project key))) constants 1).result =
        .ok (program :: others)) :
    ∃ record, (fieldPrograms task examples heads bound fewer constants depth keys).result =
      .ok record := by
  induction keys with
  | nil =>
      rw [fieldPrograms]
      exact ⟨[], rfl⟩
  | cons key rest induction =>
      obtain ⟨⟨program, others, here⟩, later⟩ := List.forall_mem_cons.mp each
      obtain ⟨record, there⟩ := induction later
      rw [fieldPrograms]
      refine ⟨(key, program) :: record, ?_⟩
      rw [Trace.result_bind_of_ok here, Trace.result_map, there]
      rfl

theorem assembled_of_no_heads (nothing : heads? examples = none) :
    assembled task examples constants depth = .fail (.outOfDepth depth) := by
  rw [assembled]
  split
  · rfl
  · rename_i firsts
    cases nothing.symm.trans firsts

theorem assembled_of_dict (firsts : heads? examples = some heads)
    {fields : List (String × Schema)} {values : Schema}
    (shared : Schema.common heads = .dict fields values) :
    assembled task examples constants depth =
      (fieldPrograms task examples heads (headDepth examples)
        (fun key => headDepth_project_lt firsts shared key) constants depth
          (Entries.keys fields)).bind fun record => verified task examples constants
          (.record record) := by
  rw [assembled]
  split
  · rename_i nothing
    cases nothing.symm.trans firsts
  · rename_i others found
    cases firsts.symm.trans found
    split
    · rename_i again
      cases shared.symm.trans again
      rfl
    · rename_i noDict
      exact absurd shared (noDict fields values)

theorem assembled_of_no_dict (firsts : heads? examples = some heads)
    (noDict : ∀ fields values, Schema.common heads ≠ .dict fields values) :
    assembled task examples constants depth =
      (wrapped task examples heads constants depth).bind (verified task examples constants) := by
  rw [assembled]
  split
  · rename_i nothing
    cases nothing.symm.trans firsts
  · rename_i others found
    cases firsts.symm.trans found
    split
    · rename_i again
      exact absurd again (noDict _ _)
    · rfl

/-- What is assembled is the record of the programs for the fields that the first outputs share, or
else a pipeline for the first outputs alone; either has passed the review. -/
theorem exists_heads_of_assembled {program : Program}
    (ends : (assembled task examples constants depth).result = .ok program) :
    ∃ heads, heads? examples = some heads ∧
      ((∃ fields values record, Schema.common heads = .dict fields values ∧
          Entries.keys record = Entries.keys fields ∧
          (∀ field ∈ record, ∃ others, (programs task
            (withOutputs examples (heads.map (project field.1))) constants 1).result =
              .ok (field.2 :: others)) ∧
          (verified task examples constants (.record record)).result = .ok program) ∨
        (∀ fields values, Schema.common heads ≠ .dict fields values) ∧
          ∃ candidate, (wrapped task examples heads constants depth).result = .ok candidate ∧
            (verified task examples constants candidate).result = .ok program) := by
  cases firsts : heads? examples with
  | none =>
      rw [assembled_of_no_heads firsts] at ends
      cases ends
  | some heads =>
      refine ⟨heads, rfl, ?_⟩
      by_cases isDict : ∃ fields values, Schema.common heads = .dict fields values
      · obtain ⟨fields, values, shared⟩ := isDict
        rw [assembled_of_dict firsts shared] at ends
        obtain ⟨record, built, reviewed⟩ := Trace.result_bind_eq_ok_iff.mp ends
        obtain ⟨keys, found⟩ := fields_of_fieldPrograms built
        exact Or.inl ⟨fields, values, record, shared, keys, found, reviewed⟩
      · have noDict : ∀ fields values, Schema.common heads ≠ .dict fields values :=
          fun fields values shared => isDict ⟨fields, values, shared⟩
        rw [assembled_of_no_dict firsts noDict] at ends
        exact Or.inr ⟨noDict, Trace.result_bind_eq_ok_iff.mp ends⟩

end Synthesis

end FilterSynthesis
