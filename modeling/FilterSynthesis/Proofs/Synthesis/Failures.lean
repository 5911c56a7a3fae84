import FilterSynthesis.Proofs.Evaluation
import FilterSynthesis.Proofs.Synthesis.Answers
import FilterSynthesis.Proofs.Synthesis.Exhaustion
import FilterSynthesis.Proofs.Synthesis.Truncation

namespace FilterSynthesis

/-- The last examples are the first ones projected along a path of keys that all their first outputs
hold. -/
inductive Example.Descend : List String → List Example → List Example → Prop
  | here {examples : List Example} : Descend [] examples examples
  | under {key : String} {keys : List String} {examples projected level : List Example}
      (projects : List.Forall₂ (Example.ProjectsTo key) examples projected)
      (further : Descend keys projected level) : Descend (key :: keys) examples level

namespace Synthesis

def fieldTrace (task : Task) (constants : Constants) (examples : List Example) (key : String) :
    Trace (List Program) :=
  programs task (examples.map (·.under key)) constants 1

/-- What is put together from the first outputs: the record of what is found for the fields that
they share, or a pipeline for them alone. -/
inductive Drafts (task : Task) (constants : Constants) (examples : List Example) : Program → Prop
  | record {heads : List Json} {fields : List (String × Schema)} {values : Schema}
      {record : List (String × Program)} (firsts : heads? examples = some heads)
      (shared : Schema.common heads = .dict fields values)
      (keys : Entries.keys record = Entries.keys fields)
      (found : ∀ field ∈ record, ∃ others,
        (fieldTrace task constants examples field.1).result = .ok (field.2 :: others)) :
      Drafts task constants examples (.record record)
  | first {heads : List Json} {pipeline : Pipeline} (firsts : heads? examples = some heads)
      (noDict : ∀ fields values, Schema.common heads ≠ .dict fields values)
      (found : (wrapped task examples heads constants task.settings.depth).result =
        .ok (.pipeline pipeline))
      (several : ∃ tried ∈ examples, tried.output.length ≠ 1)
      (accepted : task.oracle.Accepts pipeline.text (withOutputs examples heads))
      (leads : ∃ path last, task.schema.follow constants path = some (pipeline, last) ∧
        path.length ≤ task.settings.depth) :
      Drafts task constants examples (.pipeline pipeline)

/-- The synthesis ends with the error of the field under the key, the first that fails. It has asked
what the search for pipelines asks and what the fields up to this one ask, and nothing else. -/
structure StopsAt (task : Task) (constants : Constants) (examples : List Example) (wanted : Nat)
    (before : List String) (key : String) (error : SynthesisError) : Prop where
  earlier : ∀ name ∈ before, ∃ found, (fieldTrace task constants examples name).result = .ok found
  fails : (fieldTrace task constants examples key).result = .error error
  result : (programs task examples constants wanted).result = .error error
  calls : (programs task examples constants wanted).calls =
    (pipelines task examples constants task.settings.depth wanted).calls ++
      (before ++ [key]).flatMap fun name => (fieldTrace task constants examples name).calls
  searches : (programs task examples constants wanted).searches =
    1 + ((before ++ [key]).map fun name => (fieldTrace task constants examples name).searches).sum

variable {task : Task} {constants : Constants} {examples : List Example} {heads : List Json}
  {error : SynthesisError}

theorem exists_first_failure {keys : List String}
    (fails : ∃ key ∈ keys, ∃ error,
    (fieldTrace task constants examples key).result = .error error) :
    ∃ before key after error, keys = before ++ key :: after ∧
      (∀ name ∈ before, ∃ found, (fieldTrace task constants examples name).result = .ok found) ∧
        (fieldTrace task constants examples key).result = .error error := by
  induction keys with
  | nil => simp at fails
  | cons first rest induction =>
      cases here : (fieldTrace task constants examples first).result with
      | error error => exact ⟨[], first, rest, error, rfl, by simp, here⟩
      | ok found =>
          have later : ∃ key ∈ rest, ∃ error,
              (fieldTrace task constants examples key).result = .error error := by
            obtain ⟨key, listed, error, failed⟩ := fails
            rcases List.mem_cons.mp listed with rfl | within
            · cases here.symm.trans failed
            · exact ⟨key, within, error, failed⟩
          obtain ⟨before, key, after, error, rfl, earlier, failed⟩ := induction later
          exact ⟨first :: before, key, after, error, rfl,
            List.forall_mem_cons.mpr ⟨⟨found, here⟩, earlier⟩, failed⟩

variable {depth bound : Nat}
  {fewer : ∀ key, headDepth (withOutputs examples (heads.map (project key))) < bound}

theorem fieldPrograms_of_failure (firsts : heads? examples = some heads) {before : List String}
    (earlier : ∀ name ∈ before, ∃ found,
      (fieldTrace task constants examples name).result = .ok found)
    {key : String} (fails : (fieldTrace task constants examples key).result = .error error)
    (after : List String) :
    fieldPrograms task examples heads bound fewer constants depth (before ++ key :: after) =
      ⟨.error error,
        (before ++ [key]).flatMap fun name => (fieldTrace task constants examples name).calls,
        ((before ++ [key]).map fun name =>
          (fieldTrace task constants examples name).searches).sum⟩ := by
  have same : ∀ name, programs task (withOutputs examples (heads.map (project name))) constants 1 =
      fieldTrace task constants examples name := fun name => by
    rw [withOutputs_project firsts, fieldTrace]
  induction before with
  | nil =>
      rw [List.nil_append, fieldPrograms, same, Trace.bind_of_error fails]
      simp
  | cons first rest induction =>
      obtain ⟨⟨found, here⟩, later⟩ := List.forall_mem_cons.mp earlier
      obtain ⟨program, others, rfl⟩ := List.exists_cons_of_ne_nil (programs_ne_nil here)
      rw [List.cons_append, fieldPrograms, same, Trace.bind_of_ok here, induction later]
      simp [Trace.map, Trace.after, Except.map]

theorem exists_failure_of_fieldPrograms (firsts : heads? examples = some heads) {keys : List String}
    (ends : (fieldPrograms task examples heads bound fewer constants depth keys).result =
      .error error) :
    ∃ key ∈ keys, (fieldTrace task constants examples key).result = .error error := by
  have fails : ∃ key ∈ keys, ∃ error,
      (fieldTrace task constants examples key).result = .error error := by
    by_contra none
    have each : ∀ key ∈ keys, ∃ program others,
        (programs task (withOutputs examples (heads.map (project key))) constants 1).result =
          .ok (program :: others) := by
      intro key listed
      rw [withOutputs_project firsts]
      cases here : (fieldTrace task constants examples key).result with
      | error error => exact absurd ⟨key, listed, error, here⟩ none
      | ok found =>
          obtain ⟨program, others, rfl⟩ := List.exists_cons_of_ne_nil (programs_ne_nil here)
          exact ⟨program, others, here⟩
    obtain ⟨record, built⟩ := exists_fieldPrograms each
    cases built.symm.trans ends
  obtain ⟨before, key, after, first, rfl, earlier, failed⟩ := exists_first_failure fails
  rw [fieldPrograms_of_failure firsts earlier failed] at ends
  cases ends
  exact ⟨key, by simp, failed⟩

theorem exists_stopsAt (exhausted : task.Exhausted constants examples)
    (firsts : heads? examples = some heads) {fields : List (String × Schema)} {values : Schema}
    (shared : Schema.common heads = .dict fields values) (wanted : Nat)
    (fails : ∃ key ∈ Entries.keys fields, ∃ error,
      (fieldTrace task constants examples key).result = .error error) :
    ∃ before key after error, Entries.keys fields = before ++ key :: after ∧
      StopsAt task constants examples wanted before key error := by
  obtain ⟨before, key, after, error, keys, earlier, failed⟩ := exists_first_failure fails
  have traced : programs task examples constants wanted =
      ⟨.error error,
        (pipelines task examples constants task.settings.depth wanted).calls ++
          (before ++ [key]).flatMap fun name => (fieldTrace task constants examples name).calls,
        1 + ((before ++ [key]).map fun name =>
          (fieldTrace task constants examples name).searches).sum⟩ := by
    rw [programs_of_exhausted exhausted, assembled_of_dict firsts shared, keys,
      fieldPrograms_of_failure firsts earlier failed, Trace.bind_of_error rfl]
    rfl
  exact ⟨before, key, after, error, keys, earlier, failed, by rw [traced], by rw [traced],
    by rw [traced]⟩

theorem eq_outOfDepth_of_wrapped
    (ends : (wrapped task examples heads constants depth).result = .error error) :
    error = .outOfDepth depth := by
  unfold wrapped at ends
  split at ends
  · cases ends
    rfl
  · rcases Trace.result_bind_eq_error_iff.mp ends with searched | ⟨outcome, searched, ends⟩
    · cases searched
    · rcases result_pipelines task constants (withOutputs examples heads) depth 1 with
        ⟨nothing, _⟩ | ⟨first, others, something, _⟩
      · cases nothing.symm.trans searched
        cases ends
        rfl
      · cases something.symm.trans searched
        cases ends

theorem error_of_assembled
    (ends : (assembled task examples constants task.settings.depth).result = .error error) :
    error = .outOfDepth task.settings.depth ∨
      (∃ heads fields values key, heads? examples = some heads ∧
        Schema.common heads = .dict fields values ∧ key ∈ Entries.keys fields ∧
          (fieldTrace task constants examples key).result = .error error) ∨
      ∃ program, Drafts task constants examples program ∧
        (verified task examples constants program).result = .error error := by
  cases firsts : heads? examples with
  | none =>
      rw [assembled_of_no_heads firsts] at ends
      cases ends
      exact .inl rfl
  | some heads =>
      by_cases isDict : ∃ fields values, Schema.common heads = .dict fields values
      · obtain ⟨fields, values, shared⟩ := isDict
        rw [assembled_of_dict firsts shared] at ends
        rcases Trace.result_bind_eq_error_iff.mp ends with fails | ⟨record, built, refused⟩
        · obtain ⟨key, listed, failed⟩ := exists_failure_of_fieldPrograms firsts fails
          exact .inr (.inl ⟨heads, fields, values, key, rfl, shared, listed, failed⟩)
        · obtain ⟨keys, found⟩ := fields_of_fieldPrograms built
          refine .inr (.inr ⟨_, .record firsts shared keys fun field member => ?_, refused⟩)
          rw [fieldTrace, ← withOutputs_project firsts]
          exact found field member
      · have noDict : ∀ fields values, Schema.common heads ≠ .dict fields values :=
          fun fields values shared => isDict ⟨fields, values, shared⟩
        rw [assembled_of_no_dict firsts noDict] at ends
        rcases Trace.result_bind_eq_error_iff.mp ends with fails | ⟨candidate, wraps, refused⟩
        · exact .inl (eq_outOfDepth_of_wrapped fails)
        · obtain ⟨several, pipeline, path, last, rfl, accepted, leads, within⟩ :=
            exists_pipeline_of_wrapped wraps
          exact .inr (.inr ⟨_, .first firsts noDict wraps several accepted
            ⟨path, last, leads, within⟩, refused⟩)

/-- A rejected program was put together on some level, for examples that it does not fit. -/
structure RejectedAt (task : Task) (constants : Constants) (examples level : List Example)
    (keys : List String) (program : Program) : Prop where
  descends : Example.Descend keys examples level
  exhausted : task.Exhausted constants level
  drafts : Drafts task constants level program
  rejects : task.oracle.Rejects program.text level

theorem error_of_programs {wanted : Nat}
    (ends : (programs task examples constants wanted).result = .error error) :
    task.Exhausted constants examples ∧
      (error = .outOfDepth task.settings.depth ∨
        task.settings.verifyAssembled = true ∧ ∃ keys level program,
          RejectedAt task constants examples level keys program ∧
            error = .unverified program.text) := by
  -- on the depth of the first output, which is less in the examples for a field
  induction bound : headDepth examples using Nat.strongRecOn generalizing examples wanted with
  | ind depth induction =>
      rcases exhausted_or_found task constants examples wanted with exhausted | ⟨_, found, _⟩
      · refine ⟨exhausted, ?_⟩
        rw [result_programs_of_exhausted exhausted] at ends
        have fails : (assembled task examples constants task.settings.depth).result =
            .error error :=
          Trace.result_map_eq_error_iff.mp ends
        rcases error_of_assembled fails with
          deep | ⟨heads, fields, values, key, firsts, shared, listed, failed⟩ |
            ⟨program, drafts, refused⟩
        · exact .inl deep
        · have less := headDepth_project_lt firsts shared key
          rw [withOutputs_project firsts] at less
          rcases (induction _ (bound ▸ less) failed rfl).2 with
            deep | ⟨verifies, keys, level, program, rejected, equal⟩
          · exact .inl deep
          · have projects := projectsTo_withOutputs firsts
              ((Schema.mem_keys_common_iff shared).mp listed)
            rw [withOutputs_project firsts] at projects
            exact .inr ⟨verifies, key :: keys, level, program,
              { rejected with descends := .under projects rejected.descends }, equal⟩
        · rcases verified_cases task constants examples program with
            ⟨passed, _⟩ | ⟨unverified, verifies, refuses⟩
          · cases passed.symm.trans refused
          · cases unverified.symm.trans refused
            exact .inr ⟨verifies, [], examples, program,
              ⟨.here, exhausted, drafts, Oracle.rejects_iff.mpr refuses⟩, rfl⟩
      · cases found.symm.trans ends

theorem error_of_run {oracle : Oracle} {settings : Settings} {literals : List Literal}
    (ends : (run oracle settings examples literals).result = .error error) :
    (examples = [] ∧ error = .noExamples) ∨
      Task.Exhausted ⟨oracle, settings, Schema.common (examples.map (·.input))⟩
        (.ofLiterals literals) examples ∧
      (error = .outOfDepth settings.depth ∨
        settings.verifyAssembled = true ∧ ∃ keys level program,
          RejectedAt ⟨oracle, settings, Schema.common (examples.map (·.input))⟩
            (.ofLiterals literals) examples level keys program ∧
          error = .unverified program.text) := by
  by_cases empty : examples = []
  · subst empty
    cases ends
    exact .inl ⟨rfl, rfl⟩
  · rw [run_of_ne_nil empty] at ends
    exact .inr (error_of_programs ends)

end Synthesis

/-- None of the failures of a synthesis is reported without its cause, on whatever level it
arises. -/
theorem failures_are_honest (oracle : Oracle) (settings : Settings) (examples : List Example)
    (constants : List Literal) :
    let task : Task := ⟨oracle, settings, Schema.common (examples.map (·.input))⟩
    let pools := Constants.ofLiterals constants
    let trace := Synthesis.run oracle settings examples constants
    (trace.result = .error .noExamples ↔ examples = []) ∧
      (∀ depth, trace.result = .error (.outOfDepth depth) →
        depth = settings.depth ∧ task.Exhausted pools examples) ∧
      (∀ text, trace.result = .error (.unverified text) →
        settings.verifyAssembled = true ∧ task.Exhausted pools examples ∧
          ∃ keys level program,
            Synthesis.RejectedAt task pools examples level keys program ∧ text = program.text) ∧
      (examples ≠ [] → trace = Synthesis.programs task examples pools settings.wanted) ∧
      ∀ level wanted heads fields values, task.Exhausted pools level →
        Synthesis.heads? level = some heads → Schema.common heads = .dict fields values →
          (∃ key ∈ Entries.keys fields, ∃ error,
            (Synthesis.fieldTrace task pools level key).result = .error error) →
          ∃ before key after error, Entries.keys fields = before ++ key :: after ∧
            Synthesis.StopsAt task pools level wanted before key error := by
  intro task pools trace
  refine ⟨⟨fun ends => ?_, fun empty => ?_⟩, fun depth ends => ?_, fun text ends => ?_,
    fun given => Synthesis.run_of_ne_nil given oracle settings constants, ?_⟩
  · rcases Synthesis.error_of_run ends with ⟨empty, _⟩ | ⟨_, deep | ⟨_, _, _, _, _, rejected⟩⟩
    · exact empty
    · cases deep
    · cases rejected
  · subst empty
    rfl
  · rcases Synthesis.error_of_run ends with
      ⟨_, absent⟩ | ⟨exhausted, deep | ⟨_, _, _, _, _, rejected⟩⟩
    · cases absent
    · cases deep
      exact ⟨rfl, exhausted⟩
    · cases rejected
  · rcases Synthesis.error_of_run ends with
      ⟨_, absent⟩ | ⟨exhausted, deep | ⟨verifies, keys, level, program, rejected, equal⟩⟩
    · cases absent
    · cases deep
    · cases equal
      exact ⟨verifies, exhausted, keys, level, program, rejected, rfl⟩
  · intro level wanted heads fields values exhausted firsts shared fails
    exact Synthesis.exists_stopsAt exhausted firsts shared wanted fails

/-- The record for what is under `n` drops a member that only the second example has. Of the fields
`a`, `b` and `c` the second fails, and there is no search for the third. -/
theorem record_fails_under_key_and_in_field :
    let settings : Settings := ⟨0, 1, .firstMismatch, true⟩
    let task : Task := ⟨Filter.oracle, settings, .bool⟩
    let nested : List Example :=
      [⟨.bool true, [.object [("n", .object [("v", .bool true)])]]⟩,
        ⟨.bool false, [.object [("n", .object [("v", .bool false), ("x", .null)])]]⟩]
    let flat : List Example :=
      [⟨.bool true, [.object [("a", .bool true), ("b", .bool false), ("c", .bool false)]]⟩]
    (Synthesis.run Filter.oracle settings nested []).result = .error (.unverified "\x7bv: .\x7d") ∧
      (∃ keys level program, Synthesis.RejectedAt task (.ofLiterals []) nested level keys program ∧
        "\x7bv: .\x7d" = program.text) ∧
      (Synthesis.run Filter.oracle settings flat []).result = .error (.outOfDepth 0) ∧
      (Synthesis.run Filter.oracle settings flat []).searches = 3 ∧
      ∃ before key after error, ["a", "b", "c"] = before ++ key :: after ∧
        Synthesis.StopsAt task (.ofLiterals []) flat 1 before key error := by
  intro settings task nested flat
  have rejected : (Synthesis.run Filter.oracle settings nested []).result =
      .error (.unverified "\x7bv: .\x7d") := by cbv
  have deep : (Synthesis.run Filter.oracle settings flat []).result = .error (.outOfDepth 0) := by
    cbv
  obtain ⟨_, _, unverified, _, _⟩ := failures_are_honest Filter.oracle settings nested []
  obtain ⟨_, outOfDepth, _, _, fields⟩ := failures_are_honest Filter.oracle settings flat []
  obtain ⟨_, _, which⟩ := unverified _ rejected
  refine ⟨rejected, which, deep, by cbv, ?_⟩
  exact fields flat 1 [.object [("a", .bool true), ("b", .bool false), ("c", .bool false)]]
    [("a", .bool), ("b", .bool), ("c", .bool)] .bool (outOfDepth 0 deep).2 rfl rfl
    ⟨"b", by decide, .outOfDepth 0, by cbv⟩

end FilterSynthesis
