import FilterSynthesis.Proofs.Synthesis.Success

namespace FilterSynthesis

/-- Examples for which a program is assembled, with pipelines of limited length from a schema of the
inputs. -/
inductive Assemblable (schema : Schema) (constants : Constants) (depth : Nat) : List Example → Prop
  | pipeline {examples : List Example} (reachable : IsReachable schema constants depth examples) :
      Assemblable schema constants depth examples
  | record {examples : List Example} {heads : List Json} {fields : List (String × Schema)}
      {values : Schema} (firsts : Synthesis.heads? examples = some heads)
      (shared : Schema.common heads = .dict fields values)
      (each : ∀ key ∈ Entries.keys fields,
        Assemblable schema constants depth (examples.map (·.under key))) :
      Assemblable schema constants depth examples
  | first {examples : List Example} {heads : List Json}
      (firsts : Synthesis.heads? examples = some heads)
      (noDict : ∀ fields values, Schema.common heads ≠ .dict fields values)
      (several : ∃ tried ∈ examples, tried.output.length ≠ 1)
      (reachable : IsReachable schema constants depth (Synthesis.withOutputs examples heads)) :
      Assemblable schema constants depth examples

namespace Synthesis

variable {settings : Settings} {schema : Schema} {constants : Constants} {examples : List Example}
  {heads : List Json} {depth : Nat}

theorem exists_wrapped_iff :
    (∃ program, (wrapped ⟨Filter.oracle, settings, schema⟩ examples heads constants depth).result =
        .ok program) ↔
      (∃ tried ∈ examples, tried.output.length ≠ 1) ∧
        IsReachable schema constants depth (withOutputs examples heads) := by
  constructor
  · intro ends
    obtain ⟨program, ends⟩ := ends
    obtain ⟨several, pipeline, path, last, _, accepts, leads, within⟩ :=
      exists_pipeline_of_wrapped ends
    exact ⟨several, path, pipeline, last, leads, within,
      (Program.accepts_iff_reproduces (.pipeline pipeline) _).mp accepts⟩
  · intro both
    obtain ⟨several, reachable⟩ := both
    have searches : ¬(examples.all fun tried => tried.output.length == 1) = true := by
      simpa using several
    rw [wrapped, if_neg searches]
    rcases pipelines_cases settings schema constants (withOutputs examples heads) depth 1 with
      ⟨_, unreachable⟩ | ⟨first, others, something, _⟩
    · exact absurd reachable unreachable
    · exact ⟨.pipeline first, by rw [Trace.result_bind_of_ok something]⟩

theorem assemblable_of_assembled
    (smaller : ∀ key found, headDepth (examples.map (·.under key)) < headDepth examples →
      (programs ⟨Filter.oracle, settings, schema⟩ (examples.map (·.under key))
        constants 1).result = .ok found →
      Assemblable schema constants settings.depth (examples.map (·.under key)))
    {program : Program}
    (ends : (assembled ⟨Filter.oracle, settings, schema⟩ examples constants settings.depth).result =
      .ok program) :
    Assemblable schema constants settings.depth examples := by
  obtain ⟨heads, firsts, ⟨fields, values, record, shared, keys, found, _⟩ |
    ⟨noDict, candidate, wraps, _⟩⟩ := exists_heads_of_assembled ends
  · refine .record firsts shared fun key listed => ?_
    rw [← keys] at listed
    obtain ⟨field, member, rfl⟩ := List.mem_map.mp listed
    obtain ⟨others, here⟩ := found field member
    rw [withOutputs_project firsts] at here
    refine smaller field.1 _ ?_ here
    rw [← withOutputs_project firsts]
    exact headDepth_project_lt firsts shared field.1
  · obtain ⟨several, reachable⟩ := exists_wrapped_iff.mp ⟨candidate, wraps⟩
    exact .first firsts noDict several reachable

theorem assemblable_of_programs {wanted : Nat} {found : List Program}
    (ends : (programs ⟨Filter.oracle, settings, schema⟩ examples constants wanted).result =
      .ok found) : Assemblable schema constants settings.depth examples := by
  induction bound : headDepth examples using Nat.strongRecOn generalizing examples wanted found with
  | ind depth induction =>
      by_cases reachable : IsReachable schema constants settings.depth examples
      · exact .pipeline reachable
      · rw [result_programs_of_unreachable reachable] at ends
        cases ended : (assembled ⟨Filter.oracle, settings, schema⟩ examples constants
          settings.depth).result with
        | error error =>
            rw [ended] at ends
            cases ends
        | ok program =>
            refine assemblable_of_assembled (fun key found fewer here => ?_) ended
            exact induction _ (bound ▸ fewer) here rfl

theorem exists_programs_of_assemblable (waives : settings.verifyAssembled = false)
    (assemblable : Assemblable schema constants settings.depth examples) (wanted : Nat) :
    ∃ first others, (programs ⟨Filter.oracle, settings, schema⟩ examples constants wanted).result =
      .ok (first :: others) := by
  induction assemblable generalizing wanted with
  | pipeline reachable => exact exists_programs_of_reachable reachable wanted
  | record firsts shared each induction =>
      rename_i examples heads fields values
      by_cases reachable : IsReachable schema constants settings.depth examples
      · exact exists_programs_of_reachable reachable wanted
      · have begins : ∀ key ∈ Entries.keys fields, ∃ program others,
            (programs ⟨Filter.oracle, settings, schema⟩
              (withOutputs examples (heads.map (project key))) constants 1).result =
                .ok (program :: others) := by
          intro key listed
          rw [withOutputs_project firsts]
          exact induction key listed 1
        obtain ⟨record, built⟩ := exists_fieldPrograms begins
        refine ⟨.record record, [], ?_⟩
        rw [result_programs_of_unreachable reachable, assembled_of_dict firsts shared,
          Trace.result_bind_of_ok built, verified_of_waived waives]
        rfl
  | first firsts noDict several heads =>
      rename_i examples _
      by_cases reachable : IsReachable schema constants settings.depth examples
      · exact exists_programs_of_reachable reachable wanted
      · obtain ⟨program, ends⟩ := exists_wrapped_iff.mpr ⟨several, heads⟩
        refine ⟨program, [], ?_⟩
        rw [result_programs_of_unreachable reachable, assembled_of_no_dict firsts noDict,
          Trace.result_bind_of_ok ends, verified_of_waived waives]
        rfl

end Synthesis

end FilterSynthesis
