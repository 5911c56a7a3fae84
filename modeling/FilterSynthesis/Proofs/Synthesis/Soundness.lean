import FilterSynthesis.Proofs.Schema.Safety
import FilterSynthesis.Proofs.Synthesis.Success

/-!
What a synthesis answers runs on every input. A review does not see this by itself, as it takes a
filter that fails on an input for one that yields nothing. But pipelines along the rules do not fail
on the inputs, and a program is assembled only if each example asks for an output.
-/

namespace FilterSynthesis

namespace Filter

/-- The filter runs on the input without a failure and yields just the outputs. -/
def Fits (text : String) (tried : Example) : Prop :=
  ∃ outputs, run text tried.input = .ok outputs ∧ Json.sameElements outputs tried.output = true

/-- The filter fails on the input, and no output is asked for. -/
def FailsUnnoticed (text : String) (tried : Example) : Prop :=
  (∃ error, run text tried.input = .error error) ∧ tried.output = []

theorem sameElements_answer_iff {text : String} {tried : Example} :
    Json.sameElements (oracle.answer text tried.input) tried.output = true ↔
      Fits text tried ∨ FailsUnnoticed text tried := by
  unfold Fits FailsUnnoticed Oracle.answer oracle
  cases run text tried.input with
  | ok outputs => simp [Except.toOption]
  | error error => cases tried.output <;> simp [Except.toOption, Json.sameElements]

theorem accepts_iff {text : String} {examples : List Example} :
    oracle.Accepts text examples ↔
      ∀ tried ∈ examples, Fits text tried ∨ FailsUnnoticed text tried := by
  rw [Oracle.accepts_iff .firstMismatch, isMatch_review_iff]
  exact forall₂_congr fun _ _ => sameElements_answer_iff

end Filter

namespace Synthesis

variable {settings : Settings} {schema : Schema} {constants : Constants} {examples : List Example}

theorem accepts_of_assembled {task : Task} (verifies : task.settings.verifyAssembled = true)
    {depth : Nat} {program : Program}
    (ends : (assembled task examples constants depth).result = .ok program) :
    task.oracle.Accepts program.text examples ∧ ∀ tried ∈ examples, tried.output ≠ [] := by
  obtain ⟨heads, firsts, ⟨_, _, record, _, _, _, reviewed⟩ | ⟨_, candidate, _, reviewed⟩⟩ :=
    exists_heads_of_assembled ends
  · obtain ⟨rfl, accepts⟩ := accepts_of_verified verifies reviewed
    exact ⟨accepts, fun tried member => output_ne_nil firsts member⟩
  · obtain ⟨rfl, accepts⟩ := accepts_of_verified verifies reviewed
    exact ⟨accepts, fun tried member => output_ne_nil firsts member⟩

theorem fits_of_programs (verifies : settings.verifyAssembled = true) (distinct : schema.Distinct)
    (admits : ∀ tried ∈ examples, schema.Admits tried.input ∧ tried.input.depth < outputNesting)
    {wanted : Nat} {found : List Program}
    (ends : (programs ⟨Filter.oracle, settings, schema⟩ examples constants wanted).result =
      .ok found) :
    found ≠ [] ∧ ∀ program ∈ found, ∀ tried ∈ examples, Filter.Fits program.text tried := by
  rcases programs_cases ends with ⟨first, others, rfl, accepted⟩ | ⟨program, rfl, ended⟩
  · refine ⟨List.cons_ne_nil _ _, List.forall_mem_map.mpr fun pipeline listed tried member => ?_⟩
    obtain ⟨accepts, path, last, leads, _⟩ := accepted pipeline listed
    rcases Filter.accepts_iff.mp accepts tried member with fits | ⟨⟨error, fails⟩, _⟩
    · exact fits
    · obtain ⟨admitted, shallow⟩ := admits tried member
      obtain ⟨outputs, runs, _⟩ := admitted.run leads distinct shallow
      cases runs.symm.trans fails
  · obtain ⟨accepts, some⟩ := accepts_of_assembled verifies ended
    refine ⟨List.cons_ne_nil _ _, List.forall_mem_singleton.mpr fun tried member => ?_⟩
    rcases Filter.accepts_iff.mp accepts tried member with fits | fails
    · exact fits
    · exact absurd fails.2 (some tried member)

theorem fits_of_run (verifies : settings.verifyAssembled = true)
    (inputs : ∀ tried ∈ examples, tried.input.WellFormed ∧ tried.input.depth < outputNesting)
    {constants : List Literal} {found : List Program}
    (ends : (run Filter.oracle settings examples constants).result = .ok found) :
    found ≠ [] ∧ ∀ program ∈ found, ∀ tried ∈ examples, Filter.Fits program.text tried := by
  by_cases empty : examples = []
  · subst empty
    cases ends
  · rw [run_of_ne_nil empty] at ends
    have wellFormed : ∀ value ∈ examples.map (·.input), value.WellFormed :=
      List.forall_mem_map.mpr fun tried member => (inputs tried member).1
    refine fits_of_programs verifies (Schema.distinct_common wellFormed) ?_ ends
    intro tried member
    exact ⟨Schema.admits_common wellFormed (List.mem_map_of_mem member), (inputs tried member).2⟩

end Synthesis

end FilterSynthesis
