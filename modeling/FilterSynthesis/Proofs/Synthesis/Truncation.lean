import FilterSynthesis.Proofs.Evaluation
import FilterSynthesis.Proofs.Search.Truncation
import FilterSynthesis.Proofs.Synthesis.Congruence

namespace FilterSynthesis

def Settings.wanting (settings : Settings) (wanted : Nat) : Settings := { settings with wanted }

namespace Synthesis

variable {task : Task} {constants : Constants} {examples : List Example} {few many : Nat}

theorem result_pipelines_wanting (less : max few 1 ≤ max many 1) (task : Task)
    (examples : List Example) (constants : Constants) (depth : Nat) :
    (pipelines task examples constants depth few).result =
      (pipelines task examples constants depth many).result.map (·.take (max few 1)) :=
  congrArg Except.ok (Search.outcome_wanting
    ⟨task.oracle, spec task examples constants, depth, many⟩ less task.schema)

theorem result_programs_wanting (less : max few 1 ≤ max many 1) :
    (programs task examples constants few).result =
      (programs task examples constants many).result.map (·.take (max few 1)) := by
  have searched := result_pipelines_wanting less task examples constants task.settings.depth
  obtain ⟨count, positive⟩ : ∃ count, max few 1 = count + 1 := ⟨max few 1 - 1, by omega⟩
  rw [programs, programs]
  rcases result_pipelines task constants examples task.settings.depth many with
    ⟨nothing, _⟩ | ⟨first, others, something, _⟩
  · rw [nothing] at searched
    rw [Trace.result_bind_of_ok searched, Trace.result_bind_of_ok nothing]
    simp only [Outcome.take, Trace.result_map, positive]
    cases (assembled task examples constants task.settings.depth).result with
    | error error => rfl
    | ok program => simp [Except.map]
  · rw [something] at searched
    rw [Trace.result_bind_of_ok searched, Trace.result_bind_of_ok something]
    simp [Outcome.take, positive, Except.map]

theorem programs_of_wanting (oracle : Oracle) (settings : Settings) (schema : Schema)
    (count wanted : Nat) :
    programs ⟨oracle, settings.wanting count, schema⟩ examples constants wanted =
      programs ⟨oracle, settings, schema⟩ examples constants wanted := by
  have same : Task.Relates (fun first second => first = second)
      ⟨oracle, settings.wanting count, schema⟩ ⟨oracle, settings, schema⟩ :=
    ⟨rfl, fun _ _ _ _ => rfl, fun _ _ _ => rfl⟩
  exact related_programs .eq same wanted

theorem result_run_wanting (less : max few 1 ≤ max many 1) (oracle : Oracle) (settings : Settings)
    (examples : List Example) (constants : List Literal) :
    (run oracle (settings.wanting few) examples constants).result =
      (run oracle (settings.wanting many) examples constants).result.map
        (·.take (max few 1)) := by
  by_cases empty : examples = []
  · subst empty
    rfl
  · rw [run_of_ne_nil empty, run_of_ne_nil empty, programs_of_wanting, programs_of_wanting]
    exact result_programs_wanting less

theorem exhausted_or_ne_nil {depth wanted : Nat} {outcome : Outcome}
    (ends : (pipelines task examples constants depth wanted).result = .ok outcome) :
    outcome = .exhausted depth ∨ outcome.pipelines ≠ [] := by
  rcases result_pipelines task constants examples depth wanted with
    ⟨nothing, _⟩ | ⟨first, others, something, _⟩
  · cases nothing.symm.trans ends
    exact .inl rfl
  · cases something.symm.trans ends
    exact .inr (List.cons_ne_nil first others)

theorem length_run_le {oracle : Oracle} {settings : Settings} {constants : List Literal}
    {found : List Program} (ends : (run oracle settings examples constants).result = .ok found) :
    found.length ≤ max settings.wanted 1 := by
  have truncates := result_run_wanting (Nat.le_refl (max settings.wanted 1)) oracle settings
    examples constants
  have same : settings.wanting settings.wanted = settings := rfl
  rw [same, ends] at truncates
  rw [Except.ok.inj truncates]
  exact List.length_take_le _ _

/-- No answer is wanted means that one is. -/
theorem result_run_wanting_max (oracle : Oracle) (settings : Settings) (examples : List Example)
    (constants : List Literal) (wanted : Nat) :
    (run oracle (settings.wanting (max wanted 1)) examples constants).result =
      (run oracle (settings.wanting wanted) examples constants).result := by
  have less : max wanted 1 ≤ max (max wanted 1) 1 := by omega
  rw [result_run_wanting less]
  cases ends : (run oracle (settings.wanting (max wanted 1)) examples constants).result with
  | error error => rfl
  | ok found =>
      have bounded : found.length ≤ max (max wanted 1) 1 := length_run_le ends
      rw [Except.map, List.take_of_length_le (by omega)]

end Synthesis

theorem synthesizeMany_eq (examples : List Example) (constants : List Literal)
    (depth wanted : Nat) :
    synthesizeMany examples constants depth wanted =
      (Synthesis.run Filter.oracle ((({} : Settings).withDepth depth).wanting wanted) examples
        constants).result.map (fun found => found.map Program.text) := by
  rw [← Synthesis.result_run_wanting_max]
  rfl

theorem synthesize_eq_first (examples : List Example) (constants : List Literal)
    (depth wanted : Nat) :
    (∃ error, synthesizeMany examples constants depth wanted = .error error ∧
        synthesize examples constants depth = .error error) ∨
      ∃ first others, synthesizeMany examples constants depth wanted = .ok (first :: others) ∧
        synthesize examples constants depth = .ok first := by
  let settings := ({} : Settings).withDepth depth
  have less : max 1 1 ≤ max wanted 1 := by omega
  rw [synthesize, synthesizeMany_eq, synthesizeMany_eq, Synthesis.result_run_wanting less]
  cases ends : (Synthesis.run Filter.oracle (settings.wanting wanted) examples
    constants).result with
  | error error => exact .inl ⟨error, rfl, rfl⟩
  | ok found =>
      obtain ⟨first, others, rfl⟩ := List.exists_cons_of_ne_nil (Synthesis.run_ne_nil ends)
      exact .inr ⟨first.text, others.map Program.text, rfl, rfl⟩

/-- Who wants fewer answers gets the first ones of the answers to who wants more. This holds for the
pipelines of a search, along with the questions that it puts, and for the programs of a synthesis,
which are at least one and no more than are wanted. No stage of a synthesis ends with an empty list.
What is synthesized is the texts of the programs, and the only filter that is wanted is the first
one of several. -/
theorem cap_only_truncates (few many : Nat) (less : max few 1 ≤ max many 1) :
    (∀ (problem : Problem) (schema : Schema),
      (search (problem.wanting few) schema).outcome.pipelines =
          (search (problem.wanting many) schema).outcome.pipelines.take (max few 1) ∧
        (search (problem.wanting few) schema).calls problem.spec <+:
          (search (problem.wanting many) schema).calls problem.spec) ∧
    (∀ (oracle : Oracle) (settings : Settings) (examples : List Example) (constants : List Literal),
      (Synthesis.run oracle (settings.wanting few) examples constants).result =
          (Synthesis.run oracle (settings.wanting many) examples constants).result.map
            (·.take (max few 1)) ∧
        ∀ found, (Synthesis.run oracle (settings.wanting few) examples constants).result =
          .ok found → found ≠ [] ∧ found.length ≤ max few 1) ∧
    (∀ (task : Task) (examples : List Example) (constants : Constants),
      (∀ depth outcome, (Synthesis.pipelines task examples constants depth few).result =
          .ok outcome → outcome = .exhausted depth ∨ outcome.pipelines ≠ []) ∧
        ∀ found, (Synthesis.programs task examples constants few).result = .ok found →
          found ≠ []) ∧
    ∀ (examples : List Example) (constants : List Literal) (depth : Nat),
      synthesizeMany examples constants depth few =
          (Synthesis.run Filter.oracle ((({} : Settings).withDepth depth).wanting few) examples
            constants).result.map (fun found => found.map Program.text) ∧
      ((∃ error, synthesizeMany examples constants depth few = .error error ∧
          synthesize examples constants depth = .error error) ∨
        ∃ first others, synthesizeMany examples constants depth few = .ok (first :: others) ∧
          synthesize examples constants depth = .ok first) := by
  refine ⟨fun problem schema => ?_, fun oracle settings examples constants => ⟨?_, ?_⟩, ?_, ?_⟩
  · obtain ⟨found, attempts⟩ := Search.search_wanting problem less schema
    exact ⟨found, Search.calls_prefix attempts problem.spec⟩
  · exact Synthesis.result_run_wanting less oracle settings examples constants
  · exact fun found ends => ⟨Synthesis.run_ne_nil ends, Synthesis.length_run_le ends⟩
  · exact fun task examples constants =>
      ⟨fun _ _ => Synthesis.exhausted_or_ne_nil, fun _ => Synthesis.programs_ne_nil⟩
  · exact fun examples constants depth =>
      ⟨synthesizeMany_eq examples constants depth few,
          synthesize_eq_first examples constants depth few⟩

theorem second_answer_is_cut_off :
    max 1 1 ≤ max 2 1 ∧
      (Synthesis.run Filter.oracle ⟨1, 2, .firstMismatch, true⟩
          [⟨.array [], [.array []]⟩] []).result =
        .ok [.pipeline .identity, .pipeline [.sort]] ∧
      (Synthesis.run Filter.oracle ⟨1, 1, .firstMismatch, true⟩
          [⟨.array [], [.array []]⟩] []).result = .ok [.pipeline .identity] := by
  have less : max 1 1 ≤ max 2 1 := by decide
  have both : (Synthesis.run Filter.oracle ⟨1, 2, .firstMismatch, true⟩
      [⟨.array [], [.array []]⟩] []).result =
        .ok [.pipeline .identity, .pipeline [.sort]] := by cbv
  obtain ⟨truncates, _⟩ := (cap_only_truncates 1 2 less).2.1 Filter.oracle
    ⟨1, 2, .firstMismatch, true⟩ [⟨.array [], [.array []]⟩] []
  exact ⟨less, both, truncates.trans (congrArg _ both)⟩

end FilterSynthesis
