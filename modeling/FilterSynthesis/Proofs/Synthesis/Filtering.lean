import FilterSynthesis.Proofs.Synthesis.Congruence

namespace FilterSynthesis

namespace Trace

variable {α β : Type}

/-- The second trace rejects nothing, and the first one ends like it or with a rejection. -/
structure Filters (reviewed waived : Trace α) : Prop where
  same_or_rejects : reviewed.result = waived.result ∨
    ∃ text, reviewed.result = .error (.unverified text)
  accepts : ∀ text, waived.result ≠ .error (.unverified text)

theorem Filters.refl {trace : Trace α}
    (accepts : ∀ text, trace.result ≠ .error (.unverified text)) : Filters trace trace :=
  ⟨.inl rfl, accepts⟩

theorem Filters.bind {reviewed waived : Trace α} {next other : α → Trace β}
    (first : Filters reviewed waived) (later : ∀ value, Filters (next value) (other value)) :
    Filters (reviewed.bind next) (waived.bind other) := by
  constructor
  · rcases first.same_or_rejects with same | ⟨text, rejects⟩
    · cases ends : waived.result with
      | error error =>
          rw [result_bind_of_error (same.trans ends), result_bind_of_error ends]
          exact .inl rfl
      | ok value =>
          rw [result_bind_of_ok (same.trans ends), result_bind_of_ok ends]
          exact (later value).same_or_rejects
    · exact .inr ⟨text, result_bind_of_error rejects next⟩
  · intro text rejects
    cases ends : waived.result with
    | error error =>
        rw [result_bind_of_error ends] at rejects
        cases rejects
        exact first.accepts text ends
    | ok value =>
        rw [result_bind_of_ok ends] at rejects
        exact (later value).accepts text rejects

theorem Filters.congruence : Congruence Filters where
  answer _ := .refl nofun
  exhausted _ := .refl nofun
  bind := .bind

end Trace

def Task.reviewing (task : Task) (reviews : Bool) : Task :=
  { task with settings := { task.settings with verifyAssembled := reviews } }

theorem Task.filters (task : Task) :
    (task.reviewing true).Relates Trace.Filters (task.reviewing false) where
  depth := rfl
  pipelines _ _ _ _ := .refl nofun
  verified examples constants program := by
    refine ⟨?_, nofun⟩
    by_cases found : ((Synthesis.spec (task.reviewing true) examples constants).review task.oracle
        program.text).verdict.isMatch = true
    · exact .inl (if_pos found)
    · exact .inr ⟨program.text, if_neg found⟩

/-- With a final review a synthesis ends just like without one, with the same programs or the same
error, unless it ends with a rejected program. Without a final review no program is rejected. -/
theorem review_only_filters (oracle : Oracle) (settings : Settings) (examples : List Example)
    (constants : List Literal) :
    ((Synthesis.run oracle { settings with verifyAssembled := true } examples constants).result =
        (Synthesis.run oracle { settings with verifyAssembled := false } examples
          constants).result ∨
      ∃ text, (Synthesis.run oracle { settings with verifyAssembled := true } examples
        constants).result = .error (.unverified text)) ∧
    ∀ text, (Synthesis.run oracle { settings with verifyAssembled := false } examples
      constants).result ≠ .error (.unverified text) := by
  by_cases empty : examples = []
  · subst empty
    exact ⟨.inl rfl, nofun⟩
  · rw [Synthesis.run_of_ne_nil empty, Synthesis.run_of_ne_nil empty]
    obtain ⟨same_or_rejects, accepts⟩ := Synthesis.related_programs Trace.Filters.congruence
      (Task.filters ⟨oracle, settings, Schema.common (examples.map (·.input))⟩) settings.wanted
    exact ⟨same_or_rejects, accepts⟩

end FilterSynthesis
