import FilterSynthesis.Proofs.Program.Parsing

/-!
The text of a program does what the program means. Outputs pass through text on their way out, so
an output that is nested too deep is a failure, and a binary64 number may come out as another
number. -/

namespace FilterSynthesis

namespace Filter

theorem toOption_run {text : String} {filter : Filter} (parsed : parse text.toList = some filter)
    (known : filter.unknownNames = []) (value : Json) :
    (run text value).toOption =
      (filter.eval value).values?.bind fun values => values.mapM Json.handedOn? := by
  simp only [run, parsed, known, Outputs.toOption_collect]

theorem oracle_program {program : Program} (distinct : program.HasDistinctKeys) (value : Json) :
    oracle program.text value =
      (program.meaning value).bind fun values => values.mapM Json.handedOn? := by
  rw [oracle, toOption_run (parse_program program) (unknownNames_ofProgram program),
    values?_eval_ofProgram program distinct]

theorem oracle_pipeline (pipeline : Pipeline) (value : Json) :
    oracle pipeline.text value =
      (pipeline.meaning value).bind fun values => values.mapM Json.handedOn? := by
  have distinct : (Program.pipeline pipeline).HasDistinctKeys := trivial
  exact oracle_program distinct value

theorem run_eq_ok_iff {text : String} {value : Json} {outputs : List Json} :
    run text value = .ok outputs ↔ oracle text value = some outputs := by
  unfold oracle
  cases run text value <;> simp [Except.toOption]

end Filter

/-- The text of a program is a filter that names nothing unknown, and what it yields for a value is
what the program means for it, as far as this can be handed on. A pipeline fails just if one of its
operators does not apply to a value that reaches it. -/
theorem rendered_text_means_program (program : Program) (distinct : program.HasDistinctKeys)
    (value : Json) :
    (∃ filter, Filter.parse program.text.toList = some filter ∧ filter.unknownNames = []) ∧
      Filter.oracle program.text value =
        (program.meaning value).bind (fun values => values.mapM Json.handedOn?) ∧
      ∀ operators, program = .pipeline operators →
        (program.meaning value = none ↔
          ∃ before operator after, operators = before ++ operator :: after ∧
            ∃ values, Pipeline.meaning before value = some values ∧
              ∃ reaching ∈ values, operator.meaning reaching = none) := by
  refine ⟨⟨_, Filter.parse_program program, Filter.unknownNames_ofProgram program⟩,
    Filter.oracle_program distinct value, ?_⟩
  intro operators pipeline
  subst pipeline
  exact Pipeline.meaning_eq_none_iff operators value

theorem rendered_record_means_program :
    (Program.record [("a b", .pipeline [.index "k"]),
        ("c", .record [("d", .pipeline [.forEach, .keys])])]).HasDistinctKeys ∧
      Filter.oracle (Program.record [("a b", .pipeline [.index "k"]),
          ("c", .record [("d", .pipeline [.forEach, .keys])])]).text
          (.object [("k", .object [])]) =
        some [.object [("a b", .object []), ("c", .object [("d", .array [])])]] := by
  have distinct : (Program.record [("a b", .pipeline [.index "k"]),
      ("c", .record [("d", .pipeline [.forEach, .keys])])]).HasDistinctKeys := by
    simp [Program.HasDistinctKeys, Program.HaveDistinctKeys]
  refine ⟨distinct, ?_⟩
  rw [(rendered_text_means_program _ distinct _).2.1]
  rfl

theorem identity_changes_number :
    (Program.pipeline .identity).HasDistinctKeys ∧
      (Program.pipeline .identity).meaning (.number (.float ⟨false, 7180179466571434915⟩)) =
        some [.number (.float ⟨false, 7180179466571434915⟩)] ∧
      Filter.oracle (Program.pipeline .identity).text
          (.number (.float ⟨false, 7180179466571434915⟩)) ≠
        some [.number (.float ⟨false, 7180179466571434915⟩)] := by
  have distinct : (Program.pipeline .identity).HasDistinctKeys := trivial
  refine ⟨distinct, rfl, ?_⟩
  have reread : Reading.numberOf? (Double.text ⟨false, 7180179466571434915⟩).toList =
      some (.float ⟨false, 7180179466571434914⟩) := by
    rw [Double.text, String.toList_ofList]
    decide +kernel
  rw [Filter.oracle_program distinct]
  simp [Program.meaning, Pipeline.identity, Pipeline.meaning, Json.handedOn?, Json.depth,
    Json.reread?, Number.reread?, Double.isFinite, Double.infinity, outputNesting, reread]

end FilterSynthesis
