import FilterSynthesis.Proofs.Program.Parsing

namespace FilterSynthesis

theorem Literal.exists_value_int (value : Int64) :
    ∃ number, (Literal.int value).value = .number number := by
  simp only [Literal.value]
  split <;> exact ⟨_, rfl⟩

theorem Literal.value_int_injective {left right : Int64}
    (same : (Literal.int left).value = (Literal.int right).value) : left = right := by
  simp only [Literal.value] at same
  split at same <;> split at same
  · rename_i least most
    rw [least, most]
  · cases same
  · cases same
  · exact Int64.toInt_inj.mp (by simpa using same)

theorem Literal.value_injective : Function.Injective Literal.value := by
  intro left right same
  cases left with
  | bool value =>
      cases right with
      | bool other =>
          cases same
          rfl
      | int other =>
          obtain ⟨number, equal⟩ := exists_value_int other
          cases same.trans equal
      | str other => cases same
  | int value =>
      obtain ⟨number, equal⟩ := exists_value_int value
      cases right with
      | bool other => cases equal.symm.trans same
      | int other => rw [value_int_injective same]
      | str other => cases equal.symm.trans same
  | str value =>
      cases right with
      | bool other => cases same
      | int other =>
          obtain ⟨number, equal⟩ := exists_value_int other
          cases same.trans equal
      | str other =>
          cases same
          rfl

namespace Filter

theorem ofOperator_injective : Function.Injective ofOperator := by
  intro left right same
  cases left with
  | select key literal =>
      cases right with
      | select other constant =>
          simp only [ofOperator, Filter.select.injEq, Filter.equals.injEq,
            Filter.index.injEq] at same
          rw [same.1, Literal.value_injective same.2]
      | _ => cases same
  | _ =>
      cases right <;> cases same
      rfl

theorem ofOperator_ne_identity (operator : Operator) : ofOperator operator ≠ .identity := by
  cases operator <;> nofun

theorem ofOperator_ne_pipe (operator first : Operator) (rest : Filter) :
    ofOperator operator ≠ .pipe (ofOperator first) rest := by
  intro same
  cases operator with
  | forEach => exact ofOperator_ne_identity first (Filter.pipe.inj same).1.symm
  | _ => cases same

theorem ofPipeline_injective : Function.Injective ofPipeline := by
  intro left right same
  induction left generalizing right with
  | nil =>
      rcases right with _ | ⟨other, _ | ⟨next, others⟩⟩
      · rfl
      · exact absurd same.symm (ofOperator_ne_identity other)
      · cases same
  | cons operator rest induction =>
      rcases right with _ | ⟨other, _ | ⟨next, others⟩⟩ <;> rcases rest with _ | ⟨second, rest⟩
      · exact absurd same (ofOperator_ne_identity operator)
      · cases same
      · rw [ofOperator_injective same]
      · exact absurd same.symm (ofOperator_ne_pipe other operator _)
      · exact absurd same (ofOperator_ne_pipe operator other _)
      · obtain ⟨first, later⟩ := Filter.pipe.inj same
        rw [ofOperator_injective first, induction later]

theorem ofPipeline_ne_record (pipeline : Pipeline) (entries : List (String × Filter)) :
    ofPipeline pipeline ≠ .record entries := by
  fun_cases ofPipeline pipeline with
  | case1 => nofun
  | case2 operator => cases operator <;> nofun
  | case3 operator rest => nofun

mutual

theorem ofProgram_injective : (left right : Program) → ofProgram left = ofProgram right →
    left = right
  | .pipeline lefts, .pipeline rights, same => by rw [ofPipeline_injective same]
  | .pipeline lefts, .record rights, same => absurd same (ofPipeline_ne_record lefts _)
  | .record lefts, .pipeline rights, same => absurd same.symm (ofPipeline_ne_record rights _)
  | .record lefts, .record rights, same => by
      rw [ofFields_injective lefts rights (Filter.record.inj same)]

theorem ofFields_injective : (lefts rights : List (String × Program)) →
    ofFields lefts = ofFields rights → lefts = rights
  | [], [], _ => rfl
  | [], _ :: _, same => nomatch same
  | _ :: _, [], same => nomatch same
  | (_, left) :: lefts, (_, right) :: rights, same => by
      simp only [ofFields, List.cons.injEq, Prod.mk.injEq] at same
      obtain ⟨⟨rfl, here⟩, there⟩ := same
      rw [ofProgram_injective left right here, ofFields_injective lefts rights there]

end

end Filter

theorem Pipeline.text_injective : Function.Injective Pipeline.text := by
  intro left right same
  have read : Filter.parse left.text.toList = Filter.parse right.text.toList := by rw [same]
  have lefts := Filter.parse_program (.pipeline left)
  have rights := Filter.parse_program (.pipeline right)
  exact Filter.ofPipeline_injective (Option.some.inj (lefts.symm.trans (read.trans rights)))

/-- The text of a program tells its whole structure, whatever characters its keys and strings
have. -/
theorem text_determines_program (left right : Program) : left.text = right.text ↔ left = right := by
  constructor
  · intro same
    have lefts := Filter.parse_program left
    have rights := Filter.parse_program right
    rw [same] at lefts
    exact Filter.ofProgram_injective left right (Option.some.inj (lefts.symm.trans rights))
  · exact congrArg Program.text

-- The text of one key can look like several fields, but for the quotation marks.
example :
    (Program.record [("a: ., b", .pipeline [])]).text = "\x7b\"a: ., b\": .\x7d" ∧
      (Program.record [("a", .pipeline []), ("b", .pipeline [])]).text = "\x7ba: ., b: .\x7d" := by
  decide

end FilterSynthesis
