import FilterSynthesis.Proofs.Synthesis.Solvability
import FilterSynthesis.Proofs.Verification.Leaves

namespace FilterSynthesis

namespace Oracle

variable (oracle : Oracle) (text : String)

def meets (tried : Example) : Bool :=
  Json.sameElements (oracle.answer text tried.input) tried.output

def misses (tried : Example) : Nat :=
  Leaf.missing tried.output (oracle.answer text tried.input)

end Oracle

def Example.call (text : String) (tried : Example) : Call := ⟨text, tried.input⟩

variable {oracle : Oracle} {text : String} {first : Example} {rest examples : List Example}

theorem review_cons_of_meets (policy : ScorePolicy) (met : oracle.meets text first = true) :
    review oracle policy text (first :: rest) =
      ⟨(review oracle policy text rest).verdict, (review oracle policy text rest).tried + 1⟩ := by
  rw [Oracle.meets] at met
  exact if_pos met

theorem review_firstMismatch_cons (unmet : oracle.meets text first = false) :
    review oracle .firstMismatch text (first :: rest) =
      ⟨⟨none, oracle.misses text first⟩, 1⟩ := by
  rw [Oracle.meets] at unmet
  rw [review, Oracle.misses, ← shortfall_eq_missing]
  exact if_neg (by simp [unmet])

theorem review_aggregate_cons (unmet : oracle.meets text first = false) :
    review oracle .aggregate text (first :: rest) =
      ⟨⟨none, oracle.misses text first + (review oracle .aggregate text rest).verdict.score⟩,
        (review oracle .aggregate text rest).tried + 1⟩ := by
  rw [Oracle.meets] at unmet
  rw [review, Oracle.misses, ← shortfall_eq_missing]
  exact if_neg (by simp [unmet])

theorem score_firstMismatch (oracle : Oracle) (text : String) (examples : List Example) :
    (review oracle .firstMismatch text examples).verdict.score =
      ((examples.find? fun tried => !oracle.meets text tried).map (oracle.misses text)).getD 0 := by
  induction examples with
  | nil => rfl
  | cons first rest induction =>
      cases met : oracle.meets text first with
      | true => simp [review_cons_of_meets _ met, induction, met]
      | false => simp [review_firstMismatch_cons met, met]

theorem calls_firstMismatch (oracle : Oracle) (text : String) (examples : List Example) :
    (review oracle .firstMismatch text examples).calls text examples =
      (examples.take (examples.findIdx (fun tried => !oracle.meets text tried) + 1)).map
        (Example.call text) := by
  rw [Review.calls]
  induction examples with
  | nil => rfl
  | cons first rest induction =>
      cases met : oracle.meets text first with
      | true => simp [review_cons_of_meets _ met, List.findIdx_cons, induction, met, Example.call]
      | false => simp [review_firstMismatch_cons met, List.findIdx_cons, met, Example.call]

theorem score_aggregate (oracle : Oracle) (text : String) (examples : List Example) :
    (review oracle .aggregate text examples).verdict.score =
      ((examples.filter fun tried => !oracle.meets text tried).map (oracle.misses text)).sum := by
  induction examples with
  | nil => rfl
  | cons first rest induction =>
      cases met : oracle.meets text first with
      | true => simp [review_cons_of_meets _ met, induction, met]
      | false => simp [review_aggregate_cons met, induction, met]

theorem calls_aggregate (oracle : Oracle) (text : String) (examples : List Example) :
    (review oracle .aggregate text examples).calls text examples =
      examples.map (Example.call text) := by
  rw [Review.calls]
  induction examples with
  | nil => rfl
  | cons first rest induction =>
      cases met : oracle.meets text first with
      | true => simp [review_cons_of_meets _ met, induction, Example.call]
      | false => simp [review_aggregate_cons met, induction, Example.call]

theorem score_aggregate_perm {others : List Example} (permuted : others.Perm examples) :
    (review oracle .aggregate text others).verdict.score =
      (review oracle .aggregate text examples).verdict.score := by
  rw [score_aggregate, score_aggregate]
  exact ((permuted.filter _).map _).sum_eq

theorem Oracle.misses_of_meets
    (wellFormed : ∀ value ∈ oracle.answer text first.input, value.WellFormed)
    (met : oracle.meets text first = true) : oracle.misses text first = 0 :=
  Leaf.missing_of_sameElements wellFormed met

theorem score_aggregate_eq_sum
    (wellFormed : ∀ tried ∈ examples, ∀ value ∈ oracle.answer text tried.input, value.WellFormed) :
    (review oracle .aggregate text examples).verdict.score =
      (examples.map (oracle.misses text)).sum := by
  rw [score_aggregate]
  induction examples with
  | nil => rfl
  | cons first rest induction =>
      obtain ⟨here, there⟩ := List.forall_mem_cons.mp wellFormed
      cases met : oracle.meets text first with
      | true => simp [met, induction there, Oracle.misses_of_meets here met]
      | false => simp [met, induction there]

theorem score_firstMismatch_le (oracle : Oracle) (text : String) (examples : List Example) :
    (review oracle .firstMismatch text examples).verdict.score ≤
      (review oracle .aggregate text examples).verdict.score := by
  rw [score_firstMismatch, score_aggregate, ← List.head?_filter]
  cases examples.filter fun tried => !oracle.meets text tried with
  | nil => exact Nat.le_refl 0
  | cons tried others => exact Nat.le_add_right _ _

theorem isMatch_review_eq (policy other : ScorePolicy) {others : List Example}
    (permuted : others.Perm examples) :
    (review oracle policy text others).verdict.isMatch =
      (review oracle other text examples).verdict.isMatch := by
  rw [Bool.eq_iff_iff, isMatch_review_iff, isMatch_review_iff]
  exact forall_congr' fun _ => imp_congr_left permuted.mem_iff

/-- A review is a match just if every example is met, under either policy and in every order. The
aggregate score adds up what is missing for all examples, as long as no object among the answers has
a key twice, and no order changes it. The score of the first mismatch is that of the first example
that is not met, and never more than the aggregate one. The questions go in order, up to that
example under the one policy and through all examples under the other. -/
theorem verdicts_follow_policies (oracle : Oracle) (text : String) (examples : List Example) :
    let first := review oracle .firstMismatch text examples
    let all := review oracle .aggregate text examples
    (∀ policy, (review oracle policy text examples).verdict.isMatch = true ↔
        ∀ tried ∈ examples, oracle.meets text tried = true) ∧
      (∀ others : List Example, others.Perm examples →
        (∀ policy other, (review oracle policy text others).verdict.isMatch =
            (review oracle other text examples).verdict.isMatch) ∧
          (review oracle .aggregate text others).verdict.score = all.verdict.score) ∧
      ((∀ tried ∈ examples, ∀ value ∈ oracle.answer text tried.input, value.WellFormed) →
        all.verdict.score = (examples.map (oracle.misses text)).sum) ∧
      first.verdict.score =
        ((examples.find? fun tried => !oracle.meets text tried).map (oracle.misses text)).getD 0 ∧
      first.verdict.score ≤ all.verdict.score ∧
      first.calls text examples =
        (examples.take (examples.findIdx (fun tried => !oracle.meets text tried) + 1)).map
          (Example.call text) ∧
      all.calls text examples = examples.map (Example.call text) := by
  intro first all
  refine ⟨fun policy => isMatch_review_iff, fun others permuted => ⟨fun policy other => ?_, ?_⟩, ?_,
    score_firstMismatch oracle text examples, score_firstMismatch_le oracle text examples,
    calls_firstMismatch oracle text examples, calls_aggregate oracle text examples⟩
  · exact isMatch_review_eq policy other permuted
  · exact score_aggregate_perm permuted
  · exact score_aggregate_eq_sum

theorem reordered_members_miss_nothing :
    let oracle : Oracle := fun _ input => some [input]
    let examples : List Example :=
      [⟨.object [("a", .null), ("b", .bool true)], [.object [("b", .bool true), ("a", .null)]]⟩,
        ⟨.bool true, [.string "x"]⟩, ⟨.bool true, [.string "y", .string "z"]⟩]
    (∀ tried ∈ examples, ∀ value ∈ oracle.answer "." tried.input, value.WellFormed) ∧
      (review oracle .aggregate "." examples).verdict.score = 0 + 1 + 2 ∧
      (review oracle .firstMismatch "." examples).verdict.score = 1 ∧
      (review oracle .firstMismatch "." examples).calls "." examples =
        (examples.take 2).map (Example.call ".") := by
  intro oracle examples
  have wellFormed :
      ∀ tried ∈ examples, ∀ value ∈ oracle.answer "." tried.input, value.WellFormed := by
    have object : Json.WellFormed (.object [("a", .null), ("b", .bool true)]) :=
      .object (by decide) (by simp [Json.WellFormed.null, Json.WellFormed.bool])
    simp [examples, oracle, Oracle.answer, object, Json.WellFormed.bool]
  obtain ⟨_, _, sum, first, _, calls, _⟩ := verdicts_follow_policies oracle "." examples
  exact ⟨wellFormed, (sum wellFormed).trans (by decide), first.trans (by decide), calls⟩

end FilterSynthesis
