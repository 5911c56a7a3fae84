import FilterSynthesis.Proofs.Search.Exactness

/-!
A search that wants fewer answers goes like one that wants more and stops earlier: two searches that
differ in nothing else go through the same states up to the one in which the first has enough. So
what the first finds and tries is the beginning of what the second finds and tries.
-/

namespace FilterSynthesis

def Problem.wanting (problem : Problem) (wanted : Nat) : Problem := { problem with wanted }

/-- The outcome with no more pipelines than are counted, or with the first one. -/
def Outcome.take (count : Nat) : Outcome → Outcome
  | .found first others => .found first (others.take (count - 1))
  | .exhausted depth => .exhausted depth

namespace Search

variable (problem : Problem)

structure State.Begins (state later : State) : Prop where
  found : state.found.toList <+: later.found.toList
  attempts : state.attempts.toList <+: later.attempts.toList

theorem State.Begins.refl (state : State) : state.Begins state :=
  ⟨List.prefix_rfl, List.prefix_rfl⟩

theorem State.Begins.trans {first second third : State} (left : first.Begins second)
    (right : second.Begins third) : first.Begins third :=
  ⟨left.found.trans right.found, left.attempts.trans right.attempts⟩

theorem begins_attempt (state : State) (pipeline : Pipeline) (schema : Schema) :
    state.Begins (state.attempt problem pipeline schema) := by
  unfold State.attempt
  dsimp only
  split
  · exact ⟨by simp, by simp⟩
  · exact ⟨List.prefix_rfl, by simp⟩

theorem begins_extend (state : State) (pipeline : Pipeline) (rules : List Rule) :
    state.Begins (state.extend problem pipeline rules) := by
  induction rules generalizing state with
  | nil => exact .refl state
  | cons rule rest induction =>
      have attempted := begins_attempt problem state (pipeline.extend rule.operator) rule.output
      simp only [State.extend]
      split
      · exact attempted
      · exact attempted.trans (induction _)

theorem begins_run (state : State) : state.Begins (run problem state) := by
  have dropped : ∀ (state : State) (rest : Heap Candidate),
      state.Begins { state with frontier := rest } :=
    fun _ _ => ⟨List.prefix_rfl, List.prefix_rfl⟩
  fun_induction run problem state with
  | case1 state popped => exact .refl state
  | case2 state candidate rest popped _ short _ next full =>
      exact (dropped state rest).trans (begins_extend problem _ _ _)
  | case3 state candidate rest popped _ short _ next notFull induction =>
      exact ((dropped state rest).trans (begins_extend problem _ _ _)).trans induction
  | case4 state candidate rest popped _ long induction =>
      exact (dropped state rest).trans induction

/-- The first state is the second one, or it has enough answers and comes before the second one. -/
def State.Truncates (state later : State) : Prop :=
  state = later ∨ state.isFull problem = true ∧ state.Begins later

theorem State.Truncates.begins {problem : Problem} {state later : State}
    (truncates : state.Truncates problem later) : state.Begins later := by
  rcases truncates with rfl | ⟨_, begins⟩
  · exact .refl state
  · exact begins

variable {few many : Nat}

theorem isFull_of_le (less : few ≤ many) {state : State}
    (full : state.isFull (problem.wanting many) = true) :
    state.isFull (problem.wanting few) = true := by
  have enough : many ≤ state.found.size := of_decide_eq_true full
  exact decide_eq_true (less.trans enough)

theorem truncates_extend (less : few ≤ many) (state : State) (pipeline : Pipeline)
    (rules : List Rule) :
    (state.extend (problem.wanting few) pipeline rules).Truncates (problem.wanting few)
      (state.extend (problem.wanting many) pipeline rules) := by
  induction rules generalizing state with
  | nil => exact .inl rfl
  | cons rule rest induction =>
      let next := state.attempt problem (pipeline.extend rule.operator) rule.output
      have fewer : state.extend (problem.wanting few) pipeline (rule :: rest) =
          if next.isFull (problem.wanting few) then next
          else next.extend (problem.wanting few) pipeline rest := rfl
      have more : state.extend (problem.wanting many) pipeline (rule :: rest) =
          if next.isFull (problem.wanting many) then next
          else next.extend (problem.wanting many) pipeline rest := rfl
      rw [fewer, more]
      by_cases full : next.isFull (problem.wanting few) = true
      · rw [if_pos full]
        refine .inr ⟨full, ?_⟩
        split
        · exact .refl next
        · exact begins_extend _ next pipeline rest
      · rw [if_neg full, if_neg fun enough => full (isFull_of_le problem less enough)]
        exact induction next

theorem truncates_run (less : few ≤ many) (state : State) :
    (run (problem.wanting few) state).Truncates (problem.wanting few)
      (run (problem.wanting many) state) := by
  fun_induction run (problem.wanting few) state with
  | case1 state popped => exact .inl (run_of_pop?_eq_none (problem.wanting many) popped).symm
  | case2 state candidate rest popped _ short _ next full =>
      have begins := (truncates_extend problem less { state with frontier := rest }
        candidate.pipeline (candidate.schema.rules problem.spec.constants)).begins
      rw [run_of_short (problem.wanting many) popped short]
      refine .inr ⟨full, begins.trans ?_⟩
      dsimp only
      split
      · exact .refl _
      · exact begins_run _ _
  | case3 state candidate rest popped _ short _ next notFull induction =>
      rcases truncates_extend problem less { state with frontier := rest } candidate.pipeline
        (candidate.schema.rules problem.spec.constants) with same | ⟨full, _⟩
      · have further : run (problem.wanting many) state = run (problem.wanting many) next := by
          rw [run_of_short (problem.wanting many) popped short]
          refine Eq.trans (if_neg fun enough => notFull ?_) ?_
          · exact (congrArg _ same).trans (isFull_of_le problem less enough)
          · exact congrArg _ same.symm
        rw [further]
        exact induction
      · exact absurd full notFull
  | case4 state candidate rest popped _ long induction =>
      rw [run_of_long (problem.wanting many) popped long]
      exact induction

theorem truncates_search (less : max few 1 ≤ max many 1) (schema : Schema) :
    ∃ state later : State, search (problem.wanting few) schema = state.result problem ∧
      search (problem.wanting many) schema = later.result problem ∧
        state.Truncates (problem.wanting (max few 1)) later := by
  have fewer : search (problem.wanting few) schema =
      if (start problem schema).isFull (problem.wanting (max few 1)) then
        (start problem schema).result problem
      else (run (problem.wanting (max few 1)) (start problem schema)).result problem := rfl
  have more : search (problem.wanting many) schema =
      if (start problem schema).isFull (problem.wanting (max many 1)) then
        (start problem schema).result problem
      else (run (problem.wanting (max many 1)) (start problem schema)).result problem := rfl
  rw [fewer, more]
  by_cases full : (start problem schema).isFull (problem.wanting (max few 1)) = true
  · rw [if_pos full]
    split
    · exact ⟨_, _, rfl, rfl, .inl rfl⟩
    · exact ⟨_, _, rfl, rfl, .inr ⟨full, begins_run _ _⟩⟩
  · rw [if_neg full, if_neg fun enough => full (isFull_of_le problem less enough)]
    exact ⟨_, _, rfl, rfl, truncates_run problem less _⟩

theorem search_wanting (less : max few 1 ≤ max many 1) (schema : Schema) :
    (search (problem.wanting few) schema).outcome.pipelines =
        (search (problem.wanting many) schema).outcome.pipelines.take (max few 1) ∧
      (search (problem.wanting few) schema).attempts <+:
        (search (problem.wanting many) schema).attempts := by
  obtain ⟨tried, explores⟩ := exists_explores (problem.wanting few) schema
  have capped : (search (problem.wanting few) schema).outcome.pipelines.length ≤ max few 1 :=
    explores.capped
  obtain ⟨state, later, fewer, more, truncates⟩ := truncates_search problem less schema
  rw [fewer, pipelines_result] at capped
  rw [fewer, more, pipelines_result, pipelines_result]
  refine ⟨?_, truncates.begins.attempts⟩
  rcases truncates with rfl | ⟨full, begins⟩
  · exact (List.take_of_length_le capped).symm
  · have enough : max few 1 ≤ state.found.toList.length := of_decide_eq_true full
    have length := Nat.le_antisymm capped enough
    rw [← length]
    exact List.prefix_iff_eq_take.mp begins.found

theorem outcome_wanting (less : max few 1 ≤ max many 1) (schema : Schema) :
    (search (problem.wanting few) schema).outcome =
      (search (problem.wanting many) schema).outcome.take (max few 1) := by
  obtain ⟨_, explores⟩ := exists_explores (problem.wanting few) schema
  obtain ⟨_, exploresMore⟩ := exists_explores (problem.wanting many) schema
  have truncates := (search_wanting problem less schema).1
  obtain ⟨count, positive⟩ : ∃ count, max few 1 = count + 1 := ⟨max few 1 - 1, by omega⟩
  rw [positive] at truncates ⊢
  cases fewer : (search (problem.wanting few) schema).outcome with
  | found first others =>
      cases more : (search (problem.wanting many) schema).outcome with
      | found initial further =>
          rw [fewer, more] at truncates
          cases truncates
          rfl
      | exhausted depth =>
          rw [fewer, more] at truncates
          cases truncates
  | exhausted depth =>
      cases more : (search (problem.wanting many) schema).outcome with
      | found initial further =>
          rw [fewer, more] at truncates
          cases truncates
      | exhausted reached =>
          rw [explores.exhausts depth fewer, exploresMore.exhausts reached more]
          rfl

theorem calls_prefix {result later : Result} (attempts : result.attempts <+: later.attempts)
    (spec : Spec) : result.calls spec <+: later.calls spec := by
  obtain ⟨more, equal⟩ := attempts
  refine ⟨Result.calls ⟨later.outcome, more⟩ spec, ?_⟩
  rw [Result.calls, Result.calls, Result.calls, ← equal, List.flatMap_append]

end Search

end FilterSynthesis
