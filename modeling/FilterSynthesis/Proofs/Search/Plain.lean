import FilterSynthesis.Proofs.Search.Frontier

/-!
A search without a queue. The candidates lie in no particular order, and at each turn one that
precedes all others is taken, whichever it is. All ways to go on end like the search with the queue.
-/

namespace FilterSynthesis

structure Plain where
  found : List Pipeline
  pending : List Candidate
  calls : List Call

namespace Plain

variable (problem : Problem)

def isFull (plain : Plain) : Bool := problem.wanted ≤ plain.found.length

def attempt (plain : Plain) (pipeline : Pipeline) (schema : Schema) : Plain :=
  let text := pipeline.text
  let review := problem.spec.review problem.oracle text
  let calls := plain.calls ++ review.calls text problem.spec.examples
  if review.verdict.isMatch then { plain with found := plain.found ++ [pipeline], calls }
  else
    let candidate := ⟨pipeline, schema, review.verdict.score, text⟩
    { plain with pending := candidate :: plain.pending, calls }

def extend (plain : Plain) (pipeline : Pipeline) : List Rule → Plain
  | [] => plain
  | rule :: rest =>
      let next := plain.attempt problem (pipeline.extend rule.operator) rule.output
      if next.isFull problem then next else next.extend pipeline rest

def start (schema : Schema) : Plain :=
  let text := Pipeline.identity.text
  let review := problem.spec.review problem.oracle text
  { found := if review.verdict.isMatch then [.identity] else []
    pending := [⟨.identity, schema, review.verdict.score, text⟩]
    calls := review.calls text problem.spec.examples }

/-- Some candidate that precedes all others is removed, and extended unless it has full length. -/
inductive Turn (plain : Plain) : Plain → Prop
  | drop {candidate : Candidate} {rest : List Candidate}
      (removed : plain.pending.Perm (candidate :: rest))
      (least : ∀ other ∈ rest, candidate.Precedes other)
      (long : problem.depth ≤ candidate.pipeline.length) :
      Turn plain { plain with pending := rest }
  | extend {candidate : Candidate} {rest : List Candidate}
      (removed : plain.pending.Perm (candidate :: rest))
      (least : ∀ other ∈ rest, candidate.Precedes other)
      (short : candidate.pipeline.length < problem.depth) :
      Turn plain (Plain.extend problem { plain with pending := rest } candidate.pipeline
        (candidate.schema.rules problem.spec.constants))

def outcome (plain : Plain) : Outcome :=
  match plain.found with
  | [] => .exhausted problem.depth
  | first :: others => .found first others

/-- Whatever turns are taken, the search ends, and ends with this outcome after these questions. -/
inductive Ends (outcome : Outcome) (calls : List Call) : Plain → Prop
  | stop {plain : Plain} (halts : plain.isFull problem = true ∨ plain.pending = [])
      (found : plain.outcome problem = outcome) (asked : plain.calls = calls) :
          Ends outcome calls plain
  | turn {plain : Plain} (open_ : plain.isFull problem = false)
      (continues : ∃ next, plain.Turn problem next)
      (each : ∀ next, plain.Turn problem next → Ends outcome calls next) :
      Ends outcome calls plain

/-- The plain state is the state of a search but for the order of the candidates. -/
structure Matches (plain : Plain) (state : Search.State) : Prop where
  found : plain.found = state.found.toList
  pending : plain.pending.Perm state.frontier.toList
  calls : plain.calls = (state.result problem).calls problem.spec

variable {problem} {schema : Schema} {plain : Plain} {state : Search.State}

theorem Matches.isFull_eq (same : plain.Matches problem state) :
    plain.isFull problem = state.isFull problem := by
  rw [isFull, Search.State.isFull, same.found, Array.length_toList]

theorem Matches.outcome_eq (same : plain.Matches problem state) :
    plain.outcome problem = (state.result problem).outcome := by
  rw [outcome, same.found]
  rfl

theorem Matches.keep (same : plain.Matches problem state) {rest : List Candidate}
    {queue : Heap Candidate} (kept : rest.Perm queue.toList) :
    Matches problem { plain with pending := rest } { state with frontier := queue } :=
  ⟨same.found, kept, same.calls⟩

theorem Matches.attempt (same : plain.Matches problem state) (pipeline : Pipeline)
    (schema : Schema) :
    (plain.attempt problem pipeline schema).Matches problem
      (state.attempt problem pipeline schema) := by
  obtain ⟨found, pending, calls⟩ := same
  rw [Search.State.result, Search.Result.calls] at calls
  unfold Plain.attempt Search.State.attempt
  dsimp only
  split
  · refine ⟨by simp [found], pending, ?_⟩
    simp [Search.State.result, Search.Result.calls, calls]
  · refine ⟨found, ?_, ?_⟩
    · exact (pending.cons _).trans (Heap.toList_insert _ _ _).symm
    · simp [Search.State.result, Search.Result.calls, calls]

theorem Matches.extend (same : plain.Matches problem state) (pipeline : Pipeline)
    (rules : List Rule) :
    (plain.extend problem pipeline rules).Matches problem
      (state.extend problem pipeline rules) := by
  induction rules generalizing plain state with
  | nil => exact same
  | cons rule rest induction =>
      have attempted := same.attempt (pipeline.extend rule.operator) rule.output
      simp only [Plain.extend, Search.State.extend, attempted.isFull_eq]
      split
      · exact attempted
      · exact induction attempted

theorem matches_start (schema : Schema) :
    (start problem schema).Matches problem (Search.start problem schema) := by
  refine ⟨?_, List.Perm.refl _, ?_⟩
  · unfold start Search.start
    dsimp only
    split <;> rfl
  · simp [start, Search.start, Search.State.result, Search.Result.calls]

theorem Matches.eq_of_removed (same : plain.Matches problem state)
    (grown : state.Grown problem schema) (distinct : schema.Distinct)
    {candidate chosen : Candidate} {queue : Heap Candidate} {rest : List Candidate}
    (popped : state.frontier.pop? Candidate.before = some (candidate, queue))
    (removed : plain.pending.Perm (chosen :: rest))
    (least : ∀ other ∈ rest, chosen.Precedes other) :
    chosen = candidate ∧ rest.Perm queue.toList := by
  have frontier := Heap.toList_pop? popped
  have both : (chosen :: rest).Perm (candidate :: queue.toList) :=
    removed.symm.trans (same.pending.trans frontier)
  have chosenFirst : chosen.key ≤ candidate.key := by
    rcases List.mem_cons.mp (both.mem_iff.mpr List.mem_cons_self) with rfl | later
    · exact le_rfl
    · exact Candidate.precedes_iff_key_le.mp (least candidate later)
  have candidateFirst : candidate.key ≤ chosen.key := by
    rcases List.mem_cons.mp (both.mem_iff.mp List.mem_cons_self) with rfl | later
    · exact le_rfl
    · exact Candidate.before_iff_key_le.mp ((grown.pop? popped).2.1 chosen later)
  have equal : chosen = candidate :=
    grown.unique distinct
      (frontier.mem_iff.mpr (both.mem_iff.mp List.mem_cons_self))
      (frontier.mem_iff.mpr List.mem_cons_self) (le_antisymm chosenFirst candidateFirst)
  subst equal
  exact ⟨rfl, both.cons_inv⟩

theorem Matches.ends_of_popped (same : plain.Matches problem state)
    (grown : state.Grown problem schema) (distinct : schema.Distinct)
    (open_ : state.isFull problem = false) {candidate : Candidate} {queue : Heap Candidate}
    (popped : state.frontier.pop? Candidate.before = some (candidate, queue))
    {outcome : Outcome} {calls : List Call}
    (dropped : ¬candidate.pipeline.length < problem.depth → ∀ next : Plain,
      next.Matches problem { state with frontier := queue } → next.Ends problem outcome calls)
    (extended : candidate.pipeline.length < problem.depth → ∀ next : Plain,
      next.Matches problem (Search.State.extend problem { state with frontier := queue }
        candidate.pipeline (candidate.schema.rules problem.spec.constants)) →
          next.Ends problem outcome calls) :
    plain.Ends problem outcome calls := by
  have removed : plain.pending.Perm (candidate :: queue.toList) :=
    same.pending.trans (Heap.toList_pop? popped)
  have least : ∀ other ∈ queue.toList, candidate.Precedes other := fun other member =>
    Candidate.precedes_iff_key_le.mpr
      (Candidate.before_iff_key_le.mp ((grown.pop? popped).2.1 other member))
  refine .turn (same.isFull_eq.trans open_) ?_ fun next turn => ?_
  · by_cases short : candidate.pipeline.length < problem.depth
    · exact ⟨_, .extend removed least short⟩
    · exact ⟨_, .drop removed least (Nat.le_of_not_lt short)⟩
  · cases turn with
    | drop removed least long =>
        obtain ⟨rfl, rest⟩ := same.eq_of_removed grown distinct popped removed least
        exact dropped (Nat.not_lt_of_le long) _ (same.keep rest)
    | extend removed least short =>
        obtain ⟨rfl, rest⟩ := same.eq_of_removed grown distinct popped removed least
        exact extended short _ ((same.keep rest).extend _ _)

theorem ends_run (distinct : schema.Distinct) (arises : state.Arises problem schema)
    (open_ : state.isFull problem = false) :
    ∀ plain : Plain, plain.Matches problem state →
      plain.Ends problem ((Search.run problem state).result problem).outcome
        (((Search.run problem state).result problem).calls problem.spec) := by
  fun_induction Search.run problem state with
  | case1 state popped =>
      intro plain same
      have nothing : plain.pending = [] := by
        cases frontier : state.frontier with
        | empty => simpa [frontier] using same.pending
        | node root left right => simp [frontier, Heap.pop?] at popped
      exact .stop (.inr nothing) same.outcome_eq same.calls
  | case2 state candidate queue popped _ short _ next full =>
      intro plain same
      refine same.ends_of_popped arises.grown distinct open_ popped (absurd short) ?_
      exact fun _ later agrees =>
        .stop (.inl (agrees.isFull_eq.trans full)) agrees.outcome_eq agrees.calls
  | case3 state candidate queue popped _ short _ next notFull induction =>
      intro plain same
      refine same.ends_of_popped arises.grown distinct open_ popped (absurd short) ?_
      exact fun _ later agrees =>
        induction (arises.extend popped short List.prefix_rfl) (by simpa using notFull) later agrees
  | case4 state candidate queue popped _ long induction =>
      intro plain same
      refine same.ends_of_popped arises.grown distinct open_ popped ?_
        fun short => absurd short long
      exact fun _ later agrees => induction (arises.drop popped) open_ later agrees

end Plain

/-- The order of the frontier is total up to equal candidates. The plain search, which takes any
candidate that precedes all others, always ends, and always with the outcome of the search with the
queue and after the same questions. Two candidates in a frontier neither of which comes after the
other have the same pipeline and schema. -/
theorem frontier_order_is_total (problem : Problem) (schema : Schema) (distinct : schema.Distinct) :
    (Plain.start problem schema).Ends (Search.atLeastOne problem) (search problem schema).outcome
        ((search problem schema).calls problem.spec) ∧
      ∀ state : Search.State, state.Arises (Search.atLeastOne problem) schema →
        ∀ left ∈ state.frontier.toList, ∀ right ∈ state.frontier.toList,
          left.before right = true → right.before left = true →
            left.pipeline = right.pipeline ∧ left.schema = right.schema := by
  constructor
  · have same : (Plain.start problem schema).Matches (Search.atLeastOne problem)
        (Search.start (Search.atLeastOne problem) schema) := Plain.matches_start schema
    unfold search
    dsimp only
    split
    · rename_i full
      exact .stop (.inl (same.isFull_eq.trans full)) same.outcome_eq same.calls
    · rename_i open_
      exact Plain.ends_run distinct .start (by simpa using open_) _ same
  · intro state arises left first right second here there
    have equal := le_antisymm (Candidate.before_iff_key_le.mp here)
      (Candidate.before_iff_key_le.mp there)
    rw [arises.grown.unique distinct first second equal]
    exact ⟨rfl, rfl⟩

theorem plain_search_tries_both_rules :
    Schema.Distinct (.list .str) ∧
      (Plain.start ⟨fun _ _ => none, ⟨[⟨.null, [.null]⟩], ⟨[], [], []⟩, .firstMismatch⟩, 1, 1⟩
          (.list .str)).Ends
        ⟨fun _ _ => none, ⟨[⟨.null, [.null]⟩], ⟨[], [], []⟩, .firstMismatch⟩, 1, 1⟩
        (.exhausted 1) ([".", ".[]", "sort"].map (⟨·, .null⟩)) := by
  have distinct : Schema.Distinct (.list .str) := .list .str
  have ends := (frontier_order_is_total ⟨fun _ _ => none,
    ⟨[⟨.null, [.null]⟩], ⟨[], [], []⟩, .firstMismatch⟩, 1, 1⟩ (.list .str) distinct).1
  have outcome : (search ⟨fun _ _ => none, ⟨[⟨.null, [.null]⟩], ⟨[], [], []⟩, .firstMismatch⟩, 1, 1⟩
      (.list .str)).outcome = .exhausted 1 := by cbv
  have calls : (search ⟨fun _ _ => none, ⟨[⟨.null, [.null]⟩], ⟨[], [], []⟩, .firstMismatch⟩, 1, 1⟩
      (.list .str)).calls ⟨[⟨.null, [.null]⟩], ⟨[], [], []⟩, .firstMismatch⟩ =
        [".", ".[]", "sort"].map (⟨·, .null⟩) := by cbv
  rw [outcome, calls] at ends
  exact ⟨distinct, ends⟩

end FilterSynthesis
