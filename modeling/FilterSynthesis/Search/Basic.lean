import FilterSynthesis.Program.Rendering
import FilterSynthesis.Schema.Rules
import FilterSynthesis.Search.Heap
import FilterSynthesis.Verification.Basic

/-!
Best-first search for pipelines. Candidates that miss fewer leaves go first, then shorter ones, then
the text decides. A candidate is extended by the rules of the schema that it leads to; one that fits
all examples is an answer and is not extended, except for the identity.
-/

namespace FilterSynthesis

open scoped Arithmetic

/-- A pipeline that does not fit, waiting to be extended. -/
structure Candidate where
  pipeline : Pipeline
  schema : Schema
  score : Nat
  text : String

namespace Candidate

/-- Is the first candidate not after the second? -/
def before (left right : Candidate) : Bool :=
  if left.score = right.score then
    if left.pipeline.length = right.pipeline.length then left.text ≤ right.text
    else left.pipeline.length < right.pipeline.length
  else left.score < right.score

end Candidate

structure Attempt where
  pipeline : Pipeline
  review : Review

structure Problem where
  oracle : Oracle
  spec : Spec
  depth : Nat
  wanted : Nat

namespace Search

structure State where
  found : Array Pipeline
  frontier : Heap Candidate
  attempts : Array Attempt

variable (problem : Problem)

def State.isFull (state : State) : Bool := problem.wanted ≤ state.found.size

/-- Review a pipeline; it is either an answer or a new candidate. -/
def State.attempt (state : State) (pipeline : Pipeline) (schema : Schema) : State :=
  let text := pipeline.text
  let review := problem.spec.review problem.oracle text
  let attempts := state.attempts.push ⟨pipeline, review⟩
  if review.verdict.isMatch then
    { state with found := state.found.push pipeline, attempts }
  else
    let candidate := ⟨pipeline, schema, review.verdict.score, text⟩
    { state with frontier := state.frontier.insert Candidate.before candidate, attempts }

def State.extend (state : State) (pipeline : Pipeline) : List Rule → State
  | [] => state
  | rule :: rest =>
      let next := state.attempt problem (pipeline.extend rule.operator) rule.output
      if next.isFull problem then next else next.extend pipeline rest

/-! The search ends because every candidate stands for the finitely many paths of rules that are
still open to it, and extending it leaves all but one of these. -/

def pathCount (constants : Constants) : (steps : Nat) → Schema → Nat
  | 0, _ => 1
  | steps + 1, schema =>
      ((schema.rules constants).map fun rule => pathCount constants steps rule.output).sum + 1

theorem pathCount_pos (constants : Constants) (steps : Nat) (schema : Schema) :
    0 < pathCount constants steps schema := by
  cases steps <;> simp [pathCount]

def openPaths (candidate : Candidate) : Nat :=
  pathCount problem.spec.constants (problem.depth - candidate.pipeline.length) candidate.schema

def State.openPaths (state : State) : Nat :=
  (state.frontier.toList.map (Search.openPaths problem)).sum

theorem openPaths_attempt_le (state : State) (pipeline : Pipeline) (schema : Schema) :
    (state.attempt problem pipeline schema).openPaths problem ≤
      pathCount problem.spec.constants (problem.depth - pipeline.length) schema +
        state.openPaths problem := by
  unfold State.attempt
  simp only [State.openPaths]
  split
  · exact Nat.le_add_left _ _
  · rw [((Heap.toList_insert _ _ _).map _).sum_nat]
    simp [Search.openPaths]

theorem openPaths_extend_le (state : State) (pipeline : Pipeline) (rules : List Rule) :
    (state.extend problem pipeline rules).openPaths problem ≤
      (rules.map fun rule => pathCount problem.spec.constants
        (problem.depth - (pipeline.length + 1)) rule.output).sum + state.openPaths problem := by
  induction rules generalizing state with
  | nil => simp [State.extend]
  | cons rule rest induction =>
      have attempted :=
        openPaths_attempt_le problem state (pipeline.extend rule.operator) rule.output
      simp only [Pipeline.length_extend] at attempted
      simp only [State.extend, List.map_cons, List.sum_cons]
      split
      · omega
      · have later := induction (state.attempt problem (pipeline.extend rule.operator) rule.output)
        omega

theorem openPaths_pop? {state : State} {candidate : Candidate} {rest : Heap Candidate}
    (popped : state.frontier.pop? Candidate.before = some (candidate, rest)) :
    state.openPaths problem =
      openPaths problem candidate +
        State.openPaths problem { state with frontier := rest } := by
  simp only [State.openPaths]
  rw [((Heap.toList_pop? popped).map _).sum_nat]
  simp

theorem openPaths_drop_lt {state : State} {candidate : Candidate} {rest : Heap Candidate}
    (popped : state.frontier.pop? Candidate.before = some (candidate, rest)) :
    State.openPaths problem { state with frontier := rest } < state.openPaths problem := by
  have parts := openPaths_pop? problem popped
  have := pathCount_pos problem.spec.constants
    (problem.depth - candidate.pipeline.length) candidate.schema
  simp only [openPaths] at parts
  omega

theorem openPaths_extend_lt {state : State} {candidate : Candidate} {rest : Heap Candidate}
    (popped : state.frontier.pop? Candidate.before = some (candidate, rest))
    (short : candidate.pipeline.length < problem.depth) :
    State.openPaths problem
        (State.extend problem { state with frontier := rest } candidate.pipeline
          (candidate.schema.rules problem.spec.constants)) <
      state.openPaths problem := by
  have parts := openPaths_pop? problem popped
  have extended := openPaths_extend_le problem { state with frontier := rest }
    candidate.pipeline (candidate.schema.rules problem.spec.constants)
  have split : openPaths problem candidate =
      ((candidate.schema.rules problem.spec.constants).map fun rule =>
        pathCount problem.spec.constants
          (problem.depth - (candidate.pipeline.length + 1)) rule.output).sum + 1 := by
    unfold openPaths
    rw [show problem.depth - candidate.pipeline.length =
      (problem.depth - (candidate.pipeline.length + 1)) + 1 by omega]
    rfl
  omega

/-- Extend the best candidate until none is left or enough answers have been found. Candidates of
full length are dropped. -/
def run (state : State) : State :=
  match popped : state.frontier.pop? Candidate.before with
  | none => state
  | some (candidate, rest) =>
      have := openPaths_drop_lt problem popped
      if short : candidate.pipeline.length < problem.depth then
        have := openPaths_extend_lt problem popped short
        let next := State.extend problem { state with frontier := rest } candidate.pipeline
          (candidate.schema.rules problem.spec.constants)
        if next.isFull problem then next else run next
      else run { state with frontier := rest }
  termination_by state.openPaths problem

theorem run_of_pop?_eq_none {state : State}
    (popped : state.frontier.pop? Candidate.before = none) : run problem state = state := by
  rw [run]
  split
  · rfl
  · rename_i again
    cases popped.symm.trans again

theorem run_of_short {state : State} {candidate : Candidate} {rest : Heap Candidate}
    (popped : state.frontier.pop? Candidate.before = some (candidate, rest))
    (short : candidate.pipeline.length < problem.depth) :
    run problem state =
      let next := State.extend problem { state with frontier := rest } candidate.pipeline
        (candidate.schema.rules problem.spec.constants)
      if next.isFull problem then next else run problem next := by
  rw [run]
  split
  · rename_i again
    cases popped.symm.trans again
  · rename_i again
    cases popped.symm.trans again
    rw [dif_pos short]

theorem run_of_long {state : State} {candidate : Candidate} {rest : Heap Candidate}
    (popped : state.frontier.pop? Candidate.before = some (candidate, rest))
    (long : ¬candidate.pipeline.length < problem.depth) :
    run problem state = run problem { state with frontier := rest } := by
  rw [run]
  split
  · rename_i again
    cases popped.symm.trans again
  · rename_i again
    cases popped.symm.trans again
    rw [dif_neg long]

end Search

inductive Outcome where
  | found (first : Pipeline) (others : List Pipeline)
  /-- No pipeline of at most this length fits. -/
  | exhausted (depth : Nat)

structure Search.Result where
  outcome : Outcome
  attempts : List Attempt

def Search.Result.calls (result : Search.Result) (spec : Spec) : List Call :=
  result.attempts.flatMap fun attempt => attempt.review.calls attempt.pipeline.text spec.examples

namespace Search

def State.result (problem : Problem) (state : State) : Result :=
  { outcome := match state.found.toList with
      | [] => .exhausted problem.depth
      | first :: others => .found first others
    attempts := state.attempts.toList }

/-- The identity is reviewed first and extended whether it fits or not. -/
def start (problem : Problem) (schema : Schema) : State :=
  let text := Pipeline.identity.text
  let review := problem.spec.review problem.oracle text
  { found := if review.verdict.isMatch then #[.identity] else #[]
    frontier := .node ⟨.identity, schema, review.verdict.score, text⟩ .empty .empty
    attempts := #[⟨.identity, review⟩] }

end Search

/-- Search from inputs of the given schema. At least one answer is wanted. -/
def search (problem : Problem) (schema : Schema) : Search.Result :=
  let problem := { problem with wanted := max problem.wanted 1 }
  let start := Search.start problem schema
  if start.isFull problem then start.result problem else (Search.run problem start).result problem

end FilterSynthesis
