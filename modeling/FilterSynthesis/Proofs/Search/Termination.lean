import FilterSynthesis.Proofs.Search.Exactness
import Mathlib.Data.Set.Card

/-!
The loop of a search ends, also where rules lead from a schema to itself or to ever larger ones.
Each candidate in the frontier stands for the paths that are still open to it, and a turn of the
loop takes one of these away, so there are at most as many turns as there are paths. -/

namespace FilterSynthesis

namespace Schema

variable (constants : Constants)

def pathsWithin (depth : Nat) (schema : Schema) : Set RulePath :=
  {path | path.length ≤ depth ∧
    ∃ pipeline last, schema.follow constants path = some (pipeline, last)}

theorem nil_mem_pathsWithin (depth : Nat) (schema : Schema) :
    [] ∈ schema.pathsWithin constants depth :=
  ⟨Nat.zero_le _, .identity, schema, rfl⟩

theorem cons_mem_pathsWithin_iff {depth : Nat} {schema : Schema} {position : Nat}
    {rest : RulePath} :
    position :: rest ∈ schema.pathsWithin constants (depth + 1) ↔
      ∃ rule, (schema.rules constants)[position]? = some rule ∧
        rest ∈ rule.output.pathsWithin constants depth := by
  constructor
  · rintro ⟨within, pipeline, last, leads⟩
    obtain ⟨rule, others, picked, continues, _⟩ := follow_cons_eq_some.mp leads
    exact ⟨rule, picked, Nat.le_of_succ_le_succ within, others, last, continues⟩
  · rintro ⟨rule, picked, within, others, last, continues⟩
    exact ⟨Nat.succ_le_succ within, _, last,
      follow_cons_eq_some.mpr ⟨rule, others, picked, continues, rfl⟩⟩

def paths : (depth : Nat) → Schema → List RulePath
  | 0, _ => [[]]
  | depth + 1, schema =>
      [] :: (schema.rules constants).zipIdx.flatMap fun (rule, position) =>
        (paths depth rule.output).map (position :: ·)

theorem length_paths (depth : Nat) (schema : Schema) :
    (paths constants depth schema).length = Search.pathCount constants depth schema := by
  induction depth generalizing schema with
  | zero => rfl
  | succ depth induction =>
      have branches : (fun entry : Rule × Nat =>
          ((paths constants depth entry.1.output).map (entry.2 :: ·)).length) =
            (fun rule => Search.pathCount constants depth rule.output) ∘ Prod.fst := by
        funext entry
        simp [induction]
      rw [paths, Search.pathCount, List.length_cons, List.length_flatMap, branches,
        ← List.map_map, List.zipIdx_map_fst]

theorem mem_paths_iff {depth : Nat} {schema : Schema} {path : RulePath} :
    path ∈ paths constants depth schema ↔ path ∈ schema.pathsWithin constants depth := by
  induction depth generalizing schema path with
  | zero =>
      rw [paths, List.mem_singleton]
      constructor
      · rintro rfl
        exact nil_mem_pathsWithin constants 0 schema
      · exact fun within => List.length_eq_zero_iff.mp (Nat.le_zero.mp within.1)
  | succ depth induction =>
      cases path with
      | nil => exact iff_of_true List.mem_cons_self (nil_mem_pathsWithin constants _ schema)
      | cons position rest =>
          rw [cons_mem_pathsWithin_iff]
          simp [paths, induction, List.mem_zipIdx_iff_getElem?]

theorem nodup_paths (depth : Nat) (schema : Schema) : (paths constants depth schema).Nodup := by
  induction depth generalizing schema with
  | zero => exact List.nodup_singleton _
  | succ depth induction =>
      refine List.nodup_cons.mpr ⟨by simp, List.nodup_flatMap.mpr ⟨fun entry _ => ?_, ?_⟩⟩
      · exact (induction entry.1.output).map fun _ _ equal => (List.cons.inj equal).2
      · -- paths through different positions begin differently
        have positions : (schema.rules constants).zipIdx.Pairwise
            fun left right => left.2 ≠ right.2 := by
          apply List.pairwise_map.mp
          rw [List.zipIdx_map_snd]
          exact List.nodup_range'
        refine positions.imp fun {first second} differs path left right => ?_
        obtain ⟨_, _, rfl⟩ := List.mem_map.mp left
        obtain ⟨_, _, equal⟩ := List.mem_map.mp right
        exact differs (List.cons.inj equal).1.symm

theorem ncard_pathsWithin (depth : Nat) (schema : Schema) :
    (schema.pathsWithin constants depth).ncard = Search.pathCount constants depth schema := by
  have listed : schema.pathsWithin constants depth = (paths constants depth schema).toFinset := by
    ext path
    rw [List.coe_toFinset]
    exact (mem_paths_iff constants).symm
  rw [listed, Set.ncard_coe_finset,
    List.toFinset_card_of_nodup (nodup_paths constants depth schema),
    length_paths]

end Schema

namespace Search

variable (problem : Problem)

/-- A turn of the loop takes the best candidate from the frontier, and extends it unless it has full
length. When enough answers have been found there are no more turns. -/
inductive State.Turn (state : State) : State → Prop
  | drop {candidate : Candidate} {rest : Heap Candidate} (room : state.isFull problem = false)
      (popped : state.frontier.pop? Candidate.before = some (candidate, rest))
      (long : problem.depth ≤ candidate.pipeline.length) :
      Turn state { state with frontier := rest }
  | extend {candidate : Candidate} {rest : Heap Candidate} (room : state.isFull problem = false)
      (popped : state.frontier.pop? Candidate.before = some (candidate, rest))
      (short : candidate.pipeline.length < problem.depth) :
      Turn state (State.extend problem { state with frontier := rest } candidate.pipeline
        (candidate.schema.rules problem.spec.constants))

/-- So many turns lead from the first state to the second. -/
inductive Turns : Nat → State → State → Prop
  | none (state : State) : Turns 0 state state
  | turn {count : Nat} {state next last : State} (first : state.Turn problem next)
      (others : Turns count next last) : Turns (count + 1) state last

variable {problem} {state next last : State}

theorem State.Turn.openPaths_lt (turn : state.Turn problem next) :
    next.openPaths problem < state.openPaths problem := by
  cases turn with
  | drop _ popped _ => exact openPaths_drop_lt problem popped
  | extend _ popped short => exact openPaths_extend_lt problem popped short

theorem Turns.openPaths_le {count : Nat} (turns : Turns problem count state last) :
    count + last.openPaths problem ≤ state.openPaths problem := by
  induction turns with
  | none state => exact (Nat.zero_add _).le
  | turn first _ induction =>
      have fewer := first.openPaths_lt
      omega

theorem State.Turn.false_of_isFull (full : state.isFull problem = true)
    (turn : state.Turn problem next) : False := by
  cases turn with
  | drop room _ _ => cases full.symm.trans room
  | extend room _ _ => cases full.symm.trans room

theorem State.Turn.false_of_pop?_eq_none
    (nothing : state.frontier.pop? Candidate.before = none)
    (turn : state.Turn problem next) : False := by
  cases turn with
  | drop _ popped _ => cases nothing.symm.trans popped
  | extend _ popped _ => cases nothing.symm.trans popped

theorem exists_turns_run (room : state.isFull problem = false) :
    ∃ count, Turns problem count state (run problem state) ∧
      ∀ next, ¬(run problem state).Turn problem next := by
  fun_induction run problem state with
  | case1 state popped => exact ⟨0, .none state, fun _ turn => turn.false_of_pop?_eq_none popped⟩
  | case2 state candidate rest popped _ short _ next full =>
      exact ⟨1, .turn (.extend room popped short) (.none _),
        fun _ turn => turn.false_of_isFull full⟩
  | case3 state candidate rest popped _ short _ next notFull induction =>
      obtain ⟨count, turns, ends⟩ := induction (by simpa using notFull)
      exact ⟨count + 1, .turn (.extend room popped short) turns, ends⟩
  | case4 state candidate rest popped _ long induction =>
      obtain ⟨count, turns, ends⟩ := induction room
      exact ⟨count + 1, .turn (.drop room popped (Nat.le_of_not_lt long)) turns, ends⟩

theorem openPaths_start (problem : Problem) (schema : Schema) :
    (start problem schema).openPaths problem =
      (schema.pathsWithin problem.spec.constants problem.depth).ncard := by
  simp [Schema.ncard_pathsWithin, State.openPaths, openPaths, start, Pipeline.identity]

end Search

/-- The loop of a search ends. Each turn, and with it each candidate that is taken from the
frontier, makes the number of open paths less. The search ends in a state without further turns, and
until then it takes at most as many candidates as there are paths within the depth, the empty one
included. -/
theorem search_loop_ends (problem : Problem) (schema : Schema) :
    let bounded := Search.atLeastOne problem
    (∀ state next : Search.State, state.Turn bounded next →
        next.openPaths bounded < state.openPaths bounded) ∧
      (∃ count last, Search.Turns bounded count (Search.start bounded schema) last ∧
        (∀ next, ¬last.Turn bounded next) ∧ search problem schema = last.result bounded) ∧
      ∀ count last, Search.Turns bounded count (Search.start bounded schema) last →
        count ≤ (schema.pathsWithin problem.spec.constants problem.depth).ncard := by
  intro bounded
  refine ⟨fun state next turn => turn.openPaths_lt, ?_, fun count last turns => ?_⟩
  · by_cases full : (Search.start bounded schema).isFull bounded = true
    · exact ⟨0, _, .none _, fun _ turn => turn.false_of_isFull full,
        by simp only [search, full, if_true, bounded]⟩
    · obtain ⟨count, turns, ends⟩ := Search.exists_turns_run (by simpa using full)
      exact ⟨count, _, turns, ends, by
          simp only [search, full, Bool.false_eq_true, if_false, bounded]⟩
  · calc
      count ≤ count + last.openPaths bounded := Nat.le_add_right _ _
      _ ≤ (Search.start bounded schema).openPaths bounded := turns.openPaths_le
      _ = (schema.pathsWithin problem.spec.constants problem.depth).ncard :=
        Search.openPaths_start bounded schema

/-- A list of integers can be sorted time and again. Two times are enough to end: the paths are the
empty one, those of one rule, and those of a second rule after sorting. -/
theorem sorting_again_ends :
    let problem : Problem :=
      ⟨fun _ _ => none, ⟨[⟨.null, [.null]⟩], ⟨[], [], []⟩, .firstMismatch⟩, 2, 1⟩
    ∃ count last, Search.Turns problem count (Search.start problem (.list .int)) last ∧
      (∀ next, ¬last.Turn problem next) ∧ (last.result problem).outcome = .exhausted 2 ∧
          count ≤ 5 := by
  intro problem
  obtain ⟨_, ⟨count, last, turns, ends, result⟩, fewer⟩ := search_loop_ends problem (.list .int)
  obtain ⟨tried, explores⟩ := Search.exists_explores problem (.list .int)
  have outcome : (search problem (.list .int)).outcome = .exhausted 2 :=
    (explores.exhausted_iff 2).mpr ⟨rfl, fun _ _ _ _ _ => rfl⟩
  have paths :
      (Schema.pathsWithin problem.spec.constants problem.depth (.list .int)).ncard = 5 := by
    rw [Schema.ncard_pathsWithin]
    decide
  exact ⟨count, last, turns, ends, result ▸ outcome, paths ▸ fewer count last turns⟩

end FilterSynthesis
