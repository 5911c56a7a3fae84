import FilterSynthesis.Proofs.Search.Path
import Mathlib.Data.List.Perm.Basic
import Mathlib.Data.List.Perm.Subperm
import Mathlib.Data.Nat.Find

/-!
What a search reviews and finds. At every moment the pipelines reviewed so far, together with those
that are still to come below the candidates in the frontier, are those of the paths of limited
length that do not run through a pipeline that fits. A search that is not stopped leaves none
behind; one that is stopped has reviewed some of them.
-/

namespace FilterSynthesis

namespace Problem

variable (problem : Problem)

def pipelinesFrom (steps : Nat) (pipeline : Pipeline) (schema : Schema) : List Pipeline :=
  (problem.pathsFrom steps pipeline schema).map fun path =>
    pipeline ++ problem.pipelineAt schema path

def pipelinesThrough (steps : Nat) (pipeline : Pipeline) (schema : Schema) : List Pipeline :=
  pipeline ::
    if problem.fits pipeline then [] else problem.pipelinesFrom steps pipeline schema

@[simp] theorem pipelinesFrom_zero (pipeline : Pipeline) (schema : Schema) :
    problem.pipelinesFrom 0 pipeline schema = [] := rfl

theorem pipelinesFrom_succ (steps : Nat) (pipeline : Pipeline) (schema : Schema) :
    problem.pipelinesFrom (steps + 1) pipeline schema =
      (schema.rules problem.spec.constants).flatMap fun rule =>
        problem.pipelinesThrough steps (pipeline.extend rule.operator) rule.output := by
  have positioned : ∀ branch : Rule → List Pipeline,
      (schema.rules problem.spec.constants).flatMap branch =
        (schema.rules problem.spec.constants).zipIdx.flatMap fun entry => branch entry.1 := by
    intro branch
    conv_lhs => rw [← List.zipIdx_map_fst 0 (schema.rules problem.spec.constants)]
    exact List.flatMap_map ..
  rw [positioned, pipelinesFrom, pathsFrom, List.map_flatMap]
  apply List.flatMap_congr
  intro entry member
  obtain ⟨rule, position⟩ := entry
  have picked : (schema.rules problem.spec.constants)[position]? = some rule :=
    List.mem_zipIdx_iff_getElem?.mp member
  have first : pipeline ++ problem.pipelineAt schema [position] =
      pipeline.extend rule.operator ++ problem.pipelineAt rule.output [] :=
    append_pipelineAt_cons problem picked rfl pipeline
  simp only [List.map_cons, pipelinesThrough, first, pipelineAt_nil, Pipeline.identity,
    List.append_nil, List.cons.injEq, true_and]
  split
  · rfl
  · rw [List.map_map]
    apply List.map_congr_left
    intro path listed
    obtain ⟨_, _, ⟨_, continues⟩, _⟩ := (mem_pathsFrom_iff problem).mp listed
    exact append_pipelineAt_cons problem picked continues pipeline

end Problem

namespace Search

variable (problem : Problem)

def State.reviewed (state : State) : List Pipeline :=
  state.attempts.toList.map (·.pipeline)

def State.pending (state : State) : List Pipeline :=
  state.frontier.toList.flatMap fun candidate =>
    problem.pipelinesFrom (problem.depth - candidate.pipeline.length) candidate.pipeline
      candidate.schema

def State.covered (state : State) : List Pipeline :=
  state.reviewed ++ state.pending problem

theorem covered_attempt (state : State) (pipeline : Pipeline) (schema : Schema) :
    ((state.attempt problem pipeline schema).covered problem).Perm
      (problem.pipelinesThrough (problem.depth - pipeline.length) pipeline schema ++
        state.covered problem) := by
  unfold State.attempt Problem.pipelinesThrough
  by_cases fit : problem.fits pipeline
  · have isMatch := fit
    unfold Problem.fits at isMatch
    simp only [isMatch, fit, if_true, State.covered, State.reviewed, State.pending,
      Array.toList_push, List.map_append, List.map_cons, List.map_nil, List.append_assoc]
    exact List.perm_middle
  · have noMatch := fit
    unfold Problem.fits at noMatch
    simp only [noMatch, fit, State.covered, State.reviewed, State.pending,
      Array.toList_push, List.map_append, List.map_cons, List.map_nil, List.append_assoc,
      Bool.false_eq_true, if_false]
    refine List.perm_middle.trans (List.Perm.cons _ ?_)
    have inserted := (Heap.toList_insert Candidate.before
      ⟨pipeline, schema, (problem.spec.review problem.oracle pipeline.text).verdict.score,
        pipeline.text⟩ state.frontier).flatMap_right
      fun candidate => problem.pipelinesFrom (problem.depth - candidate.pipeline.length)
        candidate.pipeline candidate.schema
    apply (inserted.append_left _).trans
    simp only [List.flatMap_cons]
    exact List.perm_append_comm_assoc _ _ _

/-- All pipelines of a list are covered, or else the state is full and covers some of them. -/
structure State.Covers (state : State) (pipelines : List Pipeline) : Prop where
  part : (state.covered problem).Subperm pipelines
  whole : state.isFull problem = false → (state.covered problem).Perm pipelines

theorem State.Covers.of_perm {problem : Problem} {state : State} {pipelines : List Pipeline}
    (all : (state.covered problem).Perm pipelines) : state.Covers problem pipelines :=
  ⟨all.subperm, fun _ => all⟩

theorem covers_extend {state : State} {pipeline : Pipeline} {rules : List Rule}
    {pipelines : List Pipeline}
    (all : (rules.flatMap (fun rule =>
        problem.pipelinesThrough (problem.depth - (pipeline.length + 1))
          (pipeline.extend rule.operator) rule.output) ++ state.covered problem).Perm pipelines) :
    (state.extend problem pipeline rules).Covers problem pipelines := by
  induction rules generalizing state with
  | nil => exact .of_perm all
  | cons rule rest induction =>
      have attempted :=
        covered_attempt problem state (pipeline.extend rule.operator) rule.output
      simp only [Pipeline.length_extend] at attempted
      have moved : (rest.flatMap (fun rule =>
          problem.pipelinesThrough (problem.depth - (pipeline.length + 1))
            (pipeline.extend rule.operator) rule.output) ++
          (state.attempt problem (pipeline.extend rule.operator) rule.output).covered
            problem).Perm pipelines := by
        refine ((attempted.append_left _).trans ?_).trans all
        rw [List.flatMap_cons, List.append_assoc]
        exact List.perm_append_comm_assoc _ _ _
      simp only [State.extend]
      split
      · rename_i full
        refine ⟨?_, fun notFull => by simp [full] at notFull⟩
        exact (List.sublist_append_right _ _).subperm.trans moved.subperm
      · exact induction moved

theorem covered_pop? {state : State} {candidate : Candidate} {rest : Heap Candidate}
    (popped : state.frontier.pop? Candidate.before = some (candidate, rest)) :
    (state.covered problem).Perm
      (problem.pipelinesFrom (problem.depth - candidate.pipeline.length) candidate.pipeline
          candidate.schema ++
        State.covered problem { state with frontier := rest }) := by
  have parts := (Heap.toList_pop? popped).flatMap_right fun candidate =>
    problem.pipelinesFrom (problem.depth - candidate.pipeline.length) candidate.pipeline
      candidate.schema
  rw [List.flatMap_cons] at parts
  exact (parts.append_left _).trans (List.perm_append_comm_assoc _ _ _)

theorem covers_extend_pop? {state : State} {candidate : Candidate} {rest : Heap Candidate}
    (popped : state.frontier.pop? Candidate.before = some (candidate, rest))
    (short : candidate.pipeline.length < problem.depth) {pipelines : List Pipeline}
    (all : (state.covered problem).Perm pipelines) :
    (State.extend problem { state with frontier := rest } candidate.pipeline
      (candidate.schema.rules problem.spec.constants)).Covers problem pipelines := by
  apply covers_extend
  rw [← Problem.pipelinesFrom_succ]
  have steps : problem.depth - (candidate.pipeline.length + 1) + 1 =
      problem.depth - candidate.pipeline.length := by omega
  rw [steps]
  exact (covered_pop? problem popped).symm.trans all

theorem covers_run {state : State} {pipelines : List Pipeline}
    (all : (state.covered problem).Perm pipelines) :
    (run problem state).Covers problem pipelines ∧
      ((run problem state).isFull problem = false →
        (run problem state).frontier = .empty) := by
  fun_induction run problem state with
  | case1 state popped =>
      refine ⟨.of_perm all, fun _ => ?_⟩
      cases frontier : state.frontier with
      | empty => rfl
      | node root left right => simp [frontier, Heap.pop?] at popped
  | case2 state candidate rest popped _ short _ next full =>
      exact ⟨covers_extend_pop? problem popped short all,
        fun notFull => by simp [full] at notFull⟩
  | case3 state candidate rest popped _ short _ next notFull induction =>
      exact induction ((covers_extend_pop? problem popped short all).whole (by simpa using notFull))
  | case4 state candidate rest popped _ long induction =>
      apply induction
      apply (List.Perm.symm ?_).trans all
      have none : problem.depth - candidate.pipeline.length = 0 := by omega
      simpa [none] using covered_pop? problem popped

structure State.Sound (state : State) : Prop where
  reviews : ∀ attempt ∈ state.attempts.toList,
    attempt.review = problem.spec.review problem.oracle attempt.pipeline.text
  found_eq : state.found.toList = state.reviewed.filter problem.fits
  capped : state.found.size ≤ problem.wanted

theorem State.Sound.attempt {problem : Problem} {state : State} (sound : state.Sound problem)
    (notFull : state.isFull problem = false) (pipeline : Pipeline) (schema : Schema) :
    (state.attempt problem pipeline schema).Sound problem := by
  have room : state.found.size < problem.wanted := by
    simpa [State.isFull] using notFull
  have reviews : ∀ attempt ∈
      (state.attempts.push ⟨pipeline, problem.spec.review problem.oracle pipeline.text⟩).toList,
      attempt.review = problem.spec.review problem.oracle attempt.pipeline.text := by
    intro attempt member
    rw [Array.toList_push, List.mem_append, List.mem_singleton] at member
    rcases member with earlier | rfl
    · exact sound.reviews attempt earlier
    · rfl
  unfold State.attempt
  by_cases fit : problem.fits pipeline
  · have isMatch := fit
    unfold Problem.fits at isMatch
    simp only [isMatch, if_true]
    refine ⟨reviews, ?_, ?_⟩
    · simp [State.reviewed, sound.found_eq, fit]
    · simpa using Nat.succ_le_of_lt room
  · have noMatch := fit
    unfold Problem.fits at noMatch
    simp only [noMatch, Bool.false_eq_true, if_false]
    refine ⟨reviews, ?_, Nat.le_of_lt room⟩
    simpa [State.reviewed, fit] using sound.found_eq

theorem State.Sound.extend {problem : Problem} {state : State} (sound : state.Sound problem)
    (notFull : state.isFull problem = false) (pipeline : Pipeline) (rules : List Rule) :
    (state.extend problem pipeline rules).Sound problem := by
  induction rules generalizing state with
  | nil => exact sound
  | cons rule rest induction =>
      have attempted := sound.attempt notFull (pipeline.extend rule.operator) rule.output
      simp only [State.extend]
      split
      · exact attempted
      · rename_i room
        exact induction attempted (by simpa using room)

theorem State.Sound.run {problem : Problem} {state : State} (sound : state.Sound problem)
    (notFull : state.isFull problem = false) : (Search.run problem state).Sound problem := by
  have popped_sound : ∀ {state : State} (rest : Heap Candidate), state.Sound problem →
      State.Sound problem { state with frontier := rest } :=
    fun _ sound => ⟨sound.reviews, sound.found_eq, sound.capped⟩
  fun_induction Search.run problem state with
  | case1 state popped => exact sound
  | case2 state candidate rest popped _ short _ next full =>
      exact (popped_sound rest sound).extend notFull _ _
  | case3 state candidate rest popped _ short _ next room induction =>
      exact induction ((popped_sound rest sound).extend notFull _ _) (by simpa using room)
  | case4 state candidate rest popped _ long induction =>
      exact induction (popped_sound rest sound) notFull

structure State.Final (state : State) (pipelines : List Pipeline) : Prop where
  sound : state.Sound problem
  part : state.reviewed.Subperm pipelines
  whole : state.isFull problem = false → state.reviewed.Perm pipelines

theorem start_covered (schema : Schema) :
    (start problem schema).covered problem =
      .identity :: problem.pipelinesFrom problem.depth .identity schema := by
  simp [start, State.covered, State.reviewed, State.pending, Pipeline.identity]

theorem start_sound (wanted : 0 < problem.wanted) (schema : Schema) :
    (start problem schema).Sound problem := by
  refine ⟨?_, ?_, ?_⟩
  · intro attempt member
    simp only [start, List.mem_singleton] at member
    rw [member]
  · by_cases fit : problem.fits .identity
    · have isMatch := fit
      unfold Problem.fits at isMatch
      simp [start, State.reviewed, fit, isMatch]
    · have noMatch := fit
      unfold Problem.fits at noMatch
      simp [start, State.reviewed, fit, noMatch]
  · simp only [start]
    split
    · exact wanted
    · exact Nat.zero_le _

theorem start_final (wanted : 0 < problem.wanted) (schema : Schema)
    (full : (start problem schema).isFull problem = true) :
    (start problem schema).Final problem
      (.identity :: problem.pipelinesFrom problem.depth .identity schema) := by
  refine ⟨start_sound problem wanted schema, ?_, fun notFull => by simp [full] at notFull⟩
  rw [← start_covered]
  exact (List.sublist_append_left _ _).subperm

theorem run_final (wanted : 0 < problem.wanted) (schema : Schema)
    (notFull : (start problem schema).isFull problem = false) :
    (run problem (start problem schema)).Final problem
      (.identity :: problem.pipelinesFrom problem.depth .identity schema) := by
  obtain ⟨covers, ends⟩ := covers_run problem (List.Perm.of_eq (start_covered problem schema))
  refine ⟨(start_sound problem wanted schema).run notFull, ?_, ?_⟩
  · exact (List.sublist_append_left _ _).subperm.trans covers.part
  · intro room
    have all := covers.whole room
    simpa [State.covered, State.pending, ends room] using all

end Search

def Outcome.pipelines : Outcome → List Pipeline
  | .found first others => first :: others
  | .exhausted _ => []

namespace Search

variable (problem : Problem)

@[simp] theorem pipelines_result (state : State) :
    (state.result problem).outcome.pipelines = state.found.toList := by
  unfold State.result
  cases state.found.toList with
  | nil => rfl
  | cons first others => rfl

/-- The problem as a search takes it: at least one answer is wanted. -/
abbrev atLeastOne : Problem := { problem with wanted := max problem.wanted 1 }

theorem final_search (schema : Schema) :
    ∃ state : State, search problem schema = state.result (atLeastOne problem) ∧
      state.Final (atLeastOne problem)
        (.identity :: (atLeastOne problem).pipelinesFrom problem.depth .identity schema) := by
  have wanted : 0 < (atLeastOne problem).wanted :=
      Nat.lt_of_lt_of_le Nat.one_pos (Nat.le_max_right ..)
  by_cases full : (start (atLeastOne problem) schema).isFull (atLeastOne problem) = true
  · exact ⟨_, by simp only [search, full, if_true], start_final _ wanted schema full⟩
  · refine ⟨run (atLeastOne problem) (start (atLeastOne problem) schema), ?_,
      run_final _ wanted schema (by simpa using full)⟩
    simp only [search, full, Bool.false_eq_true, if_false]

end Search

namespace Problem

variable (problem : Problem)

theorem mem_paths_iff {schema : Schema} {path : RulePath} :
    path ∈ [] :: problem.pathsFrom problem.depth .identity schema ↔
      problem.Tries schema path := by
  rw [List.mem_cons, mem_pathsFrom_iff]
  constructor
  · intro listed
    rcases listed with rfl | ⟨_, within, leads, unfit⟩
    · exact ⟨⟨_, rfl⟩, Nat.zero_le _, fun _ _ less => absurd less (Nat.not_lt_zero _)⟩
    · exact ⟨leads, within, unfit⟩
  · intro tries
    by_cases empty : path = []
    · exact .inl empty
    · exact .inr ⟨empty, tries.within, tries.leads, tries.unfit⟩

theorem nodup_paths (schema : Schema) :
    ([] :: problem.pathsFrom problem.depth .identity schema).Nodup :=
  List.nodup_cons.mpr ⟨nil_notMem_pathsFrom problem _ _ _, nodup_pathsFrom problem _ _ _⟩

theorem map_paths (schema : Schema) :
    ([] :: problem.pathsFrom problem.depth .identity schema).map (problem.pipelineAt schema) =
      .identity :: problem.pipelinesFrom problem.depth .identity schema := by
  simp [pipelinesFrom, Pipeline.identity]

/-- If a path fits, one of its beginnings fits that a search tries. -/
theorem exists_tries_of_fits {schema : Schema} {path : RulePath} {pipeline : Pipeline}
    {last : Schema} (leads : schema.follow problem.spec.constants path = some (pipeline, last))
    (within : path.length ≤ problem.depth) (fit : problem.fits pipeline = true) :
    ∃ before, problem.Tries schema before ∧
      problem.fits (problem.pipelineAt schema before) = true := by
  by_cases tries : problem.Tries schema path
  · exact ⟨path, tries, by rwa [pipelineAt_of_follow problem leads]⟩
  · -- a shortest beginning that fits is one that is tried
    have early : ∃ count, 0 < count ∧ count < path.length ∧
        problem.fits (problem.pipelineAt schema (path.take count)) = true := by
      by_contra absent
      refine tries ⟨⟨_, leads⟩, within, fun count positive less => ?_⟩
      by_contra fits
      exact absent ⟨count, positive, less, by simpa using fits⟩
    classical
    obtain ⟨positive, less, fits⟩ := Nat.find_spec early
    refine ⟨path.take (Nat.find early), ⟨Schema.follow_take leads _, ?_, ?_⟩, fits⟩
    · exact (List.length_take_le _ _).trans (by omega)
    · intro count above below
      rw [List.length_take] at below
      have short : count < Nat.find early := by omega
      have unfit := Nat.find_min early short
      rw [List.take_take, Nat.min_eq_left (Nat.le_of_lt short)]
      by_contra fits
      exact unfit ⟨above, by omega, by simpa using fits⟩

end Problem

structure Search.Result.Explores (problem : Problem) (schema : Schema) (result : Search.Result)
    (tried : List RulePath) : Prop where
  nodup : tried.Nodup
  tries : ∀ path ∈ tried, problem.Tries schema path
  attempts_eq : result.attempts.map (·.pipeline) = tried.map (problem.pipelineAt schema)
  reviews : ∀ attempt ∈ result.attempts,
    attempt.review = problem.spec.review problem.oracle attempt.pipeline.text
  found_eq : result.outcome.pipelines =
    (tried.filter fun path => problem.fits (problem.pipelineAt schema path)).map
      (problem.pipelineAt schema)
  capped : result.outcome.pipelines.length ≤ max problem.wanted 1
  exhausts : ∀ depth, result.outcome = .exhausted depth → depth = problem.depth
  /-- A search that does not stop early has gone through all paths. -/
  complete : result.outcome.pipelines.length < max problem.wanted 1 →
    ∀ path, problem.Tries schema path → path ∈ tried

namespace Search

variable (problem : Problem)

theorem exists_map_of_subperm {α β : Type} {values : List β} {origins : List α} {image : α → β}
    (part : values.Subperm (origins.map image)) :
    ∃ chosen : List α, values = chosen.map image ∧ chosen.Subperm origins := by
  obtain ⟨middle, same, sublist⟩ := part
  obtain ⟨kept, within, rfl⟩ := List.sublist_map_iff.mp sublist
  have images : Relation.Comp (· = List.map image ·) List.Perm values kept := by
    rw [List.eq_map_comp_perm]
    exact same.symm
  obtain ⟨chosen, equal, permuted⟩ := images
  exact ⟨chosen, equal, permuted.subperm.trans within.subperm⟩

theorem exists_explores (schema : Schema) :
    ∃ tried, (search problem schema).Explores problem schema tried := by
  obtain ⟨state, equal, final⟩ := final_search problem schema
  have part := final.part
  rw [← Problem.map_paths] at part
  obtain ⟨tried, reviewed, among⟩ := exists_map_of_subperm part
  have found_eq : state.found.toList =
      (tried.filter fun path => problem.fits (problem.pipelineAt schema path)).map
        (problem.pipelineAt schema) := by
    rw [final.sound.found_eq, reviewed, List.filter_map]
    rfl
  rw [equal]
  refine ⟨tried, ?_, ?_, reviewed, final.sound.reviews, by rw [pipelines_result, found_eq],
    ?_, ?_, ?_⟩
  · obtain ⟨middle, same, sublist⟩ := among
    exact same.nodup_iff.mp (sublist.nodup (Problem.nodup_paths (atLeastOne problem) schema))
  · intro path member
    obtain ⟨leads, within, unfit⟩ :=
      (Problem.mem_paths_iff (atLeastOne problem)).mp (among.subset member)
    exact ⟨leads, within, unfit⟩
  · simpa using final.sound.capped
  · intro depth ends
    unfold State.result at ends
    dsimp only at ends
    split at ends
    · cases ends
      rfl
    · cases ends
  · intro notFull path tries
    have room : state.isFull (atLeastOne problem) = false := by
      rw [pipelines_result, Array.length_toList] at notFull
      exact decide_eq_false (not_le.mpr notFull)
    have lengths : tried.length =
        ([] :: (atLeastOne problem).pathsFrom problem.depth .identity schema).length := by
      have whole := (final.whole room).length_eq
      rw [reviewed, ← Problem.map_paths, List.length_map, List.length_map] at whole
      exact whole
    have all := among.perm_of_length_le (Nat.le_of_eq lengths.symm)
    exact all.mem_iff.mpr ((Problem.mem_paths_iff (atLeastOne problem)).mpr
      ⟨tries.leads, tries.within, tries.unfit⟩)

variable {problem : Problem}

theorem Result.Explores.exists_follow {schema : Schema} {result : Result} {tried : List RulePath}
    (explores : result.Explores problem schema tried) {attempt : Attempt}
    (member : attempt ∈ result.attempts) :
    ∃ path last, schema.follow problem.spec.constants path = some (attempt.pipeline, last) ∧
      path.length ≤ problem.depth := by
  have listed : attempt.pipeline ∈ tried.map (problem.pipelineAt schema) := by
    rw [← explores.attempts_eq]
    exact List.mem_map_of_mem member
  obtain ⟨path, tries, equal⟩ := List.mem_map.mp listed
  obtain ⟨⟨⟨pipeline, last⟩, leads⟩, within, _⟩ := explores.tries path tries
  rw [Problem.pipelineAt_of_follow problem leads] at equal
  exact ⟨path, last, equal ▸ leads, within⟩

theorem Result.Explores.length_le {schema : Schema} {result : Result} {tried : List RulePath}
    (explores : result.Explores problem schema tried) {attempt : Attempt}
    (member : attempt ∈ result.attempts) : attempt.pipeline.length ≤ problem.depth := by
  obtain ⟨path, last, leads, within⟩ := explores.exists_follow member
  rwa [Schema.length_of_follow leads]

theorem Result.Explores.pipelines_eq_nil_iff {schema : Schema} {result : Result}
    {tried : List RulePath} (explores : result.Explores problem schema tried) :
    result.outcome.pipelines = [] ↔
      ∀ path pipeline last,
        schema.follow problem.spec.constants path = some (pipeline, last) →
          path.length ≤ problem.depth → problem.fits pipeline = false := by
  constructor
  · intro nothing path pipeline last leads within
    by_contra fits
    obtain ⟨before, tries, fit⟩ :=
      Problem.exists_tries_of_fits problem leads within (by simpa using fits)
    have short : result.outcome.pipelines.length < max problem.wanted 1 := by
      rw [nothing, List.length_nil]
      omega
    have member := explores.complete short before tries
    have found : problem.pipelineAt schema before ∈ result.outcome.pipelines := by
      rw [explores.found_eq]
      exact List.mem_map_of_mem (List.mem_filter.mpr ⟨member, fit⟩)
    simp [nothing] at found
  · intro unfit
    rw [explores.found_eq, List.map_eq_nil_iff, List.filter_eq_nil_iff]
    intro path member
    obtain ⟨⟨⟨pipeline, last⟩, leads⟩, within, _⟩ := explores.tries path member
    rw [Problem.pipelineAt_of_follow problem leads, unfit path pipeline last leads within]
    exact Bool.false_ne_true

theorem Result.Explores.exhausted_iff {schema : Schema} {result : Result} {tried : List RulePath}
    (explores : result.Explores problem schema tried) (depth : Nat) :
    result.outcome = .exhausted depth ↔ depth = problem.depth ∧
      ∀ path pipeline last,
        schema.follow problem.spec.constants path = some (pipeline, last) →
          path.length ≤ problem.depth → problem.fits pipeline = false := by
  rw [← explores.pipelines_eq_nil_iff]
  constructor
  · intro ends
    exact ⟨explores.exhausts depth ends, by rw [ends, Outcome.pipelines]⟩
  · rintro ⟨rfl, nothing⟩
    cases ends : result.outcome with
    | found first others =>
        rw [ends] at nothing
        cases nothing
    | exhausted depth => rw [explores.exhausts depth ends]

end Search

/-- What a search tries is a list of different paths of limited length, none of them through a
pipeline that fits, and what it finds is what fits among them, at most as much as is wanted. If it
finds less, it has tried every such path. -/
theorem search_explores_exactly (problem : Problem) (schema : Schema) :
    (∃ tried, (search problem schema).Explores problem schema tried) ∧
      (∀ attempt ∈ (search problem schema).attempts,
        attempt.pipeline.length ≤ problem.depth) ∧
      ∀ depth, (search problem schema).outcome = .exhausted depth ↔ depth = problem.depth ∧
        ∀ path pipeline last,
          schema.follow problem.spec.constants path = some (pipeline, last) →
            path.length ≤ problem.depth → problem.fits pipeline = false := by
  obtain ⟨tried, explores⟩ := Search.exists_explores problem schema
  exact ⟨⟨tried, explores⟩, fun _ member => explores.length_le member, explores.exhausted_iff⟩

end FilterSynthesis
