import FilterSynthesis.Search.Basic
import Mathlib.Data.List.Nodup
import Mathlib.Data.List.Range

/-!
Rule paths. A path picks one rule after the other, each by its position among the rules of the
schema that the path has led to so far. The paths that a search tries are those of limited length
that do not run through a pipeline that fits.
-/

namespace FilterSynthesis

abbrev RulePath := List Nat

/-- The pipeline and the schema that a path leads to; nothing if one of its positions has no
rule. -/
def Schema.follow (constants : Constants) : Schema → RulePath → Option (Pipeline × Schema)
  | schema, [] => some (.identity, schema)
  | schema, position :: rest =>
      match (schema.rules constants)[position]? with
      | some rule =>
          (follow constants rule.output rest).map fun reached =>
            (rule.operator :: reached.1, reached.2)
      | Option.none => Option.none

namespace Problem

variable (problem : Problem)

def fits (pipeline : Pipeline) : Bool :=
  (problem.spec.review problem.oracle pipeline.text).verdict.isMatch

def pipelineAt (schema : Schema) (path : RulePath) : Pipeline :=
  ((schema.follow problem.spec.constants path).map (·.1)).getD .identity

/-- A path within the depth of which no beginning fits, the empty one and the whole path apart. -/
structure Tries (schema : Schema) (path : RulePath) : Prop where
  leads : ∃ reached, schema.follow problem.spec.constants path = some reached
  within : path.length ≤ problem.depth
  unfit : ∀ count, 0 < count → count < path.length →
    problem.fits (problem.pipelineAt schema (path.take count)) = false

end Problem

namespace Schema

variable {constants : Constants}

theorem follow_cons_eq_some {schema last : Schema} {position : Nat} {rest : RulePath}
    {pipeline : Pipeline} :
    schema.follow constants (position :: rest) = some (pipeline, last) ↔
      ∃ rule others, (schema.rules constants)[position]? = some rule ∧
        rule.output.follow constants rest = some (others, last) ∧
          pipeline = rule.operator :: others := by
  simp only [follow]
  cases picked : (schema.rules constants)[position]? with
  | none => simp
  | some rule =>
      simp only [Option.map_eq_some_iff, Prod.exists, Prod.mk.injEq, Option.some.injEq]
      constructor
      · intro continues
        obtain ⟨others, reached, found, rfl, rfl⟩ := continues
        exact ⟨rule, others, rfl, found, rfl⟩
      · intro continues
        obtain ⟨rule, others, rfl, found, rfl⟩ := continues
        exact ⟨others, last, found, rfl, rfl⟩

theorem exists_follow_of_mem {schema last : Schema} {path : RulePath} {pipeline : Pipeline}
    (leads : schema.follow constants path = some (pipeline, last)) {rule : Rule}
    (member : rule ∈ last.rules constants) :
    ∃ longer, schema.follow constants longer =
      some (pipeline.extend rule.operator, rule.output) := by
  induction path generalizing schema pipeline with
  | nil =>
      cases leads
      obtain ⟨position, picked⟩ := List.mem_iff_getElem?.mp member
      exact ⟨[position], follow_cons_eq_some.mpr ⟨rule, .identity, picked, rfl, rfl⟩⟩
  | cons position rest induction =>
      obtain ⟨first, others, picked, continues, rfl⟩ := follow_cons_eq_some.mp leads
      obtain ⟨longer, ends⟩ := induction continues
      exact ⟨position :: longer, follow_cons_eq_some.mpr ⟨first, _, picked, ends, rfl⟩⟩

theorem length_of_follow {schema last : Schema} {path : RulePath} {pipeline : Pipeline}
    (leads : schema.follow constants path = some (pipeline, last)) :
    pipeline.length = path.length := by
  induction path generalizing schema pipeline with
  | nil =>
      simp only [follow, Option.some.injEq, Prod.mk.injEq] at leads
      rw [← leads.1]
      rfl
  | cons position rest induction =>
      obtain ⟨rule, others, _, continues, rfl⟩ := follow_cons_eq_some.mp leads
      simp [induction continues]

theorem follow_take {schema : Schema} {path : RulePath} {reached : Pipeline × Schema}
    (leads : schema.follow constants path = some reached) (count : Nat) :
    ∃ before, schema.follow constants (path.take count) = some before := by
  induction path generalizing schema count reached with
  | nil => exact ⟨reached, by simpa using leads⟩
  | cons position rest induction =>
      cases count with
      | zero => exact ⟨(.identity, schema), by simp [follow]⟩
      | succ count =>
          obtain ⟨pipeline, last⟩ := reached
          obtain ⟨rule, others, picked, continues, _⟩ := follow_cons_eq_some.mp leads
          obtain ⟨before, begins⟩ := induction continues count
          exact ⟨(rule.operator :: before.1, before.2),
            follow_cons_eq_some.mpr ⟨rule, before.1, picked, begins, rfl⟩⟩

end Schema

namespace Problem

variable (problem : Problem)

theorem pipelineAt_of_follow {schema last : Schema} {path : RulePath} {pipeline : Pipeline}
    (leads : schema.follow problem.spec.constants path = some (pipeline, last)) :
    problem.pipelineAt schema path = pipeline := by
  simp [pipelineAt, leads]

@[simp] theorem pipelineAt_nil (schema : Schema) :
    problem.pipelineAt schema [] = .identity := rfl

theorem append_pipelineAt_cons {schema : Schema} {position : Nat} {rest : RulePath} {rule : Rule}
    (picked : (schema.rules problem.spec.constants)[position]? = some rule)
    {reached : Pipeline × Schema}
    (continues : rule.output.follow problem.spec.constants rest = some reached)
    (pipeline : Pipeline) :
    pipeline ++ problem.pipelineAt schema (position :: rest) =
      pipeline.extend rule.operator ++ problem.pipelineAt rule.output rest := by
  simp [pipelineAt, Schema.follow, picked, continues, Pipeline.extend]

theorem append_pipelineAt_take_succ {schema : Schema} {position : Nat} {rest : RulePath}
    {rule : Rule} (picked : (schema.rules problem.spec.constants)[position]? = some rule)
    {reached : Pipeline × Schema}
    (continues : rule.output.follow problem.spec.constants rest = some reached)
    (pipeline : Pipeline) (count : Nat) :
    pipeline ++ problem.pipelineAt schema ((position :: rest).take (count + 1)) =
      pipeline.extend rule.operator ++ problem.pipelineAt rule.output (rest.take count) := by
  obtain ⟨before, begins⟩ := Schema.follow_take continues count
  exact append_pipelineAt_cons problem picked begins pipeline

/-- The paths of at most `steps` rules, one or more, from a schema that `pipeline` leads to; none of
them goes on where the pipeline fits. -/
def pathsFrom : (steps : Nat) → Pipeline → Schema → List RulePath
  | 0, _, _ => []
  | steps + 1, pipeline, schema =>
      (schema.rules problem.spec.constants).zipIdx.flatMap fun (rule, position) =>
        let next := pipeline.extend rule.operator
        [position] ::
          if problem.fits next then []
          else (pathsFrom steps next rule.output).map (position :: ·)

theorem mem_pathsFrom_succ {steps : Nat} {pipeline : Pipeline} {schema : Schema}
    {path : RulePath} :
    path ∈ problem.pathsFrom (steps + 1) pipeline schema ↔
      ∃ position rest rule, path = position :: rest ∧
        (schema.rules problem.spec.constants)[position]? = some rule ∧
          (rest = [] ∨ problem.fits (pipeline.extend rule.operator) = false ∧
            rest ∈ problem.pathsFrom steps (pipeline.extend rule.operator) rule.output) := by
  simp only [pathsFrom, List.mem_flatMap, Prod.exists, List.mem_zipIdx_iff_getElem?,
    List.mem_cons]
  constructor
  · intro listed
    obtain ⟨rule, position, picked, rfl | member⟩ := listed
    · exact ⟨position, [], rule, rfl, picked, .inl rfl⟩
    · split at member
      · simp at member
      · rename_i unfit
        obtain ⟨rest, later, rfl⟩ := List.mem_map.mp member
        exact ⟨position, rest, rule, rfl, picked, .inr ⟨by simpa using unfit, later⟩⟩
  · intro branches
    obtain ⟨position, rest, rule, rfl, picked, rfl | ⟨unfit, later⟩⟩ := branches
    · exact ⟨rule, position, picked, .inl rfl⟩
    · refine ⟨rule, position, picked, .inr ?_⟩
      rw [if_neg (by simp [unfit])]
      exact List.mem_map_of_mem later

theorem nil_notMem_pathsFrom (steps : Nat) (pipeline : Pipeline) (schema : Schema) :
    [] ∉ problem.pathsFrom steps pipeline schema := by
  cases steps with
  | zero => simp [pathsFrom]
  | succ steps => simp [mem_pathsFrom_succ]

theorem nodup_pathsFrom (steps : Nat) (pipeline : Pipeline) (schema : Schema) :
    (problem.pathsFrom steps pipeline schema).Nodup := by
  induction steps generalizing pipeline schema with
  | zero => simp [pathsFrom]
  | succ steps induction =>
      simp only [pathsFrom, List.nodup_flatMap]
      constructor
      · intro entry _
        apply List.nodup_cons.mpr
        constructor
        · split
          · simp
          · simp [nil_notMem_pathsFrom]
        · split
          · exact List.nodup_nil
          · exact (induction _ _).map fun _ _ equal => (List.cons.inj equal).2
      · -- paths through different positions begin differently
        have positions : (schema.rules problem.spec.constants).zipIdx.Pairwise
            fun left right => left.2 ≠ right.2 := by
          apply List.pairwise_map.mp
          rw [List.zipIdx_map_snd]
          exact List.nodup_range'
        apply positions.imp
        intro first second differs path left right
        have begins : ∀ {rule : Rule} {position : Nat} {path : RulePath},
            path ∈ ([position] ::
              if problem.fits (pipeline.extend rule.operator) then []
              else (problem.pathsFrom steps (pipeline.extend rule.operator) rule.output).map
                (position :: ·)) → path.head? = some position := by
          intro rule position path member
          rcases List.mem_cons.mp member with rfl | later
          · rfl
          · split at later
            · simp at later
            · obtain ⟨rest, _, rfl⟩ := List.mem_map.mp later
              rfl
        exact differs (Option.some.inj ((begins left).symm.trans (begins right)))

theorem mem_pathsFrom_iff {steps : Nat} {pipeline : Pipeline} {schema : Schema}
    {path : RulePath} :
    path ∈ problem.pathsFrom steps pipeline schema ↔
      path ≠ [] ∧ path.length ≤ steps ∧
        (∃ reached, schema.follow problem.spec.constants path = some reached) ∧
          ∀ count, 0 < count → count < path.length →
            problem.fits (pipeline ++ problem.pipelineAt schema (path.take count)) = false := by
  induction steps generalizing pipeline schema path with
  | zero =>
      simp only [pathsFrom, List.not_mem_nil, Nat.le_zero, List.length_eq_zero_iff, false_iff]
      intro listed
      exact listed.1 listed.2.1
  | succ steps induction =>
      rw [mem_pathsFrom_succ]
      constructor
      · intro listed
        obtain ⟨position, rest, rule, rfl, picked, rfl | ⟨unfit, later⟩⟩ := listed
        · refine ⟨by simp, by simp, ⟨([rule.operator], rule.output), ?_⟩, ?_⟩
          · exact Schema.follow_cons_eq_some.mpr ⟨rule, .identity, picked, rfl, rfl⟩
          · intro count positive less
            simp only [List.length_singleton] at less
            omega
        · obtain ⟨_, short, ⟨⟨others, last⟩, continues⟩, unfits⟩ := induction.mp later
          refine ⟨by simp, by simpa using short, ⟨(rule.operator :: others, last), ?_⟩, ?_⟩
          · exact Schema.follow_cons_eq_some.mpr ⟨rule, others, picked, continues, rfl⟩
          · intro count positive less
            obtain ⟨count, rfl⟩ : ∃ before, count = before + 1 := ⟨count - 1, by omega⟩
            rw [append_pipelineAt_take_succ problem picked continues]
            cases count with
            | zero => simpa [Pipeline.identity] using unfit
            | succ count => exact unfits (count + 1) (by omega) (by simpa using less)
      · intro listed
        obtain ⟨nonempty, short, ⟨⟨whole, last⟩, leads⟩, unfits⟩ := listed
        cases path with
        | nil => exact absurd rfl nonempty
        | cons position rest =>
            obtain ⟨rule, others, picked, continues, rfl⟩ := Schema.follow_cons_eq_some.mp leads
            have later : ∀ count, count < rest.length →
                problem.fits (pipeline.extend rule.operator ++
                  problem.pipelineAt rule.output (rest.take count)) = false := by
              intro count less
              rw [← append_pipelineAt_take_succ problem picked continues]
              exact unfits (count + 1) (by omega) (by simpa using less)
            refine ⟨position, rest, rule, rfl, picked, ?_⟩
            by_cases ends : rest = []
            · exact .inl ends
            · refine .inr ⟨?_, induction.mpr ⟨ends, by simpa using short, ⟨_, continues⟩, ?_⟩⟩
              · simpa [Pipeline.identity] using later 0 (List.length_pos_of_ne_nil ends)
              · intro count _ less
                exact later count less

end Problem

end FilterSynthesis
