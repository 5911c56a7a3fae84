import FilterSynthesis.Proofs.Synthesis.Stages

namespace FilterSynthesis

def Oracle.Rejects (oracle : Oracle) (text : String) (examples : List Example) : Prop :=
  ∀ policy, (review oracle policy text examples).verdict.isMatch = false

theorem Oracle.rejects_iff {oracle : Oracle} {text : String} {examples : List Example} :
    oracle.Rejects text examples ↔ ¬oracle.Accepts text examples := by
  constructor
  · intro rejects accepts
    exact Bool.false_ne_true ((rejects .aggregate).symm.trans (accepts .aggregate))
  · intro refuses policy
    rw [Bool.eq_false_iff]
    exact fun found => refuses ((Oracle.accepts_iff policy).mpr found)

def Task.Exhausted (task : Task) (constants : Constants) (examples : List Example) : Prop :=
  ∀ path pipeline last, task.schema.follow constants path = some (pipeline, last) →
    path.length ≤ task.settings.depth → task.oracle.Rejects pipeline.text examples

theorem Task.exhausted_iff {settings : Settings} {schema : Schema} {constants : Constants}
    {examples : List Example} :
    Task.Exhausted ⟨Filter.oracle, settings, schema⟩ constants examples ↔
      ¬IsReachable schema constants settings.depth examples := by
  constructor
  · intro exhausted reachable
    obtain ⟨path, pipeline, last, leads, within, reproduces⟩ := reachable
    have accepts := (Program.accepts_iff_reproduces (.pipeline pipeline) examples).mpr reproduces
    exact Oracle.rejects_iff.mp (exhausted path pipeline last leads within) accepts
  · intro unreachable path pipeline last leads within
    refine Oracle.rejects_iff.mpr fun accepts => unreachable ?_
    exact ⟨path, pipeline, last, leads, within,
      (Program.accepts_iff_reproduces (.pipeline pipeline) examples).mp accepts⟩

namespace Synthesis

variable {task : Task} {constants : Constants} {examples : List Example} {wanted : Nat}

theorem exhausted_or_found (task : Task) (constants : Constants) (examples : List Example)
    (wanted : Nat) :
    task.Exhausted constants examples ∨
      ∃ pipelines : List Pipeline,
        (programs task examples constants wanted).result = .ok (pipelines.map .pipeline) ∧
          ∀ pipeline ∈ pipelines, pipeline.length ≤ task.settings.depth := by
  rcases result_pipelines task constants examples task.settings.depth wanted with
    ⟨_, unfit⟩ | ⟨first, others, something, accepted⟩
  · refine .inl fun path pipeline last leads within => ?_
    exact Oracle.rejects_iff.mpr (unfit path pipeline last leads within)
  · refine .inr ⟨first :: others, ?_, fun pipeline member => ?_⟩
    · rw [programs, Trace.result_bind_of_ok something]
    · obtain ⟨_, path, last, leads, within⟩ := accepted pipeline member
      rwa [Schema.length_of_follow leads]

/-- A synthesis that falls back asks what its search asks, and then goes on with the fallback. -/
theorem programs_of_exhausted (exhausted : task.Exhausted constants examples) (wanted : Nat) :
    programs task examples constants wanted =
      ((assembled task examples constants task.settings.depth).map ([·])).after
        (pipelines task examples constants task.settings.depth wanted).calls 1 := by
  rcases result_pipelines task constants examples task.settings.depth wanted with
    ⟨nothing, _⟩ | ⟨first, others, _, accepted⟩
  · rw [programs, Trace.bind_of_ok nothing]
    rfl
  · obtain ⟨accepts, path, last, leads, within⟩ := accepted first List.mem_cons_self
    exact absurd accepts (Oracle.rejects_iff.mp (exhausted path first last leads within))

theorem result_programs_of_exhausted (exhausted : task.Exhausted constants examples)
    (wanted : Nat) :
    (programs task examples constants wanted).result =
      (assembled task examples constants task.settings.depth).result.map ([·]) := by
  rw [programs_of_exhausted exhausted]
  rfl

end Synthesis

end FilterSynthesis
