import FilterSynthesis.Proofs.Synthesis.Stages

/-!
Two syntheses side by side. A relation between traces that going on with a result keeps relates two
whole syntheses, record by record and field by field, as soon as it relates their searches for
pipelines and their final reviews.
-/

namespace FilterSynthesis

namespace Trace

variable {α β : Type}

theorem map_eq_bind (change : α → β) (trace : Trace α) :
    trace.map change = trace.bind fun value => ⟨.ok (change value), [], 0⟩ := by
  obtain ⟨result, calls, searches⟩ := trace
  cases result with
  | error error => rfl
  | ok value => simp [map, bind, after, Except.map]

/-- The relation holds between equal answers, between equal failures within the depth, and is kept
by going on. -/
structure Congruence (related : ∀ {α : Type}, Trace α → Trace α → Prop) : Prop where
  answer : ∀ {α : Type} (value : α), related ⟨.ok value, [], 0⟩ ⟨.ok value, [], 0⟩
  exhausted : ∀ {α : Type} (depth : Nat),
    related (fail (α := α) (.outOfDepth depth)) (fail (.outOfDepth depth))
  bind : ∀ {α β : Type} {first second : Trace α} {next later : α → Trace β},
    related first second → (∀ value, related (next value) (later value)) →
      related (first.bind next) (second.bind later)

namespace Congruence

variable {related : ∀ {α : Type}, Trace α → Trace α → Prop}

theorem map (congruence : Congruence related) {first second : Trace α}
    (relates : related first second) (change : α → β) :
    related (first.map change) (second.map change) := by
  rw [map_eq_bind, map_eq_bind]
  exact congruence.bind relates fun value => congruence.answer (change value)

theorem eq : Congruence fun first second => first = second where
  answer _ := rfl
  exhausted _ := rfl
  bind same agree := by rw [same, funext agree]

end Congruence

end Trace

structure Task.Relates (related : ∀ {α : Type}, Trace α → Trace α → Prop) (task other : Task) :
    Prop where
  depth : task.settings.depth = other.settings.depth
  pipelines : ∀ examples constants depth wanted, related
    (Synthesis.pipelines task examples constants depth wanted)
    (Synthesis.pipelines other examples constants depth wanted)
  verified : ∀ examples constants program, related
    (Synthesis.verified task examples constants program)
    (Synthesis.verified other examples constants program)

namespace Synthesis

variable {related : ∀ {α : Type}, Trace α → Trace α → Prop} {task other : Task}
  {constants : Constants} {examples : List Example} {heads : List Json} {depth : Nat}

theorem related_wrapped (congruence : Trace.Congruence related)
    (relates : task.Relates related other) :
    related (wrapped task examples heads constants depth)
      (wrapped other examples heads constants depth) := by
  unfold wrapped
  split
  · exact congruence.exhausted depth
  · refine congruence.bind (relates.pipelines _ _ _ _) fun outcome => ?_
    cases outcome with
    | found first others => exact congruence.answer _
    | exhausted reached => exact congruence.exhausted reached

theorem related_fieldPrograms (congruence : Trace.Congruence related) {bound : Nat}
    {fewer : ∀ key, headDepth (withOutputs examples (heads.map (project key))) < bound}
    {keys : List String}
    (each : ∀ key, related
      (programs task (withOutputs examples (heads.map (project key))) constants 1)
      (programs other (withOutputs examples (heads.map (project key))) constants 1)) :
    related (fieldPrograms task examples heads bound fewer constants depth keys)
      (fieldPrograms other examples heads bound fewer constants depth keys) := by
  induction keys with
  | nil =>
      rw [fieldPrograms, fieldPrograms]
      exact congruence.answer _
  | cons key rest induction =>
      rw [fieldPrograms, fieldPrograms]
      refine congruence.bind (each key) fun found => ?_
      cases found with
      | nil => exact congruence.exhausted depth
      | cons program others => exact congruence.map induction _

theorem related_assembled (congruence : Trace.Congruence related)
    (relates : task.Relates related other)
    (smaller : ∀ projected, headDepth projected < headDepth examples →
      related (programs task projected constants 1) (programs other projected constants 1)) :
    related (assembled task examples constants depth)
      (assembled other examples constants depth) := by
  cases firsts : heads? examples with
  | none =>
      rw [assembled_of_no_heads firsts, assembled_of_no_heads firsts]
      exact congruence.exhausted depth
  | some heads =>
      by_cases isDict : ∃ fields values, Schema.common heads = .dict fields values
      · obtain ⟨fields, values, shared⟩ := isDict
        rw [assembled_of_dict firsts shared, assembled_of_dict firsts shared]
        refine congruence.bind (related_fieldPrograms congruence fun key => ?_)
          fun record => relates.verified examples constants (.record record)
        exact smaller _ (headDepth_project_lt firsts shared key)
      · have noDict : ∀ fields values, Schema.common heads ≠ .dict fields values :=
          fun fields values shared => isDict ⟨fields, values, shared⟩
        rw [assembled_of_no_dict firsts noDict, assembled_of_no_dict firsts noDict]
        exact congruence.bind (related_wrapped congruence relates)
          (relates.verified examples constants)

theorem related_programs (congruence : Trace.Congruence related)
    (relates : task.Relates related other) (wanted : Nat) :
    related (programs task examples constants wanted)
      (programs other examples constants wanted) := by
  induction bound : headDepth examples using Nat.strongRecOn generalizing examples wanted with
  | ind depth induction =>
      rw [programs, programs, relates.depth]
      refine congruence.bind (relates.pipelines _ _ _ _) fun outcome => ?_
      cases outcome with
      | found first others => exact congruence.answer _
      | exhausted reached =>
          refine congruence.map (related_assembled congruence relates fun projected fewer => ?_) _
          exact induction _ (bound ▸ fewer) 1 rfl

end Synthesis

end FilterSynthesis
