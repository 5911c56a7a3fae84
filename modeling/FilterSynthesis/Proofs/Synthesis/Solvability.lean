import FilterSynthesis.Proofs.Program.Assembly
import FilterSynthesis.Proofs.Schema.Lattice
import FilterSynthesis.Proofs.Search.Path
import FilterSynthesis.Synthesis.Basic

namespace FilterSynthesis

theorem isMatch_review_iff {oracle : Oracle} {policy : ScorePolicy} {text : String}
    {examples : List Example} :
    (review oracle policy text examples).verdict.isMatch = true ↔
      ∀ tried ∈ examples,
        Json.sameElements (oracle.answer text tried.input) tried.output = true := by
  induction examples with
  | nil => simp [review]
  | cons first rest induction =>
      rw [List.forall_mem_cons, ← induction]
      simp only [review]
      split
      · rename_i same
        simp [same]
      · rename_i differs
        cases policy <;> simp [differs]

/-- Whichever way a text that fails is scored, the review of it against the examples is a match. -/
def Oracle.Accepts (oracle : Oracle) (text : String) (examples : List Example) : Prop :=
  ∀ policy, (review oracle policy text examples).verdict.isMatch = true

theorem Oracle.accepts_iff {oracle : Oracle} {text : String} {examples : List Example}
    (policy : ScorePolicy) :
    oracle.Accepts text examples ↔ (review oracle policy text examples).verdict.isMatch = true := by
  constructor
  · exact fun accepts => accepts policy
  · intro found other
    exact isMatch_review_iff.mpr (isMatch_review_iff.mp found)

def Program.Reproduces (program : Program) (examples : List Example) : Prop :=
  ∀ tried ∈ examples,
    Json.sameElements (Filter.oracle.answer program.text tried.input) tried.output = true

theorem Program.accepts_iff_reproduces (program : Program) (examples : List Example) :
    Filter.oracle.Accepts program.text examples ↔ program.Reproduces examples :=
  (Oracle.accepts_iff .firstMismatch).trans isMatch_review_iff

theorem Json.WellFormed.project {value : Json} (wellFormed : value.WellFormed) (key : String) :
    (Synthesis.project key value).WellFormed := by
  unfold Synthesis.project
  cases found : value.lookup? key with
  | none => exact .null
  | some held =>
      cases value with
      | object members => exact wellFormed.of_member (Entries.mem_of_lookup found)
      | _ => cases found

theorem Synthesis.depth_project_le (value : Json) (key : String) :
    (project key value).depth ≤ value.depth := by
  cases value with
  | object members => exact (depth_project_lt members key).le
  | _ => exact Nat.zero_le _

namespace Example

def under (key : String) (tried : Example) : Example :=
  { tried with output := (tried.output.take 1).map (Synthesis.project key) }

def AsksForRecord (keys : List String) (tried : Example) : Prop :=
  ∃ members, tried.output = [.object members] ∧ ∀ key, key ∈ Entries.keys members ↔ key ∈ keys

/-- The outputs are well-formed and leave room for one more level. -/
def IsModest (tried : Example) : Prop :=
  ∀ output ∈ tried.output, output.WellFormed ∧ output.depth < outputNesting

theorem IsModest.under {tried : Example} (modest : tried.IsModest) (key : String) :
    (tried.under key).IsModest := by
  intro output member
  obtain ⟨head, first, rfl⟩ := List.mem_map.mp member
  obtain ⟨wellFormed, shallow⟩ := modest head (List.mem_of_mem_take first)
  exact ⟨wellFormed.project key, (Synthesis.depth_project_le head key).trans_lt shallow⟩

end Example

/-- A path of limited length leads to a pipeline that reproduces the examples. -/
def IsReachable (schema : Schema) (constants : Constants) (depth : Nat)
    (examples : List Example) : Prop :=
  ∃ path pipeline last, schema.follow constants path = some (pipeline, last) ∧
    path.length ≤ depth ∧ (Program.pipeline pipeline).Reproduces examples

/-- Examples that have a solution, with pipelines of limited length from a schema of the inputs. -/
inductive Solvable (schema : Schema) (constants : Constants) (depth : Nat) : List Example → Prop
  | pipeline {examples : List Example} (reachable : IsReachable schema constants depth examples) :
      Solvable schema constants depth examples
  | record {examples : List Example} {keys : List String}
      (records : ∀ tried ∈ examples, tried.AsksForRecord keys)
      (fields : ∀ key ∈ keys, Solvable schema constants depth (examples.map (·.under key))) :
      Solvable schema constants depth examples

namespace Schema

theorem exists_dict_of_objects {values : List Json} (nonempty : values ≠ [])
    (objects : ∀ value ∈ values, ∃ members, value = .object members) :
    ∃ fields rest, common values = .dict fields rest := by
  have below : Below (.dict [] .none) (common values) := by
    apply below_common_iff.mpr
    intro value member
    obtain ⟨members, rfl⟩ := objects value member
    exact below_dict_iff.mpr ⟨by simp, fun _ _ => .none _⟩
  obtain ⟨first, member⟩ := List.exists_mem_of_ne_nil values nonempty
  have above := common_below member
  obtain ⟨members, rfl⟩ := objects first member
  cases shared : common values with
  | dict fields rest => exact ⟨fields, rest, rfl⟩
  | any =>
      rw [shared] at above
      cases above
  | _ =>
      rw [shared] at below
      cases below

theorem mem_keys_common_iff {values : List Json} {fields : List (String × Schema)} {rest : Schema}
    (shared : common values = .dict fields rest) {key : String} :
    key ∈ Entries.keys fields ↔ ∀ value ∈ values, ∃ held, value.lookup? key = some held := by
  rw [Entries.mem_keys_iff]
  constructor
  · intro held value member
    obtain ⟨field, found⟩ := held
    obtain ⟨members, rfl⟩ := isObject_of_common shared member
    have below := common_below member
    rw [shared] at below
    obtain ⟨held, there, _⟩ := (below_dict_iff.mp below).1 key field found
    exact ⟨held, there⟩
  · intro held
    have below : Below (.dict [(key, .none)] .none) (common values) := by
      apply below_common_iff.mpr
      intro value member
      obtain ⟨members, rfl⟩ := isObject_of_common shared member
      obtain ⟨value, there⟩ := held _ member
      refine below_dict_iff.mpr ⟨fun other field found => ?_, fun _ _ => .none _⟩
      cases List.mem_singleton.mp (Entries.mem_of_lookup found)
      exact ⟨value, there, .none _⟩
    rw [shared] at below
    cases below with
    | dict keys _ _ => exact keys key .none List.lookup_cons_self

end Schema

namespace Synthesis

theorem heads?_eq_some_iff {examples : List Example} {heads : List Json} :
    heads? examples = some heads ↔ examples.map (·.output.head?) = heads.map some := by
  induction examples generalizing heads with
  | nil => cases heads <;> simp [heads?]
  | cons first rest induction =>
      cases output : first.output with
      | nil => cases heads <;> simp [heads?, output]
      | cons head others =>
          cases heads with
          | nil => cases found : heads? rest <;> simp [heads?, output, found]
          | cons other heads =>
              rw [List.map_cons, List.map_cons, output, List.head?_cons, List.cons.injEq,
                ← induction]
              cases found : heads? rest <;> simp [heads?, output, found]

theorem exists_head {examples : List Example} {heads : List Json}
    (firsts : heads? examples = some heads) {tried : Example} (member : tried ∈ examples) :
    ∃ head ∈ heads, ∃ others, tried.output = head :: others := by
  have listed : tried.output.head? ∈ heads.map some := by
    rw [← heads?_eq_some_iff.mp firsts]
    exact List.mem_map_of_mem member
  obtain ⟨head, within, equal⟩ := List.mem_map.mp listed
  exact ⟨head, within, List.head?_eq_some_iff.mp equal.symm⟩

theorem output_ne_nil {examples : List Example} {heads : List Json}
    (firsts : heads? examples = some heads) {tried : Example} (member : tried ∈ examples) :
    tried.output ≠ [] := by
  obtain ⟨head, _, others, output⟩ := exists_head firsts member
  rw [output]
  exact List.cons_ne_nil head others

theorem exists_tried {examples : List Example} {heads : List Json}
    (firsts : heads? examples = some heads) {head : Json} (member : head ∈ heads) :
    ∃ tried ∈ examples, ∃ others, tried.output = head :: others := by
  have listed : some head ∈ examples.map (·.output.head?) := by
    rw [heads?_eq_some_iff.mp firsts]
    exact List.mem_map_of_mem member
  obtain ⟨tried, within, equal⟩ := List.mem_map.mp listed
  exact ⟨tried, within, List.head?_eq_some_iff.mp equal⟩

theorem exists_heads {examples : List Example} (nonempty : ∀ tried ∈ examples, tried.output ≠ []) :
    ∃ heads, heads? examples = some heads := by
  induction examples with
  | nil => exact ⟨[], rfl⟩
  | cons first rest induction =>
      obtain ⟨here, there⟩ := List.forall_mem_cons.mp nonempty
      obtain ⟨heads, found⟩ := induction there
      obtain ⟨head, others, output⟩ := List.exists_cons_of_ne_nil here
      exact ⟨head :: heads, by simp [heads?, output, found]⟩

theorem withOutputs_map {examples : List Example} {heads : List Json}
    (firsts : heads? examples = some heads) (change : Json → Json) :
    withOutputs examples (heads.map change) =
      examples.map fun tried => { tried with output := (tried.output.take 1).map change } := by
  induction examples generalizing heads with
  | nil => rfl
  | cons first rest induction =>
      have equal := heads?_eq_some_iff.mp firsts
      cases heads with
      | nil => simp at equal
      | cons head heads =>
          rw [List.map_cons, List.map_cons, List.cons.injEq] at equal
          obtain ⟨others, output⟩ := List.head?_eq_some_iff.mp equal.1
          have later := induction (heads?_eq_some_iff.mpr equal.2)
          rw [withOutputs] at later ⊢
          rw [List.map_cons, List.zipWith_cons_cons, later, List.map_cons, output]
          rfl

theorem withOutputs_heads {examples : List Example} {heads : List Json}
    (firsts : heads? examples = some heads) :
    withOutputs examples heads =
      examples.map fun tried => { tried with output := tried.output.take 1 } := by
  have alone := withOutputs_map firsts id
  simpa only [List.map_id] using alone

theorem withOutputs_project {examples : List Example} {heads : List Json}
    (firsts : heads? examples = some heads) (key : String) :
    withOutputs examples (heads.map (project key)) = examples.map (·.under key) :=
  withOutputs_map firsts (project key)

theorem length_of_reproduces_heads {examples : List Example} {heads : List Json}
    (firsts : heads? examples = some heads) {program : Program}
    (reproduces : program.Reproduces (withOutputs examples heads)) {tried : Example}
    (member : tried ∈ examples) :
    (Filter.oracle.answer program.text tried.input).length = 1 := by
  obtain ⟨head, _, others, output⟩ := exists_head firsts member
  rw [withOutputs_heads firsts] at reproduces
  have same := reproduces _ (List.mem_map_of_mem member)
  rw [output] at same
  exact Json.length_eq_of_sameElements same

end Synthesis

end FilterSynthesis
