import FilterSynthesis.Proofs.Program.Injectivity
import FilterSynthesis.Proofs.Schema.Soundness
import FilterSynthesis.Proofs.Search.Exactness
import FilterSynthesis.Proofs.Search.Heap
import FilterSynthesis.Proofs.Text.ByteOrder
import Mathlib.Data.Prod.Lex

namespace FilterSynthesis

namespace Candidate

/-- A lower score goes first, then fewer operators, then the text with the lower bytes. -/
def Precedes (left right : Candidate) : Prop :=
  left.score < right.score ∨ left.score = right.score ∧
    (left.pipeline.length < right.pipeline.length ∨
      left.pipeline.length = right.pipeline.length ∧
        Utf8.encode left.text ≤ Utf8.encode right.text)

def key (candidate : Candidate) : Nat ×ₗ Nat ×ₗ String :=
  toLex (candidate.score, toLex (candidate.pipeline.length, candidate.text))

theorem before_iff_key_le {left right : Candidate} :
    left.before right = true ↔ left.key ≤ right.key := by
  unfold before key
  simp only [Prod.Lex.toLex_le_toLex]
  split
  · split <;> simp [*]
  · simp [*]

theorem precedes_iff_key_le {left right : Candidate} :
    left.Precedes right ↔ left.key ≤ right.key := by
  unfold Precedes key
  simp only [Prod.Lex.toLex_le_toLex, Utf8.encode_le_iff]

theorem before_total (left right : Candidate) :
    left.before right = true ∨ right.before left = true := by
  rw [before_iff_key_le, before_iff_key_le]
  exact le_total left.key right.key

theorem before_trans (first second third : Candidate) (left : first.before second = true)
    (right : second.before third = true) : first.before third = true := by
  rw [before_iff_key_le] at *
  exact left.trans right

theorem text_eq_of_key_eq {left right : Candidate} (same : left.key = right.key) :
    left.text = right.text :=
  congrArg (fun key => (ofLex (ofLex key).2).2) same

structure Stems (problem : Problem) (schema : Schema) (candidate : Candidate) : Prop where
  leads : ∃ path, schema.follow problem.spec.constants path =
    some (candidate.pipeline, candidate.schema)
  text : candidate.text = candidate.pipeline.text
  score : candidate.score =
    (problem.spec.review problem.oracle candidate.pipeline.text).verdict.score

theorem Stems.unique {problem : Problem} {schema : Schema} (distinct : schema.Distinct)
    {left right : Candidate} (first : left.Stems problem schema)
    (second : right.Stems problem schema) (text : left.text = right.text) : left = right := by
  obtain ⟨path, leads⟩ := first.leads
  obtain ⟨again, leadsAgain⟩ := second.leads
  have pipelines : left.pipeline = right.pipeline := by
    apply Pipeline.text_injective
    rw [← first.text, ← second.text, text]
  have schemas : left.schema = right.schema :=
    Schema.follow_unique distinct leads (pipelines ▸ leadsAgain)
  have scores : left.score = right.score := by rw [first.score, second.score, pipelines]
  cases left
  cases right
  simp_all

end Candidate

namespace Search

variable (problem : Problem) (schema : Schema)

/-- The states that a search goes through: the one that it starts with, and after the removal of a
candidate, which is dropped or extended by the rules of its schema in order, those between the rules
and after the last one. -/
inductive State.Arises : State → Prop
  | start : Arises (start problem schema)
  | drop {state : State} {candidate : Candidate} {rest : Heap Candidate} (arises : Arises state)
      (popped : state.frontier.pop? Candidate.before = some (candidate, rest)) :
      Arises { state with frontier := rest }
  | extend {state : State} {candidate : Candidate} {rest : Heap Candidate} (arises : Arises state)
      (popped : state.frontier.pop? Candidate.before = some (candidate, rest))
      (short : candidate.pipeline.length < problem.depth) {tried : List Rule}
      (begins : tried <+: candidate.schema.rules problem.spec.constants) :
      Arises (State.extend problem { state with frontier := rest } candidate.pipeline tried)

structure State.Grown (state : State) : Prop where
  ordered : state.frontier.Ordered Candidate.before
  stems : ∀ candidate ∈ state.frontier.toList, candidate.Stems problem schema

variable {problem : Problem} {schema : Schema} {state : State}

theorem grown_start : (start problem schema).Grown problem schema where
  ordered := ⟨by simp, by simp, trivial, trivial⟩
  stems := List.forall_mem_singleton.mpr ⟨⟨[], rfl⟩, rfl, rfl⟩

theorem State.Grown.pop? (grown : state.Grown problem schema) {candidate : Candidate}
    {rest : Heap Candidate}
    (popped : state.frontier.pop? Candidate.before = some (candidate, rest)) :
    candidate.Stems problem schema ∧ (∀ other ∈ rest.toList, candidate.before other = true) ∧
      State.Grown problem schema { state with frontier := rest } := by
  have same := Heap.toList_pop? popped
  obtain ⟨least, ordered⟩ := grown.ordered.pop? Candidate.before_total Candidate.before_trans popped
  refine ⟨grown.stems candidate (same.mem_iff.mpr List.mem_cons_self), least, ordered, ?_⟩
  exact fun other member =>
    grown.stems other (same.mem_iff.mpr (List.mem_cons_of_mem candidate member))

theorem State.Grown.attempt (grown : state.Grown problem schema) {path : RulePath}
    {pipeline : Pipeline} {last : Schema}
    (leads : schema.follow problem.spec.constants path = some (pipeline, last)) :
    (state.attempt problem pipeline last).Grown problem schema := by
  unfold State.attempt
  dsimp only
  split
  · exact ⟨grown.ordered, grown.stems⟩
  · refine ⟨grown.ordered.insert Candidate.before_total Candidate.before_trans _, ?_⟩
    intro candidate member
    rcases List.mem_cons.mp ((Heap.toList_insert _ _ _).mem_iff.mp member) with rfl | earlier
    · exact ⟨⟨path, leads⟩, rfl, rfl⟩
    · exact grown.stems candidate earlier

theorem State.Grown.extend (grown : state.Grown problem schema) {path : RulePath}
    {pipeline : Pipeline} {last : Schema}
    (leads : schema.follow problem.spec.constants path = some (pipeline, last))
    {rules : List Rule} (within : ∀ rule ∈ rules, rule ∈ last.rules problem.spec.constants) :
    (state.extend problem pipeline rules).Grown problem schema := by
  induction rules generalizing state with
  | nil => exact grown
  | cons rule rest induction =>
      obtain ⟨here, later⟩ := List.forall_mem_cons.mp within
      obtain ⟨longer, leadsOn⟩ := Schema.exists_follow_of_mem leads here
      simp only [State.extend]
      split
      · exact grown.attempt leadsOn
      · exact induction (grown.attempt leadsOn) later

theorem State.Arises.grown (arises : state.Arises problem schema) :
    state.Grown problem schema := by
  induction arises with
  | start => exact grown_start
  | drop _ popped grown => exact (grown.pop? popped).2.2
  | extend _ popped _ begins grown =>
      obtain ⟨stems, _, rest⟩ := grown.pop? popped
      obtain ⟨path, leads⟩ := stems.leads
      exact rest.extend leads begins.subset

theorem State.Grown.unique (grown : state.Grown problem schema) (distinct : schema.Distinct)
    {left right : Candidate} (first : left ∈ state.frontier.toList)
    (second : right ∈ state.frontier.toList) (same : left.key = right.key) : left = right :=
  (grown.stems left first).unique distinct (grown.stems right second)
    (Candidate.text_eq_of_key_eq same)

end Search

end FilterSynthesis
