import FilterSynthesis.CommandLine.Fixtures
import FilterSynthesis.Proofs.Document.Limits
import FilterSynthesis.Proofs.Evaluation
import FilterSynthesis.Proofs.Synthesis.Soundness

namespace FilterSynthesis

open CommandLine (Finding)

namespace CommandLine.Finding

variable {document : Document}

theorem reproduces_iff {text : String} {examples : List Example} :
    reproduces text examples = true ↔ ∀ tried ∈ examples, Filter.Fits text tried := by
  unfold reproduces
  rw [List.all_eq_true]
  refine forall₂_congr fun tried _ => ?_
  unfold Filter.Fits
  cases Filter.run text tried.input <;> simp

/-- The inputs of a document leave room for the outputs of every filter along the rules. -/
theorem inputs_of_document {bytes : Bytes} (read : Document.ofBytes bytes = .ok document) :
    ∀ tried ∈ document.examples,
      tried.input.WellFormed ∧ tried.input.depth < outputNesting := by
  intro tried member
  obtain ⟨wellFormed, shallow⟩ := (Document.examples_fit read tried member).input
  exact ⟨wellFormed, Nat.lt_of_le_of_lt shallow (by decide)⟩

theorem ofDocument_cases {bytes : Bytes} (read : Document.ofBytes bytes = .ok document)
    (settings : Settings) (verifies : settings.verifyAssembled = true) :
    (∃ error,
      (Synthesis.run Filter.oracle settings document.examples document.constants).result =
        .error error ∧ ofDocument settings document = .failed error) ∨
    ∃ first others,
      (Synthesis.run Filter.oracle settings document.examples document.constants).result =
        .ok (first :: others) ∧ ofDocument settings document = .passed first.text ∧
          ∀ tried ∈ document.examples, Filter.Fits first.text tried := by
  cases ends :
    (Synthesis.run Filter.oracle settings document.examples document.constants).result with
  | error error => exact Or.inl ⟨error, rfl, by simp only [ofDocument, ends]⟩
  | ok found =>
      obtain ⟨some, each⟩ := Synthesis.fits_of_run verifies (inputs_of_document read) ends
      obtain ⟨first, others, rfl⟩ := List.exists_cons_of_ne_nil some
      have fits := each first List.mem_cons_self
      have reproduced : reproduces first.text document.examples = true := reproduces_iff.mpr fits
      exact Or.inr ⟨first, others, rfl, by simp [ofDocument, ends, reproduced], fits⟩

end CommandLine.Finding

theorem Filter.keys_have_no_fields (value : Json) :
    ∃ error, Filter.run "keys | .a" value = .error error := by
  cases value with
  | object members => exact ⟨.failed (.noObject "a"), by cbv⟩
  | array elements => exact ⟨.failed (.noObject "a"), by cbv⟩
  | _ => exact ⟨.failed .noKeys, by cbv⟩

/-- At any depth, a document that was read from a text is never reported as unsound. It passes just
if the synthesis succeeds, and then with the first answer, which runs on every input to just the
outputs. The review that selected the answer asks for less: a filter may fail where no output is
wanted, so where none is wanted at all the review accepts one that fails. -/
theorem fixtures_are_never_unsound (bytes : Bytes) (document : Document)
    (read : Document.ofBytes bytes = .ok document) (depth : Nat) :
    (∀ text, Finding.ofDocument (({} : Settings).withDepth depth) document ≠ .unsound text) ∧
    ((∃ text, Finding.ofDocument (({} : Settings).withDepth depth) document = .passed text) ↔
      ∃ found, (Synthesis.run Filter.oracle (({} : Settings).withDepth depth) document.examples
        document.constants).result = .ok found) ∧
    (∀ found, (Synthesis.run Filter.oracle (({} : Settings).withDepth depth) document.examples
        document.constants).result = .ok found →
      ∃ first others, found = first :: others ∧
        Finding.ofDocument (({} : Settings).withDepth depth) document = .passed first.text ∧
          ∀ tried ∈ document.examples, Filter.Fits first.text tried) ∧
    (∀ policy text, (review Filter.oracle policy text document.examples).verdict.isMatch = true ↔
      ∀ tried ∈ document.examples, Filter.Fits text tried ∨ Filter.FailsUnnoticed text tried) ∧
    ((∀ tried ∈ document.examples, tried.output = []) →
      ∃ text, (∀ policy,
        (review Filter.oracle policy text document.examples).verdict.isMatch = true) ∧
          Finding.reproduces text document.examples = false) := by
  have outcome := Finding.ofDocument_cases read (({} : Settings).withDepth depth) rfl
  refine ⟨?_, ?_, ?_, ?_, ?_⟩
  · intro text reported
    rcases outcome with ⟨error, _, failed⟩ | ⟨first, others, _, passed, _⟩
    · cases failed.symm.trans reported
    · cases passed.symm.trans reported
  · rcases outcome with ⟨error, ends, failed⟩ | ⟨first, others, ends, passed, _⟩
    · simp [ends, failed]
    · exact iff_of_true ⟨first.text, passed⟩ ⟨first :: others, ends⟩
  · intro found ends
    rcases outcome with ⟨error, fails, _⟩ | ⟨first, others, succeeds, passed, fits⟩
    · cases fails.symm.trans ends
    · cases succeeds.symm.trans ends
      exact ⟨first, others, rfl, passed, fits⟩
  · intro policy text
    rw [← Oracle.accepts_iff policy, Filter.accepts_iff]
  · intro silent
    have unnoticed : ∀ tried ∈ document.examples,
        Filter.Fits "keys | .a" tried ∨ Filter.FailsUnnoticed "keys | .a" tried :=
      fun tried member => Or.inr ⟨Filter.keys_have_no_fields tried.input, silent tried member⟩
    refine ⟨"keys | .a", Filter.accepts_iff.mpr unnoticed, ?_⟩
    rw [Bool.eq_false_iff, Ne, Finding.reproduces_iff]
    intro fits
    obtain ⟨some, _⟩ := Document.ofBytes_eq_ok_iff.mp read
    obtain ⟨tried, member⟩ := List.exists_mem_of_ne_nil _ some
    obtain ⟨outputs, runs, _⟩ := fits tried member
    obtain ⟨error, fails⟩ := Filter.keys_have_no_fields tried.input
    cases runs.symm.trans fails

/-- Nothing is asked for of an empty array. The elements are found to fit, and a filter that fails
would be accepted as well. -/
theorem silent_fixture_passes :
    Document.ofBytes ("[[[[],[]]]]".toList.map fun char => char.toNat.toUInt8) =
      .ok ⟨[⟨.array [], []⟩], [], none⟩ ∧
    Finding.ofDocument (({} : Settings).withDepth 1) ⟨[⟨.array [], []⟩], [], none⟩ =
      .passed (Program.pipeline [.forEach]).text ∧
    ∃ text, (∀ policy,
      (review Filter.oracle policy text [⟨.array [], []⟩]).verdict.isMatch = true) ∧
        Finding.reproduces text [⟨.array [], []⟩] = false := by
  have read : Document.ofBytes ("[[[[],[]]]]".toList.map fun char => char.toNat.toUInt8) =
      .ok ⟨[⟨.array [], []⟩], [], none⟩ := by cbv
  have ends : (Synthesis.run Filter.oracle (({} : Settings).withDepth 1) [⟨.array [], []⟩]
      []).result = .ok [.pipeline [.forEach]] := by cbv
  obtain ⟨_, _, passes, _, accepts⟩ := fixtures_are_never_unsound _ _ read 1
  obtain ⟨first, others, listed, passed, _⟩ := passes _ ends
  cases listed
  exact ⟨read, passed, accepts (List.forall_mem_singleton.mpr rfl)⟩

end FilterSynthesis
