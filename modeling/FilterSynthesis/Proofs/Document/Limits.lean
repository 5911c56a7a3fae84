import FilterSynthesis.Document.Text
import FilterSynthesis.Proofs.Reading.Limits

namespace FilterSynthesis

/-- The input fits, and the outputs fit one level further in. -/
structure Example.FitsIn (room : Nat) (tried : Example) : Prop where
  input : tried.input.FitsIn room
  output : ∀ output ∈ tried.output, output.FitsIn (room - 1)

structure Example.Draft.FitsIn (room : Nat) (draft : Example.Draft) : Prop where
  input : ∀ input, draft.input = some input → input.FitsIn room
  output : ∀ outputs, draft.output = some outputs → ∀ output ∈ outputs, output.FitsIn (room - 1)

theorem Example.Draft.FitsIn.start (room : Nat) : Draft.FitsIn room {} := ⟨nofun, nofun⟩

def Document.Draft.FitsIn (room : Nat) (draft : Document.Draft) : Prop :=
  ∀ examples, draft.examples = some examples → ∀ tried ∈ examples, tried.FitsIn room

theorem Document.Draft.FitsIn.start (room : Nat) : Draft.FitsIn room {} := nofun

namespace Reading

theorem ensures_readExample (room : Nat) (bytes : Bytes) :
    (readExample room bytes).Ensures (·.FitsIn (room - 1)) := by
  refine ensures_expectRecord (Example.Draft.FitsIn.start (room - 1)) ?_ ?_ bytes
  · intro draft name part fits
    unfold readExampleField
    split
    · rw [Reader.ensures_map_iff]
      refine (ensures_readValue _ part).mono fun input fitting => ⟨?_, fits.output⟩
      rintro _ ⟨⟩
      exact fitting
    · rw [Reader.ensures_map_iff]
      refine (ensures_expectList (ensures_readValue _) part).mono fun outputs each =>
        ⟨fits.input, ?_⟩
      rintro _ ⟨⟩
      exact each
  · intro draft tried fits complete
    obtain ⟨input, output⟩ := draft
    cases input with
    | none => cases complete
    | some input =>
        cases output with
        | none => cases complete
        | some outputs =>
            cases complete
            exact ⟨fits.input input rfl, fits.output outputs rfl⟩

theorem ensures_readDocument (room : Nat) (bytes : Bytes) :
    (readDocument room bytes).Ensures fun document =>
      ∀ tried ∈ document.examples, tried.FitsIn (room - 3) := by
  refine ensures_expectRecord (Document.Draft.FitsIn.start (room - 3)) ?_ ?_ bytes
  · intro draft name part fits
    unfold readDocumentField
    split
    · rw [Reader.ensures_map_iff]
      refine (ensures_expectList (ensures_readExample _) part).mono fun examples each => ?_
      rintro _ ⟨⟩
      exact each
    · -- constants and a known answer leave the examples as they are
      split
      · rw [Reader.ensures_map_iff]
        exact Reader.ensures_of_forall fun _ => fits
      · rw [Reader.ensures_map_iff]
        exact Reader.ensures_of_forall fun _ => fits
  · intro draft document fits complete
    obtain ⟨examples, constants, expression⟩ := draft
    cases examples with
    | none => cases complete
    | some examples =>
        cases complete
        exact fits examples rfl

end Reading

namespace Document

variable {bytes : Bytes} {document : Document}

theorem ofBytes_eq_ok_iff :
    ofBytes bytes = .ok document ↔
      document.examples ≠ [] ∧ ∃ parsed,
        Reading.readDocument Reading.nestingLimit bytes = .ok parsed ∧ parsed.value = document := by
  unfold ofBytes
  cases Reading.readDocument Reading.nestingLimit bytes with
  | error fault => simp [withExamples]
  | ok parsed =>
      constructor
      · intro read
        simp only [withExamples] at read
        split at read
        · cases read
        · rename_i some
          cases read
          exact ⟨by simpa using some, parsed, rfl, rfl⟩
      · rintro ⟨some, _, ⟨⟩, rfl⟩
        simp [withExamples, some]

theorem examples_fit (read : ofBytes bytes = .ok document) :
    ∀ tried ∈ document.examples, tried.FitsIn (Reading.nestingLimit - 3) := by
  obtain ⟨_, parsed, answer, rfl⟩ := ofBytes_eq_ok_iff.mp read
  exact Reading.ensures_readDocument _ bytes parsed answer

end Document

end FilterSynthesis
