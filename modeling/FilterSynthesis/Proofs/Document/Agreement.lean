import FilterSynthesis.Proofs.Document.Format
import FilterSynthesis.Proofs.Document.Limits
import FilterSynthesis.Proofs.Evaluation
import FilterSynthesis.Proofs.Reading.Agreement

/-!
Documents that are read from a text and documents that are decoded from a value. A document takes
one JSON text off the front of the bytes and is the document that the value of this text is decoded
to. What follows is not looked at. -/

namespace FilterSynthesis

namespace Reading

open Reader (not_yields_error yields_map_iff yields_ok_iff yields_widen_iff)

variable {room : Nat} {bytes rest behind : Bytes} {value : Json}

theorem expectList_agrees {α : Type} {expected : String}
    {item : (room : Nat) → (part : Bytes) → Reader α part} {decode : Json → Except (Fault Unit) α}
    (each : ∀ part result rest value behind, (item (room - 1) part).Yields result rest →
      (readValue (room - 1) part).Yields value behind → rest = behind ∧ decode value = .ok result)
    {results : List α} (one : (expectList room expected item bytes).Yields results rest)
    (two : (readValue room bytes).Yields value behind) :
    rest = behind ∧ decodeList decode value = .ok results := by
  obtain ⟨first, others, spaced, opens, read⟩ := array_of_expectList one
  obtain ⟨elements, rfl, again⟩ := array_of_readValue spaced opens two
  obtain ⟨rfl, all⟩ := arrays_agree each read again
  exact ⟨rfl, decodeList_eq_ok_iff.mpr ⟨elements, rfl, all.flip⟩⟩

theorem exists_of_readLiteral {literal : Literal}
    (yields : (readLiteral room bytes).Yields literal rest) :
    ∃ value, (readValue room bytes).Yields value rest ∧ Literal.ofJson? value = some literal := by
  unfold readLiteral at yields
  split at yields
  · exact absurd yields not_yields_error
  · rename_i read
    split at yields
    · rename_i found
      obtain ⟨rfl, rfl⟩ := yields_ok_iff.mp yields
      exact ⟨_, ⟨_, read, rfl, rfl⟩, found⟩
    · exact absurd yields not_yields_error

theorem readLiteral_agrees {literal : Literal} (one : (readLiteral room bytes).Yields literal rest)
    (two : (readValue room bytes).Yields value behind) :
    rest = behind ∧ Literal.decode value = .ok literal := by
  obtain ⟨value, read, found⟩ := exists_of_readLiteral one
  obtain ⟨rfl, rfl⟩ := read.unique two
  exact ⟨rfl, Literal.decode_eq_ok_iff.mpr (Literal.toJson_of_ofJson? found)⟩

theorem exists_of_readExpression {expression : Option String}
    (yields : (readExpression bytes).Yields expression rest) :
    ∃ first others, dropBlanks bytes = first :: others ∧
      (ascii first = 'n' ∧ expression = none ∧
        (readWord (none : Option String) ['u', 'l', 'l'] (first :: others)).Yields none rest ∨
      ascii first = '"' ∧ ∃ text, expression = some text ∧
        (readString (first :: others)).Yields text rest) := by
  unfold readExpression at yields
  split at yields
  · exact absurd yields not_yields_error
  · rename_i first others spaced
    split at yields
    · rename_i initial
      rw [yields_widen_iff] at yields
      obtain ⟨rfl, _⟩ := readLetters_of_readWord yields
      exact ⟨first, others, spaced, .inl ⟨initial, rfl, yields⟩⟩
    · rw [yields_map_iff] at yields
      obtain ⟨text, yields, rfl⟩ := yields
      obtain ⟨quote, chars, there, opens, read⟩ := string_of_expectString yields
      exact ⟨quote, chars, there, .inr ⟨opens, text, rfl, read⟩⟩

theorem readExpression_agrees {expression : Option String}
    (one : (readExpression bytes).Yields expression rest)
    (two : (readValue room bytes).Yields value behind) :
    rest = behind ∧ Document.decodeExpression value = .ok expression := by
  obtain ⟨first, others, spaced, ⟨initial, rfl, read⟩ | ⟨quote, text, rfl, read⟩⟩ :=
    exists_of_readExpression one
  · obtain ⟨_, _, letters⟩ := readLetters_of_readWord read
    obtain ⟨rfl, _, again⟩ := null_of_readValue spaced initial two
    cases letters.symm.trans again
    exact ⟨rfl, rfl⟩
  · obtain ⟨_, rfl, again⟩ := string_of_readValue spaced quote two
    obtain ⟨rfl, rfl⟩ := read.unique again
    exact ⟨rfl, rfl⟩

theorem skips_readExpression {expression : Option String}
    (yields : (readExpression bytes).Yields expression rest) : Skips bytes rest := by
  obtain ⟨first, others, spaced, ⟨initial, _, read⟩ | ⟨quote, text, _, read⟩⟩ :=
    exists_of_readExpression yields
  · exact skips_readWord spaced (.inl ⟨initial, rfl⟩) read
  · exact skips_readString spaced quote read

theorem skips_readLiteral {literal : Literal}
    (yields : (readLiteral room bytes).Yields literal rest) : Skips bytes rest := by
  obtain ⟨value, read, _⟩ := exists_of_readLiteral yields
  exact skips_readValue read

theorem marks_example : Marks Example.format Example.decodeField := by
  refine marks_of_holds fun name known => ?_
  have names : name = "input" ∨ name = "output" := by simpa [Example.format] using known
  rcases names with rfl | rfl
  · exact ⟨_, _, _, Example.holds_input, fun _ => rfl⟩
  · exact ⟨_, _, _, Example.holds_output, fun _ => rfl⟩

theorem readExampleField_agrees {draft next : Example.Draft} {name : String}
    (one : (readExampleField room draft name bytes).Yields next rest)
    (two : (readValue room bytes).Yields value behind) :
    rest = behind ∧ Example.decodeField draft name value = .ok next := by
  unfold readExampleField at one
  unfold Example.decodeField
  split at one
  · rename_i first
    obtain ⟨input, read, rfl⟩ := yields_map_iff.mp one
    obtain ⟨rfl, rfl⟩ := read.unique two
    exact ⟨rfl, if_pos first⟩
  · rename_i second
    obtain ⟨output, read, rfl⟩ := yields_map_iff.mp one
    have each : ∀ part value rest right behind, (readValue (room - 1) part).Yields value rest →
        (readValue (room - 1) part).Yields right behind →
          rest = behind ∧ Except.ok (ε := Fault Unit) right = .ok value := by
      intro part value rest right behind left again
      obtain ⟨rfl, rfl⟩ := left.unique again
      exact ⟨rfl, rfl⟩
    obtain ⟨rfl, decoded⟩ := expectList_agrees each read two
    rw [if_neg second]
    exact ⟨rfl, map_eq_ok_iff.mpr ⟨_, decoded, rfl⟩⟩

theorem readExample_agrees {tried : Example} (one : (readExample room bytes).Yields tried rest)
    (two : (readValue room bytes).Yields value behind) :
    rest = behind ∧ Example.decode value = .ok tried :=
  expectRecord_agrees marks_example
    (fun _ _ _ _ _ _ _ left right => readExampleField_agrees left right) one two

theorem skips_readExample {tried : Example} (yields : (readExample room bytes).Yields tried rest) :
    Skips bytes rest := by
  refine skips_expectRecord (fun draft name part next rest read => ?_) yields
  unfold readExampleField at read
  split at read
  · obtain ⟨_, read, _⟩ := yields_map_iff.mp read
    exact skips_readValue read
  · obtain ⟨_, read, _⟩ := yields_map_iff.mp read
    exact skips_expectList (fun _ _ _ => skips_readValue) read

theorem marks_document : Marks Document.format Document.decodeField := by
  refine marks_of_holds fun name known => ?_
  have names : name = "examples" ∨ name = "constants" ∨ name = "expression" := by
    simpa [Document.format] using known
  rcases names with rfl | rfl | rfl
  · exact ⟨_, _, _, Document.holds_examples, fun _ => rfl⟩
  · exact ⟨_, _, _, Document.holds_constants, fun _ => rfl⟩
  · exact ⟨_, _, _, Document.holds_expression, fun _ => rfl⟩

theorem readDocumentField_agrees {draft next : Document.Draft} {name : String}
    (one : (readDocumentField room draft name bytes).Yields next rest)
    (two : (readValue room bytes).Yields value behind) :
    rest = behind ∧ Document.decodeField draft name value = .ok next := by
  unfold readDocumentField at one
  unfold Document.decodeField
  split at one
  · rename_i first
    rw [if_pos first]
    obtain ⟨examples, read, rfl⟩ := yields_map_iff.mp one
    obtain ⟨rfl, decoded⟩ :=
      expectList_agrees (fun _ _ _ _ _ left right => readExample_agrees left right) read two
    exact ⟨rfl, map_eq_ok_iff.mpr ⟨_, decoded, rfl⟩⟩
  · rename_i other
    rw [if_neg other]
    split at one
    · rename_i second
      rw [if_pos second]
      obtain ⟨constants, read, rfl⟩ := yields_map_iff.mp one
      obtain ⟨rfl, decoded⟩ :=
        expectList_agrees (fun _ _ _ _ _ left right => readLiteral_agrees left right) read two
      exact ⟨rfl, map_eq_ok_iff.mpr ⟨_, decoded, rfl⟩⟩
    · rename_i third
      rw [if_neg third]
      obtain ⟨expression, read, rfl⟩ := yields_map_iff.mp one
      obtain ⟨rfl, decoded⟩ := readExpression_agrees read two
      exact ⟨rfl, map_eq_ok_iff.mpr ⟨_, decoded, rfl⟩⟩

theorem readDocument_agrees {document : Document}
    (one : (readDocument room bytes).Yields document rest)
    (two : (readValue room bytes).Yields value behind) :
    rest = behind ∧ Document.decode value = .ok document :=
  expectRecord_agrees marks_document
    (fun _ _ _ _ _ _ _ left right => readDocumentField_agrees left right) one two

theorem skips_readDocument {document : Document}
    (yields : (readDocument room bytes).Yields document rest) : Skips bytes rest := by
  refine skips_expectRecord (fun draft name part next rest read => ?_) yields
  unfold readDocumentField at read
  split at read
  · obtain ⟨_, read, _⟩ := yields_map_iff.mp read
    exact skips_expectList (fun _ _ _ => skips_readExample) read
  · split at read
    · obtain ⟨_, read, _⟩ := yields_map_iff.mp read
      exact skips_expectList (fun _ _ _ => skips_readLiteral) read
    · obtain ⟨_, read, _⟩ := yields_map_iff.mp read
      exact skips_readExpression read

end Reading

namespace Document

/-- A document is read from the JSON text at the front of the bytes, and is what the value of this
text is decoded to, if it has a value: numbers out of range and deep nesting are passed over where
nobody asks for them. -/
theorem front_is_document {bytes : Bytes} {document : Document}
    (read : ofBytes bytes = .ok document) :
    ∃ rest, (Reading.skipValue bytes).Yields () rest ∧
      (∀ value behind, (Reading.readValue Reading.nestingLimit bytes).Yields value behind →
        behind = rest ∧ ofJson value = .ok document) ∧
      ∀ value, Reading.readWhole bytes = .ok value → Reading.dropBlanks rest = [] ∧
        ofJson value = .ok document := by
  obtain ⟨some, parsed, answer, rfl⟩ := ofBytes_eq_ok_iff.mp read
  have yields : (Reading.readDocument Reading.nestingLimit bytes).Yields parsed.value parsed.rest :=
    ⟨parsed, answer, rfl, rfl⟩
  have agrees : ∀ value behind,
      (Reading.readValue Reading.nestingLimit bytes).Yields value behind →
        behind = parsed.rest ∧ ofJson value = .ok parsed.value := by
    intro value behind again
    obtain ⟨same, decoded⟩ := Reading.readDocument_agrees yields again
    exact ⟨same.symm, ofJson_eq_ok_iff.mpr ⟨decoded, some⟩⟩
  refine ⟨parsed.rest, ?_, agrees, ?_⟩
  · exact (Reading.skips_readDocument yields).yields
  · intro value whole
    unfold Reading.readWhole at whole
    split at whole
    · cases whole
    · rename_i found rest shorter front
      obtain ⟨same, decoded⟩ := agrees found rest ⟨_, front, rfl, rfl⟩
      split at whole
      · rename_i blank
        cases whole
        exact ⟨same ▸ blank, decoded⟩
      · cases whole

theorem whole_text_is_document :
    ofBytes ("[[[1,[1]]]] ".toList.map fun char => char.toNat.toUInt8) =
      .ok ⟨[⟨.number (.int 1), [.number (.int 1)]⟩], [], none⟩ ∧
    Reading.readWhole ("[[[1,[1]]]] ".toList.map fun char => char.toNat.toUInt8) =
      .ok (.array [.array [.array [.number (.int 1), .array [.number (.int 1)]]]]) ∧
    ofJson (.array [.array [.array [.number (.int 1), .array [.number (.int 1)]]]]) =
      .ok ⟨[⟨.number (.int 1), [.number (.int 1)]⟩], [], none⟩ := by
  have read : ofBytes ("[[[1,[1]]]] ".toList.map fun char => char.toNat.toUInt8) =
      .ok ⟨[⟨.number (.int 1), [.number (.int 1)]⟩], [], none⟩ := by cbv
  have whole : Reading.readWhole ("[[[1,[1]]]] ".toList.map fun char => char.toNat.toUInt8) =
      .ok (.array [.array [.array [.number (.int 1), .array [.number (.int 1)]]]]) := by cbv
  obtain ⟨_, _, _, agrees⟩ := front_is_document read
  exact ⟨read, whole, (agrees _ whole).2⟩

end Document

theorem second_document_is_not_read :
    let first := "\x7b\"examples\":[\x7b\"input\":1,\"output\":[1]\x7d]\x7d"
    let second := "\x7b\"examples\":[\x7b\"input\":2,\"output\":[3]\x7d]\x7d"
    let bytes : Bytes := (first ++ second).toList.map fun char => char.toNat.toUInt8
    Document.ofBytes bytes = .ok ⟨[⟨.number (.int 1), [.number (.int 1)]⟩], [], none⟩ ∧
      Reading.readWhole bytes = .error ⟨.trailingCharacters, [], ⟨1, 40⟩⟩ := by
  constructor
  · cbv
  · cbv

end FilterSynthesis
