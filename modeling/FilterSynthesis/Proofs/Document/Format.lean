import FilterSynthesis.Document.Basic
import FilterSynthesis.Proofs.Json.WellFormed
import FilterSynthesis.Proofs.Reading.Fields
import Mathlib.Data.List.Forall2
import Mathlib.Data.Set.List

namespace FilterSynthesis

theorem decodeList_go_eq_ok_iff {α : Type} {item : Json → Except (Fault Unit) α}
    {elements : List Json} {results : List α} (index : Nat) :
    decodeList.go item index elements = .ok results ↔
      List.Forall₂ (fun element result => item element = .ok result) elements results := by
  induction elements generalizing index results with
  | nil => cases results <;> simp [decodeList.go]
  | cons element rest induction =>
      cases decoded : item element with
      | error fault => cases results <;> simp [decodeList.go, decoded]
      | ok value =>
          cases results with
          | nil => cases others : decodeList.go item (index + 1) rest <;>
              simp [decodeList.go, decoded, others, Except.map]
          | cons result results =>
              rw [List.forall₂_cons, ← induction (index + 1), decodeList.go, decoded]
              cases decodeList.go item (index + 1) rest <;> simp [Except.map]

theorem decodeList_eq_ok_iff {α : Type} {item : Json → Except (Fault Unit) α} {value : Json}
    {results : List α} :
    decodeList item value = .ok results ↔
      ∃ elements, value = .array elements ∧
        List.Forall₂ (fun element result => item element = .ok result) elements results := by
  cases value with
  | array elements =>
      rw [decodeList, decodeList_go_eq_ok_iff]
      simp
  | _ => simp [decodeList]

theorem decodeList_ok_eq_ok_iff {value : Json} {results : List Json} :
    decodeList .ok value = .ok results ↔ value = .array results := by
  rw [decodeList_eq_ok_iff]
  simp [List.forall₂_eq_eq_eq]

theorem exists_forall₂_iff {α β : Type} {related : α → β → Prop} {values : List α} :
    (∃ results, List.Forall₂ related values results) ↔
      ∀ value ∈ values, ∃ result, related value result := by
  induction values with
  | nil => simp
  | cons value rest induction =>
      rw [List.forall_mem_cons, ← induction]
      constructor
      · rintro ⟨_, here | ⟨here, later⟩⟩
        exact ⟨⟨_, here⟩, ⟨_, later⟩⟩
      · rintro ⟨⟨result, here⟩, ⟨results, later⟩⟩
        exact ⟨result :: results, .cons here later⟩

namespace Literal

theorem ofJson?_toJson (literal : Literal) : ofJson? literal.toJson = some literal := by
  cases literal with
  | int value =>
      have signed : Number.IsSigned value.toInt := ⟨value.le_toInt, value.toInt_lt⟩
      rw [toJson, ofJson?, if_pos signed, Int64.ofInt_toInt]
  | _ => rfl

theorem toJson_of_ofJson? {value : Json} {literal : Literal} (read : ofJson? value = some literal) :
    literal.toJson = value := by
  unfold ofJson? at read
  split at read
  · cases read
    rfl
  · split at read
    · rename_i signed
      cases read
      rw [toJson, Int64.toInt_ofInt_of_le signed.1 signed.2]
    · cases read
  · cases read
    rfl
  · cases read

theorem decode_eq_ok_iff {value : Json} {literal : Literal} :
    decode value = .ok literal ↔ literal.toJson = value := by
  unfold decode
  constructor
  · intro decoded
    split at decoded
    · rename_i read
      cases decoded
      exact toJson_of_ofJson? read
    · cases decoded
  · rintro rfl
    rw [ofJson?_toJson]

theorem decodeList_eq_ok_iff {value : Json} {literals : List Literal} :
    decodeList decode value = .ok literals ↔ value = .array (literals.map toJson) := by
  have each (elements : List Json) :
      List.Forall₂ (fun element literal => decode element = .ok literal) elements literals ↔
        elements = literals.map toJson := by
    rw [← List.forall₂_eq_eq_eq, List.forall₂_map_right_iff]
    simp only [decode_eq_ok_iff]
    simp only [eq_comm]
  rw [FilterSynthesis.decodeList_eq_ok_iff]
  simp [each]

end Literal

inductive Json.IsConstant : Json → Prop
  | bool (value : Bool) : IsConstant (.bool value)
  | int {value : Int} (signed : Number.IsSigned value) : IsConstant (.number (.int value))
  | string (text : String) : IsConstant (.string text)

theorem Literal.isConstant_iff {value : Json} :
    value.IsConstant ↔ ∃ literal : Literal, literal.toJson = value := by
  constructor
  · rintro (flag | signed | text)
    · exact ⟨.bool flag, rfl⟩
    · rename_i number
      refine ⟨.int (.ofInt number), ?_⟩
      rw [Literal.toJson, Int64.toInt_ofInt_of_le signed.1 signed.2]
    · exact ⟨.str text, rfl⟩
  · rintro ⟨literal, rfl⟩
    cases literal with
    | bool flag => exact .bool flag
    | int number => exact .int ⟨number.le_toInt, number.toInt_lt⟩
    | str text => exact .string text

theorem Literal.forall_isConstant_iff {values : List Json} :
    (∀ value ∈ values, value.IsConstant) ↔
        ∃ literals : List Literal, literals.map toJson = values := by
  have range := congrArg (values ∈ ·) (Set.range_list_map toJson)
  simp only [isConstant_iff]
  exact range.symm.to_iff

/-- The value spells the example: as an object that has both fields, among whatever else it has, or
as an array of the two. -/
inductive Example.Spelled (tried : Example) : Json → Prop
  | fields {members : List (String × Json)} (input : members.lookup "input" = some tried.input)
      (output : members.lookup "output" = some (.array tried.output)) :
      Spelled tried (.object members)
  | positions : Spelled tried (.array [tried.input, .array tried.output])

namespace Example

open RecordFormat

theorem holds_input : Holds format decodeField "input" .ok Draft.input where
  known := by decide
  takes _ _ := ⟨_, rfl⟩
  here answer := by
    rw [decodeField, if_pos rfl] at answer
    cases answer
    exact ⟨_, rfl, rfl⟩
  there listed apart answer := by
    rw [decodeField, if_neg apart] at answer
    obtain ⟨output, _, rfl⟩ := map_eq_ok_iff.mp answer
    rfl

theorem holds_output : Holds format decodeField "output" (decodeList .ok) Draft.output where
  known := by decide
  takes decoded state := ⟨_, map_eq_ok_iff.mpr ⟨_, decoded, rfl⟩⟩
  here answer := by
    rw [decodeField, if_neg (by decide)] at answer
    obtain ⟨output, decoded, rfl⟩ := map_eq_ok_iff.mp answer
    exact ⟨output, decoded, rfl⟩
  there := by
    intro state other value next listed apart answer
    have first : other = "input" := by simpa [format, apart] using listed
    rw [decodeField, if_pos first] at answer
    cases answer
    rfl

theorem complete_eq_ok_iff {draft : Draft} {tried : Example} :
    format.complete draft = .ok tried ↔
      draft.input = some tried.input ∧ draft.output = some tried.output := by
  obtain ⟨input, output⟩ := draft
  obtain ⟨wanted, outputs⟩ := tried
  cases input <;> cases output <;> simp [format]

theorem decode_object_eq_ok_iff {members : List (String × Json)}
    (distinct : (Entries.keys members).Nodup) {tried : Example} :
    decode (.object members) = .ok tried ↔ ∃ draft : Draft,
      Gives .ok (members.lookup "input") draft.input ∧
        Gives (decodeList .ok) (members.lookup "output") draft.output ∧
        format.complete draft = .ok tried := by
  rw [decode, RecordFormat.ofJson_object_eq_ok_iff]
  constructor
  · rintro ⟨final, taken, complete⟩
    exact ⟨final, holds_input.gives_of_ofMembers distinct rfl taken,
      holds_output.gives_of_ofMembers distinct rfl taken, complete⟩
  · rintro ⟨draft, input, output, complete⟩
    have takes : ∀ member ∈ members, member.1 ∈ format.names → ∀ state,
        ∃ next, decodeField state member.1 member.2 = .ok next := by
      rintro ⟨key, value⟩ listed known
      have found := Entries.lookup_of_mem distinct listed
      have names : key = "input" ∨ key = "output" := by simpa [format] using known
      rcases names with rfl | rfl
      · exact holds_input.takes_of_gives input found
      · exact holds_output.takes_of_gives output found
    obtain ⟨final, taken⟩ := RecordFormat.exists_ofMembers takes format.start
    have sameInput := (holds_input.gives_of_ofMembers distinct rfl taken).unique input
    have sameOutput := (holds_output.gives_of_ofMembers distinct rfl taken).unique output
    obtain rfl : final = draft := by
      cases final
      cases draft
      simp_all only
    exact ⟨final, taken, complete⟩

theorem decode_object_iff_spelled {members : List (String × Json)}
    (distinct : (Entries.keys members).Nodup) {tried : Example} :
    decode (.object members) = .ok tried ↔ tried.Spelled (.object members) := by
  rw [decode_object_eq_ok_iff distinct]
  constructor
  · rintro ⟨draft, input, output, complete⟩
    obtain ⟨first, second⟩ := complete_eq_ok_iff.mp complete
    rw [first] at input
    rw [second] at output
    obtain ⟨_, found, ⟨⟩⟩ := gives_some_iff.mp input
    obtain ⟨_, listed, decoded⟩ := gives_some_iff.mp output
    rw [decodeList_ok_eq_ok_iff.mp decoded] at listed
    exact .fields found listed
  · rintro ⟨input, output⟩
    refine ⟨⟨some tried.input, some tried.output⟩, ?_, ?_, rfl⟩
    · exact gives_some_iff.mpr ⟨_, input, rfl⟩
    · exact gives_some_iff.mpr ⟨_, output, decodeList_ok_eq_ok_iff.mpr rfl⟩

theorem decode_pair (input : Json) (outputs others : List Json) :
    decode (.array (input :: .array outputs :: others)) =
      if others = [] then .ok ⟨input, outputs⟩
      else .error ⟨.tooManyElements (others.length + 2), [], ()⟩ := by
  have listed : decodeList .ok (.array outputs) = .ok outputs := decodeList_ok_eq_ok_iff.mpr rfl
  cases others <;> simp [decode, RecordFormat.ofJson, RecordFormat.ofElements, format, decodeField,
    listed, Except.map]

theorem decode_array_eq_ok_iff {elements : List Json} {tried : Example} :
    decode (.array elements) = .ok tried ↔ tried.Spelled (.array elements) := by
  constructor
  · intro decoded
    match elements with
    | [] => cases decoded
    | [input] => cases decoded
    | input :: output :: others =>
        cases output with
        | array outputs =>
            rw [decode_pair] at decoded
            split at decoded
            · rename_i last
              subst last
              cases decoded
              exact .positions
            · cases decoded
        | _ => cases decoded
  · rintro ⟨⟩
    exact (decode_pair tried.input tried.output []).trans (if_pos rfl)

theorem decode_eq_ok_iff {value : Json} (wellFormed : value.WellFormed) {tried : Example} :
    decode value = .ok tried ↔ tried.Spelled value := by
  cases wellFormed with
  | object distinct each =>
      exact decode_object_iff_spelled distinct
  | array each => exact decode_array_eq_ok_iff
  | _ => exact iff_of_false nofun nofun

theorem decode_toJson (tried : Example) : decode tried.toJson = .ok tried := by
  have distinct :
      (Entries.keys [("input", tried.input), ("output", .array tried.output)]).Nodup := by
    simp
  exact (decode_object_iff_spelled distinct).mpr (.fields rfl rfl)

end Example

/-- The members of an object spell the document, among whatever other members there are. -/
structure Document.Spelled (document : Document) (members : List (String × Json)) : Prop where
  examples : ∃ values, members.lookup "examples" = some (.array values) ∧
    List.Forall₂ (fun value tried => tried.Spelled value) values document.examples
  constants : members.lookup "constants" = none ∧ document.constants = [] ∨
    members.lookup "constants" = some (.array (document.constants.map Literal.toJson))
  expression : (members.lookup "expression" = none ∨ members.lookup "expression" = some .null) ∧
      document.expression = none ∨
    ∃ text, members.lookup "expression" = some (.string text) ∧ document.expression = some text

/-- The fields that a document need not have are absent or have their shapes. -/
structure Document.OptionalFields (members : List (String × Json)) : Prop where
  constants : members.lookup "constants" = none ∨
    ∃ values, members.lookup "constants" = some (.array values) ∧
      ∀ value ∈ values, value.IsConstant
  expression : members.lookup "expression" = none ∨ members.lookup "expression" = some .null ∨
    ∃ text, members.lookup "expression" = some (.string text)

namespace Document

open RecordFormat

theorem holds_examples :
    Holds format decodeField "examples" (decodeList Example.decode) Draft.examples where
  known := by decide
  takes decoded state := ⟨_, map_eq_ok_iff.mpr ⟨_, decoded, rfl⟩⟩
  here answer := by
    rw [decodeField, if_pos rfl] at answer
    obtain ⟨examples, decoded, rfl⟩ := map_eq_ok_iff.mp answer
    exact ⟨examples, decoded, rfl⟩
  there listed apart answer := by
    rw [decodeField, if_neg apart] at answer
    split at answer
    · obtain ⟨constants, _, rfl⟩ := map_eq_ok_iff.mp answer
      rfl
    · obtain ⟨expression, _, rfl⟩ := map_eq_ok_iff.mp answer
      rfl

theorem holds_constants :
    Holds format decodeField "constants" (decodeList Literal.decode) Draft.constants where
  known := by decide
  takes decoded state := ⟨_, map_eq_ok_iff.mpr ⟨_, decoded, rfl⟩⟩
  here answer := by
    rw [decodeField, if_neg (by decide), if_pos rfl] at answer
    obtain ⟨constants, decoded, rfl⟩ := map_eq_ok_iff.mp answer
    exact ⟨constants, decoded, rfl⟩
  there listed apart answer := by
    rw [decodeField, if_neg apart] at answer
    split at answer
    · obtain ⟨examples, _, rfl⟩ := map_eq_ok_iff.mp answer
      rfl
    · obtain ⟨expression, _, rfl⟩ := map_eq_ok_iff.mp answer
      rfl

theorem holds_expression :
    Holds format decodeField "expression" decodeExpression Draft.expression where
  known := by decide
  takes decoded state := ⟨_, map_eq_ok_iff.mpr ⟨_, decoded, rfl⟩⟩
  here answer := by
    rw [decodeField, if_neg (by decide), if_neg (by decide)] at answer
    obtain ⟨expression, decoded, rfl⟩ := map_eq_ok_iff.mp answer
    exact ⟨expression, decoded, rfl⟩
  there := by
    intro state other value next listed apart answer
    have others : other = "examples" ∨ other = "constants" := by simpa [format, apart] using listed
    rcases others with rfl | rfl
    · obtain ⟨examples, _, rfl⟩ := map_eq_ok_iff.mp answer
      rfl
    · obtain ⟨constants, _, rfl⟩ := map_eq_ok_iff.mp answer
      rfl

theorem complete_eq_ok_iff {draft : Draft} {document : Document} :
    format.complete draft = .ok document ↔
      draft.examples = some document.examples ∧ draft.constants.getD [] = document.constants ∧
        draft.expression.getD none = document.expression := by
  obtain ⟨examples, constants, expression⟩ := draft
  obtain ⟨wanted, literals, text⟩ := document
  cases examples <;> simp [format]

theorem decode_object_eq_ok_iff {members : List (String × Json)}
    (distinct : (Entries.keys members).Nodup) {document : Document} :
    decode (.object members) = .ok document ↔ ∃ draft : Draft,
      Gives (decodeList Example.decode) (members.lookup "examples") draft.examples ∧
        Gives (decodeList Literal.decode) (members.lookup "constants") draft.constants ∧
        Gives decodeExpression (members.lookup "expression") draft.expression ∧
        format.complete draft = .ok document := by
  rw [decode, RecordFormat.ofJson_object_eq_ok_iff]
  constructor
  · rintro ⟨final, taken, complete⟩
    exact ⟨final, holds_examples.gives_of_ofMembers distinct rfl taken,
      holds_constants.gives_of_ofMembers distinct rfl taken,
      holds_expression.gives_of_ofMembers distinct rfl taken, complete⟩
  · rintro ⟨draft, examples, constants, expression, complete⟩
    have takes : ∀ member ∈ members, member.1 ∈ format.names → ∀ state,
        ∃ next, decodeField state member.1 member.2 = .ok next := by
      rintro ⟨key, value⟩ listed known
      have found := Entries.lookup_of_mem distinct listed
      have names : key = "examples" ∨ key = "constants" ∨ key = "expression" := by
        simpa [format] using known
      rcases names with rfl | rfl | rfl
      · exact holds_examples.takes_of_gives examples found
      · exact holds_constants.takes_of_gives constants found
      · exact holds_expression.takes_of_gives expression found
    obtain ⟨final, taken⟩ := RecordFormat.exists_ofMembers takes format.start
    have sameExamples := (holds_examples.gives_of_ofMembers distinct rfl taken).unique examples
    have sameConstants := (holds_constants.gives_of_ofMembers distinct rfl taken).unique constants
    have sameExpression :=
      (holds_expression.gives_of_ofMembers distinct rfl taken).unique expression
    obtain rfl : final = draft := by
      cases final
      cases draft
      simp_all only
    exact ⟨final, taken, complete⟩

theorem decodeExpression_eq_ok_iff {value : Json} {expression : Option String} :
    decodeExpression value = .ok expression ↔ value = expression.elim .null .string := by
  cases value <;> cases expression <;> simp [decodeExpression]

theorem decodeExamples_eq_ok_iff {value : Json} (wellFormed : value.WellFormed)
    {examples : List Example} :
    decodeList Example.decode value = .ok examples ↔ ∃ values, value = .array values ∧
      List.Forall₂ (fun value tried => tried.Spelled value) values examples := by
  have each (values : List Json) (all : ∀ value ∈ values, value.WellFormed) :
      List.Forall₂ (fun value tried => Example.decode value = .ok tried) values examples ↔
        List.Forall₂ (fun value tried => tried.Spelled value) values examples := by
    induction values generalizing examples with
    | nil => simp
    | cons first rest induction =>
        obtain ⟨here, later⟩ := List.forall_mem_cons.mp all
        cases examples with
        | nil => simp
        | cons tried others =>
            rw [List.forall₂_cons, List.forall₂_cons, Example.decode_eq_ok_iff here,
              induction later]
  rw [decodeList_eq_ok_iff]
  refine exists_congr fun values => and_congr_right ?_
  rintro rfl
  exact each values fun value => wellFormed.of_mem

theorem gives_examples_iff {members : List (String × Json)}
    (wellFormed : (Json.object members).WellFormed) {examples : List Example} :
    Gives (decodeList Example.decode) (members.lookup "examples") (some examples) ↔
      ∃ values, members.lookup "examples" = some (.array values) ∧
        List.Forall₂ (fun value tried => tried.Spelled value) values examples := by
  have given {value : Json} (found : members.lookup "examples" = some value) :
      value.WellFormed := wellFormed.of_member (Entries.mem_of_lookup found)
  rw [gives_some_iff]
  constructor
  · rintro ⟨value, found, decoded⟩
    obtain ⟨values, rfl, spelled⟩ := (decodeExamples_eq_ok_iff (given found)).mp decoded
    exact ⟨values, found, spelled⟩
  · rintro ⟨values, found, spelled⟩
    exact ⟨_, found, (decodeExamples_eq_ok_iff (given found)).mpr ⟨values, rfl, spelled⟩⟩

theorem gives_constants_iff {found : Option Json} {literals : List Literal} :
    (∃ held : Option (List Literal), Gives (decodeList Literal.decode) found held ∧
        held.getD [] = literals) ↔
      found = none ∧ literals = [] ∨ found = some (.array (literals.map Literal.toJson)) := by
  simp only [exists_gives_getD_iff, Literal.decodeList_eq_ok_iff, exists_eq_right]

theorem gives_expression_iff {found : Option Json} {expression : Option String} :
    (∃ held : Option (Option String), Gives decodeExpression found held ∧
        held.getD none = expression) ↔
      (found = none ∨ found = some .null) ∧ expression = none ∨
        ∃ text, found = some (.string text) ∧ expression = some text := by
  simp only [exists_gives_getD_iff, decodeExpression_eq_ok_iff, exists_eq_right]
  cases expression <;> simp

theorem decode_eq_ok_iff {members : List (String × Json)}
    (wellFormed : (Json.object members).WellFormed) {document : Document} :
    decode (.object members) = .ok document ↔ document.Spelled members := by
  have distinct : (Entries.keys members).Nodup := by
    cases wellFormed
    assumption
  rw [decode_object_eq_ok_iff distinct]
  constructor
  · rintro ⟨draft, examples, constants, expression, complete⟩
    obtain ⟨first, second, third⟩ := complete_eq_ok_iff.mp complete
    rw [first] at examples
    exact ⟨(gives_examples_iff wellFormed).mp examples,
      gives_constants_iff.mp ⟨_, constants, second⟩,
      gives_expression_iff.mp ⟨_, expression, third⟩⟩
  · rintro ⟨examples, constants, expression⟩
    obtain ⟨heldConstants, givesConstants, sameConstants⟩ := gives_constants_iff.mpr constants
    obtain ⟨heldExpression, givesExpression, sameExpression⟩ := gives_expression_iff.mpr expression
    exact ⟨⟨some document.examples, heldConstants, heldExpression⟩,
      (gives_examples_iff wellFormed).mpr examples, givesConstants, givesExpression,
      complete_eq_ok_iff.mpr ⟨rfl, sameConstants, sameExpression⟩⟩

/-- What is written for a document is decoded to it again, whatever values its examples hold. -/
theorem decode_toJson (document : Document) : decode document.toJson = .ok document := by
  obtain ⟨examples, constants, expression⟩ := document
  have tried : decodeList Example.decode (.array (examples.map Example.toJson)) = .ok examples := by
    refine decodeList_eq_ok_iff.mpr ⟨_, rfl, ?_⟩
    rw [List.forall₂_map_left_iff, List.forall₂_same]
    exact fun tried _ => Example.decode_toJson tried
  have literals : decodeList Literal.decode (.array (constants.map Literal.toJson)) =
      .ok constants :=
    Literal.decodeList_eq_ok_iff.mpr rfl
  cases expression with
  | none =>
      refine (decode_object_eq_ok_iff (by simp)).mpr ⟨⟨some examples, some constants, none⟩, ?_⟩
      exact ⟨.present tried, .present literals, .absent, rfl⟩
  | some text =>
      refine (decode_object_eq_ok_iff (by simp)).mpr
        ⟨⟨some examples, some constants, some (some text)⟩, ?_⟩
      exact ⟨.present tried, .present literals, .present rfl, rfl⟩

theorem Spelled.examples_eq_nil_iff {document : Document} {members : List (String × Json)}
    (spelled : document.Spelled members) {values : List Json}
    (found : members.lookup "examples" = some (.array values)) :
    document.examples = [] ↔ values = [] := by
  obtain ⟨others, there, each⟩ := spelled.examples
  cases found.symm.trans there
  rw [← List.length_eq_zero_iff, ← each.length_eq, List.length_eq_zero_iff]

/-- The objects that spell a document, told without it. -/
theorem exists_spelled_iff {members : List (String × Json)} :
    (∃ document : Document, document.Spelled members) ↔
      (∃ values, members.lookup "examples" = some (.array values) ∧
        ∀ value ∈ values, ∃ tried : Example, tried.Spelled value) ∧ OptionalFields members := by
  constructor
  · rintro ⟨document, ⟨values, found, spelled⟩, constants, expression⟩
    refine ⟨⟨values, found, exists_forall₂_iff.mp ⟨_, spelled⟩⟩, ?_, ?_⟩
    · rcases constants with ⟨absent, _⟩ | there
      · exact .inl absent
      · exact .inr ⟨_, there, Literal.forall_isConstant_iff.mpr ⟨_, rfl⟩⟩
    · rcases expression with ⟨absent | null, _⟩ | ⟨text, there, _⟩
      · exact .inl absent
      · exact .inr (.inl null)
      · exact .inr (.inr ⟨text, there⟩)
  · rintro ⟨⟨values, found, each⟩, constants, expression⟩
    obtain ⟨examples, spelled⟩ := exists_forall₂_iff.mpr each
    have literals : ∃ literals : List Literal, members.lookup "constants" = none ∧ literals = [] ∨
        members.lookup "constants" = some (.array (literals.map Literal.toJson)) := by
      rcases constants with absent | ⟨listed, there, each⟩
      · exact ⟨[], .inl ⟨absent, rfl⟩⟩
      · obtain ⟨literals, rfl⟩ := Literal.forall_isConstant_iff.mp each
        exact ⟨literals, .inr there⟩
    have answer : ∃ answer : Option String,
        (members.lookup "expression" = none ∨ members.lookup "expression" = some .null) ∧
            answer = none ∨
          ∃ text, members.lookup "expression" = some (.string text) ∧ answer = some text := by
      rcases expression with absent | null | ⟨text, there⟩
      · exact ⟨none, .inl ⟨.inl absent, rfl⟩⟩
      · exact ⟨none, .inl ⟨.inr null, rfl⟩⟩
      · exact ⟨some text, .inr ⟨text, there, rfl⟩⟩
    obtain ⟨literals, constants⟩ := literals
    obtain ⟨answer, expression⟩ := answer
    exact ⟨⟨examples, literals, answer⟩, ⟨values, found, spelled⟩, constants, expression⟩

theorem ofJson_eq_ok_iff {value : Json} {document : Document} :
    ofJson value = .ok document ↔ decode value = .ok document ∧ document.examples ≠ [] := by
  unfold ofJson withExamples
  cases decode value with
  | error fault => simp
  | ok decoded =>
      by_cases empty : decoded.examples = []
      · simp only [empty, List.isEmpty_nil, if_true, Except.ok.injEq, reduceCtorEq, false_iff]
        rintro ⟨rfl, some⟩
        exact some empty
      · simp only [List.isEmpty_iff, empty, if_false, Except.ok.injEq]
        exact ⟨fun same => ⟨same, same ▸ empty⟩, And.left⟩

theorem ofJson_eq_noExamples_iff {value : Json} :
    ofJson value = .error .noExamples ↔
      ∃ document, decode value = .ok document ∧ document.examples = [] := by
  unfold ofJson withExamples
  cases decode value with
  | error fault => simp
  | ok decoded => by_cases empty : decoded.examples = [] <;> simp [empty]

/-- Which objects are documents, and what they are as documents: whatever else an object holds, its
examples, constants and known answer decide, and what is decoded can be written and decoded
again. -/
theorem ofJson_accepts_exactly_format :
    (∀ members, (Json.object members).WellFormed →
      ((∃ document, ofJson (.object members) = .ok document) ↔
        (∃ values, members.lookup "examples" = some (.array values) ∧ values ≠ [] ∧
          ∀ value ∈ values, ∃ tried : Example, tried.Spelled value) ∧ OptionalFields members) ∧
      (∀ document, ofJson (.object members) = .ok document ↔
        document.Spelled members ∧ document.examples ≠ []) ∧
      (ofJson (.object members) = .error .noExamples ↔
        members.lookup "examples" = some (.array []) ∧ OptionalFields members)) ∧
    ∀ document, document.examples ≠ [] → ofJson document.toJson = .ok document := by
  refine ⟨fun members wellFormed => ?_, fun document some => ?_⟩
  · have decoded (document : Document) : ofJson (.object members) = .ok document ↔
        document.Spelled members ∧ document.examples ≠ [] := by
      rw [ofJson_eq_ok_iff, decode_eq_ok_iff wellFormed]
    refine ⟨⟨?accepted, ?accepts⟩, decoded, ⟨?refused, ?refuses⟩⟩
    case accepted =>
      rintro ⟨document, answer⟩
      obtain ⟨spelled, some⟩ := (decoded document).mp answer
      obtain ⟨⟨values, found, each⟩, optional⟩ := exists_spelled_iff.mp ⟨document, spelled⟩
      exact ⟨⟨values, found, mt (spelled.examples_eq_nil_iff found).mpr some, each⟩, optional⟩
    case accepts =>
      rintro ⟨⟨values, found, some, each⟩, optional⟩
      obtain ⟨document, spelled⟩ := exists_spelled_iff.mpr ⟨⟨values, found, each⟩, optional⟩
      have filled := mt (spelled.examples_eq_nil_iff found).mp some
      exact ⟨document, (decoded document).mpr ⟨spelled, filled⟩⟩
    case refused =>
      intro answer
      obtain ⟨document, answer, empty⟩ := ofJson_eq_noExamples_iff.mp answer
      have spelled := (decode_eq_ok_iff wellFormed).mp answer
      obtain ⟨⟨values, found, _⟩, optional⟩ := exists_spelled_iff.mp ⟨document, spelled⟩
      cases (spelled.examples_eq_nil_iff found).mp empty
      exact ⟨found, optional⟩
    case refuses =>
      rintro ⟨found, optional⟩
      obtain ⟨document, spelled⟩ :=
        exists_spelled_iff.mpr ⟨⟨[], found, List.forall_mem_nil _⟩, optional⟩
      exact ofJson_eq_noExamples_iff.mpr ⟨document, (decode_eq_ok_iff wellFormed).mpr spelled,
        (spelled.examples_eq_nil_iff found).mpr rfl⟩
  · exact ofJson_eq_ok_iff.mpr ⟨decode_toJson document, some⟩

theorem positional_example_is_decoded :
    (Json.object [("note", .null), ("examples", .array [.array [.bool true, .array [.null]]]),
        ("constants", .array [.string "a", .number (.int (-1))])]).WellFormed ∧
      ofJson (.object [("note", .null), ("examples", .array [.array [.bool true, .array [.null]]]),
        ("constants", .array [.string "a", .number (.int (-1))])]) =
          .ok ⟨[⟨.bool true, [.null]⟩], [.str "a", .int (-1)], none⟩ ∧
      ofJson (toJson ⟨[⟨.bool true, [.null]⟩], [.str "a", .int (-1)], none⟩) =
          .ok ⟨[⟨.bool true, [.null]⟩], [.str "a", .int (-1)], none⟩ := by
  have wellFormed : (Json.object [("note", .null),
      ("examples", .array [.array [.bool true, .array [.null]]]),
      ("constants", .array [.string "a", .number (.int (-1))])]).WellFormed := by
    have outputs : (Json.array [.null]).WellFormed := .array (by simp [Json.WellFormed.null])
    have pair : (Json.array [.bool true, .array [.null]]).WellFormed :=
      .array (by simp [Json.WellFormed.bool, outputs])
    have examples : (Json.array [.array [.bool true, .array [.null]]]).WellFormed :=
      .array (by simp [pair])
    have constants : (Json.array [.string "a", .number (.int (-1))]).WellFormed :=
      .array (by simp [Json.WellFormed.string, Json.WellFormed.int])
    exact .object (by decide) (by simp [Json.WellFormed.null, examples, constants])
  refine ⟨wellFormed, ?_, ?_⟩
  · refine ((ofJson_accepts_exactly_format.1 _ wellFormed).2.1 _).mpr ⟨⟨?_, ?_, ?_⟩, by simp⟩
    · exact ⟨_, rfl, .cons .positions .nil⟩
    · exact .inr rfl
    · exact .inl ⟨.inl rfl, rfl⟩
  · exact ofJson_accepts_exactly_format.2 _ (by simp)

end Document

end FilterSynthesis
