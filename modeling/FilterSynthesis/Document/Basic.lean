import FilterSynthesis.Reading.Record
import FilterSynthesis.Verification.Basic

/-!
Documents: examples, constants that filters may use, and possibly a known answer. They are decoded
from a value or read from a text; both forms accept the same shapes and tell the same faults, but
only a text has places. What follows the document in a text is not read.
-/

namespace FilterSynthesis

structure Document where
  examples : List Example
  constants : List Literal
  /-- A known answer, for reports only. -/
  expression : Option String
  deriving Repr

/-! Constants are booleans, signed integers of 64 bits and strings. -/

def Literal.ofJson? : Json → Option Literal
  | .bool value => some (.bool value)
  | .number (.int value) =>
      if Number.IsSigned value then some (.int (.ofInt value)) else none
  | .string value => some (.str value)
  | _ => none

def Literal.toJson : Literal → Json
  | .bool value => .bool value
  | .int value => .number (.int value.toInt)
  | .str value => .string value

def Literal.decode (value : Json) : Except (Fault Unit) Literal :=
  match ofJson? value with
  | some literal => .ok literal
  | none => .error ⟨.noLiteral, [], ()⟩

def decodeList {α : Type} (item : Json → Except (Fault Unit) α) :
    Json → Except (Fault Unit) (List α)
  | .array elements => go 0 elements
  | value => .error ⟨.wrongType (.ofJson value) "a sequence", [], ()⟩
where
  go (index : Nat) : List Json → Except (Fault Unit) (List α)
    | [] => .ok []
    | element :: rest =>
        match item element with
        | .error fault => .error (fault.within (.index index))
        | .ok value => (go (index + 1) rest).map (value :: ·)

structure Example.Draft where
  input : Option Json := none
  output : Option (List Json) := none

def Example.format : RecordFormat Example.Draft Example where
  expected := "struct Example"
  names := ["input", "output"]
  start := {}
  isSet draft name := if name = "input" then draft.input.isSome else draft.output.isSome
  complete draft :=
    match draft.input, draft.output with
    | none, _ => .error "input"
    | _, none => .error "output"
    | some input, some output => .ok ⟨input, output⟩

def Example.decodeField (draft : Example.Draft) (name : String) (value : Json) :
    Except (Fault Unit) Example.Draft :=
  if name = "input" then .ok { draft with input := some value }
  else (decodeList .ok value).map fun output => { draft with output := some output }

def Example.decode : Json → Except (Fault Unit) Example := format.ofJson decodeField

def Example.toJson (tried : Example) : Json :=
  .object [("input", tried.input), ("output", .array tried.output)]

structure Document.Draft where
  examples : Option (List Example) := none
  constants : Option (List Literal) := none
  expression : Option (Option String) := none

def Document.format : RecordFormat Document.Draft Document where
  expected := "struct Document"
  names := ["examples", "constants", "expression"]
  start := {}
  isSet draft name :=
    if name = "examples" then draft.examples.isSome
    else if name = "constants" then draft.constants.isSome
    else draft.expression.isSome
  complete draft :=
    match draft.examples with
    | none => .error "examples"
    | some examples => .ok ⟨examples, draft.constants.getD [], draft.expression.getD none⟩

def Document.decodeExpression : Json → Except (Fault Unit) (Option String)
  | .null => .ok none
  | .string text => .ok (some text)
  | value => .error ⟨.wrongType (.ofJson value) "a string", [], ()⟩

def Document.decodeField (draft : Document.Draft) (name : String) (value : Json) :
    Except (Fault Unit) Document.Draft :=
  if name = "examples" then
    (decodeList Example.decode value).map fun examples => { draft with examples := some examples }
  else if name = "constants" then
    (decodeList Literal.decode value).map fun constants =>
      { draft with constants := some constants }
  else
    (decodeExpression value).map fun expression => { draft with expression := some expression }

def Document.decode : Json → Except (Fault Unit) Document := format.ofJson decodeField

def Document.toJson (document : Document) : Json :=
  .object ([("examples", .array (document.examples.map Example.toJson)),
    ("constants", .array (document.constants.map Literal.toJson))] ++
      match document.expression with
      | some text => [("expression", .string text)]
      | none => [])

inductive DocumentError (Place : Type) where
  | invalid (fault : Fault Place)
  | noExamples

def Document.withExamples {Place : Type} :
    Except (Fault Place) Document → Except (DocumentError Place) Document
  | .error fault => .error (.invalid fault)
  | .ok document => if document.examples.isEmpty then .error .noExamples else .ok document

def Document.ofJson (value : Json) : Except (DocumentError Unit) Document :=
  withExamples (decode value)

end FilterSynthesis
