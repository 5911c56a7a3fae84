import FilterSynthesis.Document.Basic
import FilterSynthesis.Reading.Message

namespace FilterSynthesis

namespace Reading

/-- The bytes before which a fault of an element is reported once it has been read: those after the
blanks, and after a closing bracket or a comma with its blanks if one is next. -/
def afterSeparator (bytes : Bytes) : Bytes :=
  match dropBlanks bytes with
  | [] => []
  | byte :: rest =>
      if ascii byte = ']' then rest
      else if ascii byte = ',' then dropBlanks rest
      else byte :: rest

def readLiteral (room : Nat) (bytes : Bytes) : Reader Literal bytes :=
  match readValue room bytes with
  | .error fault => .error fault
  | .ok ⟨value, rest, shorter⟩ =>
      match Literal.ofJson? value with
      | some literal => .ok ⟨literal, rest, shorter⟩
      | none => .error (faultBefore .noLiteral (afterSeparator rest))

def readExampleField (room : Nat) (draft : Example.Draft) (name : String) (part : Bytes) :
    Reader Example.Draft part :=
  if name = "input" then
    (readValue room part).map fun input => { draft with input := some input }
  else
    (expectList room "a sequence" readValue part).map fun output =>
      { draft with output := some output }

def readExample : (room : Nat) → (bytes : Bytes) → Reader Example bytes :=
  expectRecord Example.format readExampleField

def readExpression (bytes : Bytes) : Reader (Option String) bytes :=
  match spaced : dropBlanks bytes with
  | [] => .error (faultAt .endInValue [])
  | first :: rest =>
      if ascii first = 'n' then
        (readWord none ['u', 'l', 'l'] (first :: rest)).widen (length_le_of_dropBlanks spaced)
      else (expectString "a string" bytes).map some

def readDocumentField (room : Nat) (draft : Document.Draft) (name : String) (part : Bytes) :
    Reader Document.Draft part :=
  if name = "examples" then
    (expectList room "a sequence" readExample part).map fun examples =>
      { draft with examples := some examples }
  else if name = "constants" then
    (expectList room "a sequence" readLiteral part).map fun constants =>
      { draft with constants := some constants }
  else
    (readExpression part).map fun expression => { draft with expression := some expression }

def readDocument : (room : Nat) → (bytes : Bytes) → Reader Document bytes :=
  expectRecord Document.format readDocumentField

end Reading

def Document.ofBytes (bytes : Bytes) : Except (DocumentError Position) Document :=
  withExamples
    (match Reading.readDocument Reading.nestingLimit bytes with
    | .ok parsed => .ok parsed.value
    | .error fault => .error (Reading.locate bytes fault))

def DocumentError.message {Place : Type} [Located Place] : DocumentError Place → String
  | .invalid fault =>
      s!"invalid specification document: at JSON path {PathStep.render fault.path} → " ++
        fault.message
  | .noExamples => "specification document has no examples"

end FilterSynthesis
