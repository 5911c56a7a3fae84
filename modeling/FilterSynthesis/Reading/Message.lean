import FilterSynthesis.Reading.Fault
import FilterSynthesis.Text.Visible

namespace FilterSynthesis

def Found.describe : Found → String
  | .null => "null"
  | .bool value => s!"boolean `{value}`"
  | .integer value => s!"integer `{value}`"
  | .float value => s!"floating point `{value.text}`"
  | .string value => s!"string {Text.visible value}"
  | .sequence => "sequence"
  | .map => "map"

def Cause.message : Cause → String
  | .endInValue => "EOF while parsing a value"
  | .endInObject => "EOF while parsing an object"
  | .endInList => "EOF while parsing a list"
  | .endInString => "EOF while parsing a string"
  | .valueExpected => "expected value"
  | .colonExpected => "expected `:`"
  | .commaOrBraceExpected => "expected `,` or `\x7d`"
  | .commaOrBracketExpected => "expected `,` or `]`"
  | .trailingComma => "trailing comma"
  | .trailingCharacters => "trailing characters"
  | .keyNotString => "key must be a string"
  | .misspeltWord => "expected ident"
  | .invalidNumber => "invalid number"
  | .numberOutOfRange => "number out of range"
  | .controlCharacter => "control character (\\u0000-\\u001F) found while parsing a string"
  | .invalidEscape => "invalid escape"
  | .endOfEscape => "unexpected end of hex escape"
  | .loneSurrogate => "lone leading surrogate in hex escape"
  | .invalidCodePoint => "invalid unicode code point"
  | .nestedTooDeep => "recursion limit exceeded"
  | .wrongType found expected => s!"invalid type: {found.describe}, expected {expected}"
  | .wrongValue found expected => s!"invalid value: {found.describe}, expected {expected}"
  | .missingField name => s!"missing field `{name}`"
  | .duplicateField name => s!"duplicate field `{name}`"
  | .tooFewElements length expected => s!"invalid length {length}, expected {expected}"
  | .tooManyElements length => s!"invalid length {length}, expected fewer elements in array"
  | .noLiteral => "data did not match any variant of untagged enum Literal"
  | .unknownVariant name expected => s!"unknown variant `{name}`, expected {expected}"

/-- The text of a path: positions in brackets, keys after points. A path of no steps is a point. -/
def PathStep.render : List PathStep → String
  | [] => "."
  | first :: rest =>
      let head := match first with
        | .index position => s!"[{position}]"
        | .key name => name
        | .between => "?"
      rest.foldl (fun text step =>
        text ++ match step with
          | .index position => s!"[{position}]"
          | .key name => s!".{name}"
          | .between => ".?") head

class Located (Place : Type) where
  suffix : Place → String

instance : Located Unit := ⟨fun _ => ""⟩

instance : Located Position :=
  ⟨fun position => s!" at line {position.line} column {position.column}"⟩

def Fault.message {Place : Type} [Located Place] (fault : Fault Place) : String :=
  fault.cause.message ++ Located.suffix fault.place

end FilterSynthesis
