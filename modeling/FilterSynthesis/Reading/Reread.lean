import FilterSynthesis.Json.Printer
import FilterSynthesis.Reading.Numeral

/-!
What a value becomes when it is written and read back. Reading rounds more than once, so a binary64
number need not come back as it was, and digits kept as they stand come back as what they spell.
Everything else comes back unchanged.
-/

namespace FilterSynthesis

def Reading.numberOf? (chars : List Char) : Option Number :=
  match readNumber (chars.map fun char => char.toNat.toUInt8) with
  | .ok ⟨number, [], _⟩ => some number
  | _ => none

/-- An infinite number is written as null, and digits with a needless zero in front do not read
back. -/
def Number.reread? : Number → Option Json
  | .int value => some (.number (.int value))
  | .float value =>
      if value.isFinite then (Reading.numberOf? value.text.toList).map .number else some .null
  | .numeral digits => (Reading.numberOf? digits).map .number

namespace Json

mutual

def reread? : Json → Option Json
  | .number value => value.reread?
  | .array elements => (rereadElements? elements).map .array
  | .object members => (rereadMembers? members).map .object
  | value => some value

def rereadElements? : List Json → Option (List Json)
  | [] => some []
  | element :: rest =>
      match element.reread?, rereadElements? rest with
      | some value, some values => some (value :: values)
      | _, _ => none

def rereadMembers? : List (String × Json) → Option (List (String × Json))
  | [] => some []
  | (key, member) :: rest =>
      match member.reread?, rereadMembers? rest with
      | some value, some values => some ((key, value) :: values)
      | _, _ => none

end

end Json

end FilterSynthesis
