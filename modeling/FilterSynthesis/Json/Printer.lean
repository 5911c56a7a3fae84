import FilterSynthesis.Json.Basic
import FilterSynthesis.Json.Scalar

namespace FilterSynthesis

def Number.chars : Number → List Char
  | .int value => integerChars value
  | .float value => if value.isFinite then value.text.toList else ['n', 'u', 'l', 'l']
  | .numeral digits => digits

namespace Json

mutual

def chars : Json → List Char
  | .null => ['n', 'u', 'l', 'l']
  | .bool true => ['t', 'r', 'u', 'e']
  | .bool false => ['f', 'a', 'l', 's', 'e']
  | .number value => value.chars
  | .string value => quoted value
  | .array elements => '[' :: (charsOfElements elements ++ [']'])
  | .object members => '{' :: (charsOfMembers members ++ ['}'])

def charsOfElements : List Json → List Char
  | [] => []
  | [element] => element.chars
  | element :: rest => element.chars ++ ',' :: charsOfElements rest

def charsOfMembers : List (String × Json) → List Char
  | [] => []
  | [(key, value)] => quoted key ++ ':' :: value.chars
  | (key, value) :: rest => quoted key ++ ':' :: (value.chars ++ ',' :: charsOfMembers rest)

end

def text (value : Json) : String := String.ofList value.chars

/-! Text with one element or member a line, two spaces deeper at each level. Empty arrays and
objects stay on their line. -/

def lineBreak (level : Nat) : List Char := '\n' :: List.replicate (2 * level) ' '

mutual

def prettyChars (level : Nat) : Json → List Char
  | .array [] => ['[', ']']
  | .array elements =>
      '[' :: (prettyElements (level + 1) elements ++ lineBreak level ++ [']'])
  | .object [] => ['{', '}']
  | .object members =>
      '{' :: (prettyMembers (level + 1) members ++ lineBreak level ++ ['}'])
  | .null => ['n', 'u', 'l', 'l']
  | .bool true => ['t', 'r', 'u', 'e']
  | .bool false => ['f', 'a', 'l', 's', 'e']
  | .number value => value.chars
  | .string value => quoted value

def prettyElements (level : Nat) : List Json → List Char
  | [] => []
  | [element] => lineBreak level ++ prettyChars level element
  | element :: rest =>
      lineBreak level ++ prettyChars level element ++ ',' :: prettyElements level rest

def prettyMembers (level : Nat) : List (String × Json) → List Char
  | [] => []
  | [(key, value)] => lineBreak level ++ quoted key ++ ':' :: ' ' :: prettyChars level value
  | (key, value) :: rest =>
      lineBreak level ++ quoted key ++
        ':' :: ' ' :: (prettyChars level value ++ ',' :: prettyMembers level rest)

end

def pretty (value : Json) : String := String.ofList (prettyChars 0 value)

end Json

end FilterSynthesis
