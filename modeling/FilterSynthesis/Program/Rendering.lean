import FilterSynthesis.Json.Scalar
import FilterSynthesis.Program.Basic

/-!
The text of a program. Keys that are identifiers stand as they are, all others between quotation
marks. Inside a record a pipeline of several operators stands in parentheses.
-/

namespace FilterSynthesis

def isIdentifierStart (char : Char) : Bool := char.isAlpha || char == '_'

def isIdentifierPart (char : Char) : Bool := char.isAlphanum || char == '_'

def isIdentifier : List Char → Bool
  | [] => false
  | first :: rest => isIdentifierStart first && rest.all isIdentifierPart

def keyChars (key : String) : List Char :=
  if isIdentifier key.toList then key.toList else quoted key

def pathChars (key : String) : List Char := '.' :: keyChars key

def Literal.chars : Literal → List Char
  | .bool true => ['t', 'r', 'u', 'e']
  | .bool false => ['f', 'a', 'l', 's', 'e']
  | .int value => integerChars value.toInt
  | .str value => quoted value

def Literal.text (literal : Literal) : String := String.ofList literal.chars

def callChars (name argument : List Char) : List Char := name ++ '(' :: (argument ++ [')'])

namespace Operator

def chars : Operator → List Char
  | .all => ['a', 'l', 'l']
  | .any => ['a', 'n', 'y']
  | .forEach => ['.', '[', ']']
  | .keys => ['k', 'e', 'y', 's']
  | .sort => ['s', 'o', 'r', 't']
  | .index key => pathChars key
  | .groupBy key => callChars ['g', 'r', 'o', 'u', 'p', '_', 'b', 'y'] (pathChars key)
  | .sortBy key => callChars ['s', 'o', 'r', 't', '_', 'b', 'y'] (pathChars key)
  | .select key literal =>
      callChars ['s', 'e', 'l', 'e', 'c', 't']
          (pathChars key ++ ' ' :: '=' :: '=' :: ' ' :: literal.chars)

def text (operator : Operator) : String := String.ofList operator.chars

end Operator

namespace Pipeline

def chars : Pipeline → List Char
  | [] => ['.']
  | [operator] => operator.chars
  | operator :: rest => operator.chars ++ ' ' :: '|' :: ' ' :: chars rest

def text (pipeline : Pipeline) : String := String.ofList (chars pipeline)

end Pipeline

namespace Program

mutual

def chars : Program → List Char
  | .pipeline operators => Pipeline.chars operators
  | .record fields => '\x7b' :: (charsOfFields fields ++ ['\x7d'])

def charsOfFields : List (String × Program) → List Char
  | [] => []
  | [(key, program)] => keyChars key ++ ':' :: ' ' :: program.charsOfValue
  | (key, program) :: rest =>
      keyChars key ++ ':' :: ' ' :: (program.charsOfValue ++ ',' :: ' ' :: charsOfFields rest)

def charsOfValue : Program → List Char
  | .pipeline operators =>
      if 1 < operators.length then '(' :: (Pipeline.chars operators ++ [')'])
      else Pipeline.chars operators
  | .record fields => '\x7b' :: (charsOfFields fields ++ ['\x7d'])

end

def text (program : Program) : String := String.ofList program.chars

end Program

end FilterSynthesis
