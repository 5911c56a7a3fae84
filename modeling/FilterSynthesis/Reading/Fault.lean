import FilterSynthesis.Json.Scalar
import FilterSynthesis.Text.Utf8

/-!
Why a JSON text or value cannot be decoded, and where. A fault that is found in a value has no
place; one that is found in a text has the place where reading stopped.
-/

namespace FilterSynthesis

inductive Found where
  | null
  | bool (value : Bool)
  | integer (value : Int)
  | float (value : Double)
  | string (value : String)
  | sequence
  | map

inductive Cause where
  | endInValue
  | endInObject
  | endInList
  | endInString
  | valueExpected
  | colonExpected
  | commaOrBraceExpected
  | commaOrBracketExpected
  | trailingComma
  | trailingCharacters
  | keyNotString
  | misspeltWord
  | invalidNumber
  | numberOutOfRange
  | controlCharacter
  | invalidEscape
  | endOfEscape
  | loneSurrogate
  | invalidCodePoint
  | nestedTooDeep
  | wrongType (found : Found) (expected : String)
  | wrongValue (found : Found) (expected : String)
  | missingField (name : String)
  | duplicateField (name : String)
  | tooFewElements (length : Nat) (expected : String)
  | tooManyElements (length : Nat)
  | noLiteral
  | unknownVariant (name : String) (expected : String)

/-- A step from a value to a part of it; `between` stands for whatever lies between the values of an
object, its keys included. -/
inductive PathStep where
  | index (position : Nat)
  | key (name : String)
  | between

/-- A line and a column, both counted in bytes from 1; column 0 is the end of the line before. -/
structure Position where
  line : Nat
  column : Nat
  deriving DecidableEq, Repr

structure Fault (Place : Type) where
  cause : Cause
  path : List PathStep
  place : Place

namespace Fault

variable {Place : Type}

/-- The same fault, seen from the value one step further out. -/
def within (step : PathStep) (fault : Fault Place) : Fault Place :=
  { fault with path := step :: fault.path }

end Fault

def Position.after (count : Nat) (bytes : Bytes) : Position :=
  let consumed := bytes.take count
  { line := consumed.count 10 + 1
    column := (consumed.reverse.takeWhile (· != 10)).length }

end FilterSynthesis
