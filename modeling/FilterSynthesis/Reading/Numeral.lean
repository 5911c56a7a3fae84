import FilterSynthesis.Json.Basic
import FilterSynthesis.Reading.Basic

/-!
Numbers. The digits are gathered into a word of 64 bits; further digits only count as a power of
ten. Without a point or an exponent, and if no digit is left over, the word is the number.
Otherwise the word is rounded to binary64 and multiplied or divided by a power of ten, so
each step rounds once and long numerals need not come out as the nearest number.
-/

namespace FilterSynthesis

open scoped Arithmetic

namespace Reading

def greatestPower : Nat := 308

def powerOfTen (exponent : Nat) : Double := .ofQuotient false (10 ^ exponent) 1

/-- Divide by a power of ten, by at most `10 ^ 308` at a time; zero stays zero. -/
def divideByPower (number : Double) (exponent : Nat) : Double :=
  if exponent ≤ greatestPower then number.divide (powerOfTen exponent)
  else if number.isZero then number
  else divideByPower (number.divide (powerOfTen greatestPower)) (exponent - greatestPower)
  termination_by exponent
  decreasing_by simp only [greatestPower] at *; omega

def scaled? (word : Nat) (exponent : Int) : Option Double :=
  let number := Double.ofInt word
  if exponent < 0 then some (divideByPower number (-exponent).toNat)
  else if exponent.toNat ≤ greatestPower then
    let product := number.multiply (powerOfTen exponent.toNat)
    if product.isFinite then some product else none
  else if word = 0 then some number
  else none

/-- Extend a word by decimal digits as long as it stays below `2 ^ 64`; the result is the word and
the number of digits that went into it. -/
def gather (word : Nat) : List Nat → Nat × Nat
  | [] => (word, 0)
  | digit :: digits =>
      if word * 10 + digit < 2 ^ (64 : Nat) then
        let gathered := gather (word * 10 + digit) digits
        (gathered.1, gathered.2 + 1)
      else (word, 0)

def digitsOf (bytes : Bytes) : List Nat × Bytes :=
  match bytes with
  | [] => ([], [])
  | byte :: rest =>
      match digit? byte with
      | some digit => (digit :: (digitsOf rest).1, (digitsOf rest).2)
      | none => ([], byte :: rest)

theorem length_digitsOf_le (bytes : Bytes) : (digitsOf bytes).2.length ≤ bytes.length := by
  induction bytes with
  | nil => simp [digitsOf]
  | cons byte rest induction =>
      simp only [digitsOf]
      split
      · exact Nat.le_succ_of_le induction
      · exact Nat.le_refl _

def greatestExponent : Nat := 2 ^ (31 : Nat) - 1

/-- Read the digits of an exponent onto `exponent`. An exponent that grows too large ends in a
fault, or in nothing if `vanishes` says that the number is zero anyway. -/
def readExponentDigits (vanishes : Bool) (exponent : Nat) :
    (bytes : Bytes) →
      Except (Fault Nat) (Option Nat × Rest bytes)
  | [] => .ok (some exponent, .all [])
  | byte :: rest =>
      match digit? byte with
      | none => .ok (some exponent, .all (byte :: rest))
      | some digit =>
          if exponent * 10 + digit ≤ greatestExponent then
            match readExponentDigits vanishes (exponent * 10 + digit) rest with
            | .ok (result, after) => .ok (result, after.behind)
            | .error fault => .error fault
          else if vanishes then
            .ok (none, Rest.behind ⟨(digitsOf rest).2, length_digitsOf_le rest⟩)
          else .error (faultBefore .numberOutOfRange rest)

def inRange (number : Option Double) {bytes : Bytes} (rest : Rest bytes) :
    Except (Fault Nat) (Double × Rest bytes) :=
  match number with
  | some number => .ok (number, rest)
  | none => .error (faultBefore .numberOutOfRange rest.1)

def readExponent (word : Nat) (power : Int) (bytes : Bytes) :
    Except (Fault Nat) (Double × Rest bytes) :=
  let signed : Bool × Rest bytes := match bytes with
    | [] => (false, .all [])
    | byte :: rest =>
        if ascii byte = '-' then (true, (Rest.all rest).behind)
        else if ascii byte = '+' then (false, (Rest.all rest).behind)
        else (false, .all (byte :: rest))
  match signed with
  | (_, ⟨[], _⟩) => .error (faultBefore .endInValue [])
  | (negative, ⟨byte :: rest, bound⟩) =>
      if (digit? byte).isNone then .error (faultBefore .invalidNumber rest)
      else
        match readExponentDigits (word = 0 || negative) 0 (byte :: rest) with
        | .error fault => .error fault
        | .ok (none, ⟨after, fewer⟩) => .ok (.ofInt 0, ⟨after, Nat.le_trans fewer bound⟩)
        | .ok (some exponent, ⟨after, fewer⟩) =>
            inRange (scaled? word (if negative then power - exponent else power + exponent))
              ⟨after, Nat.le_trans fewer bound⟩

def isExponentMark (byte : UInt8) : Bool := ascii byte == 'e' || ascii byte == 'E'

def readPower (word : Nat) (power : Int) (bytes : Bytes) :
    Except (Fault Nat) (Double × Rest bytes) :=
  match bytes with
  | [] => inRange (scaled? word power) (.all [])
  | byte :: rest =>
      if isExponentMark byte then
        match readExponent word power rest with
        | .ok (number, after) => .ok (number, after.behind)
        | .error fault => .error fault
      else inRange (scaled? word power) (.all (byte :: rest))

def readFraction (word : Nat) (power : Int) (bytes : Bytes) :
    Except (Fault Nat) (Double × Rest bytes) :=
  match digitsOf bytes, length_digitsOf_le bytes with
  | ([], rest), _ =>
      .error (faultAt (if rest.isEmpty then .endInValue else .invalidNumber) rest)
  | (digits, rest), bound =>
      let (word, taken) := gather word digits
      match readPower word (power - taken) rest with
      | .ok (number, ⟨after, fewer⟩) => .ok (number, ⟨after, Nat.le_trans fewer bound⟩)
      | .error fault => .error fault

/-- The number that a word stands for: a negative one below the range of signed words, and a
negative zero, are binary64 numbers. -/
def ofWord (negative : Bool) (word : Nat) : Number :=
  if !negative then .int word
  else if 0 < word ∧ word ≤ 2 ^ (63 : Nat) then .int (-word)
  else .float (Double.ofInt word).negate

def signedFloat (negative : Bool) (number : Double) : Number :=
  .float (if negative then number.negate else number)

def asNumber {bytes : Bytes} (negative : Bool) :
    Except (Fault Nat) (Double × Rest bytes) → Except (Fault Nat) (Number × Rest bytes)
  | .ok (number, rest) => .ok (signedFloat negative number, rest)
  | .error fault => .error fault

/-- A number that ends with its integral digits, of which `dropped` did not fit the word. -/
def integral (negative : Bool) (word dropped : Nat) (bytes : Bytes) :
    Except (Fault Nat) (Number × Rest bytes) :=
  if dropped = 0 then .ok (ofWord negative word, .all bytes)
  else asNumber negative (inRange (scaled? word dropped) (.all bytes))

def readTail (negative : Bool) (word dropped : Nat) (bytes : Bytes) :
    Except (Fault Nat) (Number × Rest bytes) :=
  match bytes with
  | [] => integral negative word dropped []
  | byte :: rest =>
      if ascii byte = '.' then
        match readFraction word dropped rest with
        | .ok (number, after) => .ok (signedFloat negative number, after.behind)
        | .error fault => .error fault
      else if isExponentMark byte then
        asNumber negative (readPower word dropped (byte :: rest))
      else integral negative word dropped (byte :: rest)

def readUnsigned (negative : Bool) (bytes : Bytes) : Reader Number bytes :=
  match bytes with
  | [] => .error (faultBefore .endInValue [])
  | byte :: rest =>
      match digit? byte with
      | none => .error (faultBefore .invalidNumber rest)
      | some 0 =>
          match rest with
          | [] => .ok ⟨ofWord negative 0, [], by simp⟩
          | next :: others =>
              if (digit? next).isSome then .error (faultAt .invalidNumber (next :: others))
              else
                match readTail negative 0 0 (next :: others) with
                | .ok (number, ⟨after, bound⟩) => .ok ⟨number, after, Nat.lt_succ_of_le bound⟩
                | .error fault => .error fault
      | some digit =>
          let digits := (digitsOf rest).1
          let gathered := gather digit digits
          match readTail negative gathered.1 (digits.length - gathered.2) (digitsOf rest).2 with
          | .ok (number, ⟨after, bound⟩) =>
              .ok ⟨number, after,
                Nat.lt_succ_of_le (Nat.le_trans bound (length_digitsOf_le rest))⟩
          | .error fault => .error fault

def readNumber (bytes : Bytes) : Reader Number bytes :=
  match bytes with
  | [] => readUnsigned false []
  | byte :: rest =>
      if ascii byte = '-' then (readUnsigned true rest).behind
      else readUnsigned false (byte :: rest)

end Reading

def Found.ofNumber : Number → Found
  | .int value => .integer value
  | .float value => .float value
  | .numeral digits => .integer (Number.decimal digits)

end FilterSynthesis
