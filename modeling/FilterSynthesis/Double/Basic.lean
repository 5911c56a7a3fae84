import FilterSynthesis.Arithmetic

namespace FilterSynthesis

open scoped Arithmetic

/-- A binary64 number: its sign and the 63 bits below the sign, read as one natural number. -/
structure Double where
  negative : Bool
  magnitude : Nat
  deriving DecidableEq, Repr

namespace Double

/-- The magnitude of infinity; every finite number lies below it. -/
def infinity : Nat := 0x7FF0000000000000

def isFinite (number : Double) : Bool := number.magnitude < infinity

def isZero (number : Double) : Bool := number.magnitude == 0

def negate (number : Double) : Double :=
  { number with negative := !number.negative }

/-! A finite number is `mantissa * 2 ^ exponent`, up to its sign. -/

def field (number : Double) : Nat := number.magnitude / 2 ^ (52 : Nat)

def mantissa (number : Double) : Nat :=
  if number.field = 0 then number.magnitude else 2 ^ (52 : Nat) + number.magnitude % 2 ^ (52 : Nat)

def exponent (number : Double) : Int := (max number.field 1 : Nat) - 1075

/-- The nearest natural number to a quotient; a tie goes to the even neighbour. -/
def roundQuotient (numerator denominator : Nat) : Nat :=
  let quotient := numerator / denominator
  let twice := 2 * (numerator % denominator)
  if denominator < twice ∨ (denominator = twice ∧ quotient % 2 = 1) then quotient + 1
  else quotient

def log2Quotient (numerator denominator : Nat) : Int :=
  let guess : Int := (numerator.log2 : Int) - denominator.log2
  if denominator * 2 ^ guess.toNat ≤ numerator * 2 ^ (-guess).toNat then guess
  else guess - 1

/-- The binary64 number nearest to a quotient, ties to even, infinite beyond the largest one.
The last step needs no case for subnormal numbers or for a carry into the next power of two:
magnitudes count the representable numbers in order. -/
def ofQuotient (negative : Bool) (numerator denominator : Nat) : Double :=
  if numerator = 0 then ⟨negative, 0⟩
  else
    let unit := max (log2Quotient numerator denominator - 52) (-1074)
    let rounded :=
      roundQuotient (numerator * 2 ^ (-unit).toNat) (denominator * 2 ^ unit.toNat)
    ⟨negative, min ((unit + 1074).toNat * 2 ^ (52 : Nat) + rounded) infinity⟩

def ofInt (value : Int) : Double := ofQuotient (value < 0) value.natAbs 1

def multiply (left right : Double) : Double :=
  ofQuotient (left.negative ^^ right.negative)
    (left.mantissa * 2 ^ left.exponent.toNat * (right.mantissa * 2 ^ right.exponent.toNat))
    (2 ^ (-left.exponent).toNat * 2 ^ (-right.exponent).toNat)

def divide (left right : Double) : Double :=
  ofQuotient (left.negative ^^ right.negative)
    (left.mantissa * 2 ^ left.exponent.toNat * 2 ^ (-right.exponent).toNat)
    (2 ^ (-left.exponent).toNat * (right.mantissa * 2 ^ right.exponent.toNat))

/-! Numbers other than NaN are ordered as signed magnitudes; both zeros have rank 0. -/

def rank (number : Double) : Int :=
  if number.negative then -number.magnitude else number.magnitude

def order (left right : Double) : Ordering := compare left.rank right.rank

/-- Numerical equality: the two zeros are equal. -/
def same (left right : Double) : Bool := left.rank == right.rank

end Double

end FilterSynthesis
