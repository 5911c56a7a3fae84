import FilterSynthesis.Double.Basic

namespace FilterSynthesis

open scoped Arithmetic

structure Decimal where
  digits : Nat
  exponent : Int
  deriving DecidableEq, Repr

namespace Double

/-! The reals that round to a positive number `m * 2 ^ q` are those between `(m - 1/2) * 2 ^ q` and
`(m + 1/2) * 2 ^ q`; below a power of two the lower gap is half as wide. Both ends belong to the
interval when `m` is even. All bounds are kept in quarters of `2 ^ q`. -/

def lowerQuarters (number : Double) : Nat :=
  if number.magnitude % 2 ^ (52 : Nat) = 0 ∧ 1 < number.field then 4 * number.mantissa - 1
  else 4 * number.mantissa - 2

def upperQuarters (number : Double) : Nat := 4 * number.mantissa + 2

/-- Is `digits * 10 ^ grid` among the reals that round to the number? -/
def readsBack (number : Double) (grid : Int) (digits : Nat) : Bool :=
  let unit := 2 ^ number.exponent.toNat * 10 ^ (-grid).toNat
  let value := digits * 10 ^ grid.toNat * (4 * 2 ^ (-number.exponent).toNat)
  let lower := number.lowerQuarters * unit
  let upper := number.upperQuarters * unit
  if number.mantissa % 2 = 0 then lower ≤ value && value ≤ upper
  else lower < value && value < upper

/-- The neighbour of the number on the grid of multiples of `10 ^ grid` that reads back, the nearer
one if both do. -/
def onGrid? (number : Double) (grid : Int) : Option Decimal :=
  let numerator := number.mantissa * 2 ^ number.exponent.toNat * 10 ^ (-grid).toNat
  let denominator := 2 ^ (-number.exponent).toNat * 10 ^ grid.toNat
  let below := numerator / denominator
  match number.readsBack grid below, number.readsBack grid (below + 1) with
  | true, true => some ⟨roundQuotient numerator denominator, grid⟩
  | true, false => some ⟨below, grid⟩
  | false, true => some ⟨below + 1, grid⟩
  | false, false => none

def topGrid (number : Double) : Int :=
  (number.mantissa.log2 + number.exponent) * 30103 / 100000 + 1

/-- The decimal with the fewest digits that reads back as the number, up to its sign: the first hit
on the grids from coarse to fine. Seventeen digits always suffice. -/
def shortest (number : Double) : Decimal :=
  if number.isZero then ⟨0, 0⟩
  else
    ((List.range 20).findSome? fun (step : Nat) => number.onGrid? (number.topGrid - step)).getD
      ⟨number.mantissa, 0⟩

end Double

end FilterSynthesis
