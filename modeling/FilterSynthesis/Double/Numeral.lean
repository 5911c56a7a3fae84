import FilterSynthesis.Double.Shortest

namespace FilterSynthesis

/-- How a decimal is laid out. Powers of ten from `lowest` to `highest` are written with a point
only, all others as one digit, a fraction and a signed exponent. -/
structure NumeralLayout where
  lowest : Int
  highest : Int
  exponentMark : Char

/-- JSON text: positional from `0.00001` up to sixteen digits before the point, else `1e+300`. -/
def NumeralLayout.json : NumeralLayout := ⟨-5, 15, 'e'⟩

namespace NumeralLayout

def positional (digits : List Char) (places : Int) : List Char :=
  if places ≤ 0 then
    '0' :: '.' :: (List.replicate (-places).toNat '0' ++ digits)
  else if digits.length ≤ places.toNat then
    digits ++ List.replicate (places.toNat - digits.length) '0' ++ ['.', '0']
  else
    digits.take places.toNat ++ '.' :: digits.drop places.toNat

def scientific (layout : NumeralLayout) (digits : List Char) (power : Int) : List Char :=
  let fraction := match digits.drop 1 with
    | [] => []
    | rest => '.' :: rest
  let sign := if power < 0 then '-' else '+'
  digits.take 1 ++ fraction ++ layout.exponentMark :: sign :: Nat.toDigits 10 power.natAbs

def write (layout : NumeralLayout) (decimal : Decimal) : List Char :=
  let digits := Nat.toDigits 10 decimal.digits
  let power := decimal.exponent + digits.length - 1
  if layout.lowest ≤ power ∧ power ≤ layout.highest then positional digits (power + 1)
  else layout.scientific digits power

end NumeralLayout

/-- The shortest text that reads back as the number; a negative zero keeps its sign. -/
def Double.text (number : Double) : String :=
  let unsigned := NumeralLayout.json.write number.shortest
  String.ofList (if number.negative then '-' :: unsigned else unsigned)

end FilterSynthesis
