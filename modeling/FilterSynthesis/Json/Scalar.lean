import FilterSynthesis.Double.Numeral

/-!
The written forms of JSON scalars. A string stands between quotation marks; inside, the two marks
`"` and `\` and the characters below U+0020 are escaped and nothing else is.
-/

namespace FilterSynthesis

theorem toNat_of_isDigit {char : Char} (digit : char.isDigit) :
    48 ≤ char.toNat ∧ char.toNat ≤ 57 := by
  simpa [Char.isDigit, UInt32.le_iff_toNat_le] using digit

def integerChars (value : Int) : List Char :=
  if value < 0 then '-' :: Nat.toDigits 10 value.natAbs else Nat.toDigits 10 value.natAbs

def hexDigit (value : Nat) : Char := Nat.digitChar (value % 16)

/-- The escape letters of JSON other than `u` and the solidus, with what they stand for. -/
def shortEscapes : List (Char × Char) :=
  [('"', '"'), ('\\', '\\'), ('b', '\x08'), ('f', '\x0c'), ('n', '\n'), ('r', '\r'), ('t', '\t')]

def escapeChar (char : Char) : List Char :=
  match shortEscapes.find? (·.2 = char) with
  | some (letter, _) => ['\\', letter]
  | none =>
      if char.toNat < 0x20 then
        ['\\', 'u', '0', '0', hexDigit (char.toNat / 16), hexDigit char.toNat]
      else [char]

def quotedChars (chars : List Char) : List Char :=
  '"' :: (chars.flatMap escapeChar ++ ['"'])

def quoted (text : String) : List Char := quotedChars text.toList

end FilterSynthesis
