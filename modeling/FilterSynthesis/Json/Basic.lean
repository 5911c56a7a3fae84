import FilterSynthesis.Double.Basic
import FilterSynthesis.Entries

namespace FilterSynthesis

open scoped Arithmetic

/-- A JSON number: an integer literal of at most 64 bits, or a binary64 number. The two kinds stay
apart, so `1` and `1.0` differ. -/
inductive Number where
  | int (value : Int)
  | float (value : Double)
  /-- Digits kept as they are written. No JSON text gives them, but a filter may spell them. -/
  | numeral (digits : List Char)
  deriving DecidableEq, Repr

/-- A JSON value. Objects keep the order of their members. -/
inductive Json where
  | null
  | bool (value : Bool)
  | number (value : Number)
  | string (value : String)
  | array (elements : List Json)
  | object (members : List (String × Json))
  deriving Repr, Inhabited

namespace Number

def IsSigned (value : Int) : Prop := -2 ^ (63 : Nat) ≤ value ∧ value < 2 ^ (63 : Nat)

instance (value : Int) : Decidable (IsSigned value) :=
  inferInstanceAs (Decidable (_ ∧ _))

/-- The integers that fit a signed or an unsigned word of 64 bits. -/
def IsWord (value : Int) : Prop := -2 ^ (63 : Nat) ≤ value ∧ value < 2 ^ (64 : Nat)

instance (value : Int) : Decidable (IsWord value) :=
  inferInstanceAs (Decidable (_ ∧ _))

def same : Number → Number → Bool
  | .int left, .int right => left == right
  | .float left, .float right => left.same right
  | .numeral left, .numeral right => left == right
  | _, _ => false

def decimal (digits : List Char) : Nat :=
  digits.foldl (fun value digit => value * 10 + (digit.toNat - '0'.toNat)) 0

theorem decimal_append_digit (digits : List Char) (digit : Char) :
    decimal (digits ++ [digit]) = decimal digits * 10 + (digit.toNat - '0'.toNat) := by
  simp [decimal]

theorem decimal_toDigits (number : Nat) : decimal (Nat.toDigits 10 number) = number := by
  have single : ∀ digit < 10, (Nat.digitChar digit).toNat - '0'.toNat = digit := by decide
  induction number using Nat.strongRecOn with
  | ind number induction =>
      by_cases small : number < 10
      · rw [Nat.toDigits_of_lt_base small]
        simpa [decimal] using single number small
      · rw [Nat.toDigits_of_base_le (by decide) (by omega), decimal_append_digit,
          induction (number / 10) (by omega), single (number % 10) (by omega)]
        omega

def toDouble : Number → Double
  | .int value => .ofInt value
  | .float value => value
  | .numeral digits => .ofInt (decimal digits)

/-- Signed integers are compared exactly; any other pair is compared as binary64 numbers. -/
def order (left right : Number) : Ordering :=
  match left, right with
  | .int first, .int second =>
      if IsSigned first ∧ IsSigned second then compare first second
      else (Double.ofInt first).order (Double.ofInt second)
  | _, _ => left.toDouble.order right.toDouble

end Number

namespace Json

mutual

def depth : Json → Nat
  | .array elements => depthOfElements elements + 1
  | .object members => depthOfMembers members + 1
  | _ => 0

def depthOfElements : List Json → Nat
  | [] => 0
  | element :: rest => max element.depth (depthOfElements rest)

def depthOfMembers : List (String × Json) → Nat
  | [] => 0
  | (_, value) :: rest => max value.depth (depthOfMembers rest)

end

theorem depth_lt_of_lookup {members : List (String × Json)} {key : String} {value : Json}
    (found : members.lookup key = some value) : value.depth < (object members).depth := by
  suffices value.depth ≤ depthOfMembers members by simp only [depth]; omega
  induction members with
  | nil => simp at found
  | cons member rest induction =>
      obtain ⟨name, held⟩ := member
      simp only [List.lookup_cons] at found
      split at found
      · cases found
        simp only [depthOfMembers]
        omega
      · have := induction found
        simp only [depthOfMembers]
        omega

/-! Equality of values: the order of object members does not count. -/

mutual

def same : Json → Json → Bool
  | .null, .null => true
  | .bool left, .bool right => left == right
  | .number left, .number right => left.same right
  | .string left, .string right => left == right
  | .array left, .array right => sameElements left right
  | .object left, .object right =>
      left.length == right.length && sameMembers left right
  | _, _ => false

def sameElements : List Json → List Json → Bool
  | [], [] => true
  | left :: lefts, right :: rights => left.same right && sameElements lefts rights
  | _, _ => false

def sameMembers : List (String × Json) → List (String × Json) → Bool
  | [], _ => true
  | (key, left) :: lefts, rights =>
      (match rights.lookup key with
        | some right => left.same right
        | none => false) && sameMembers lefts rights

end

def lookup? (key : String) : Json → Option Json
  | .object members => members.lookup key
  | _ => none

end Json

end FilterSynthesis
