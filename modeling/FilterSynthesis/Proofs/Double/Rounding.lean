import FilterSynthesis.Double.Basic
import Mathlib.Algebra.Order.Field.Power
import Mathlib.Data.Nat.Log
import Mathlib.Tactic.FieldSimp
import Mathlib.Tactic.Linarith
import Mathlib.Tactic.NormNum
import Mathlib.Tactic.Positivity
import Mathlib.Tactic.Ring

/-!
Rounding to binary64 keeps the order. Magnitudes count the representable numbers from zero upwards,
so they can stand for the numbers wherever only the order matters.
-/

namespace FilterSynthesis.Double

theorem zpow_eq_div (base : ℚ) (exponent : Int) :
    base ^ exponent = base ^ exponent.toNat / base ^ (-exponent).toNat := by
  rcases Int.le_total 0 exponent with nonneg | nonpos
  · obtain ⟨power, rfl⟩ := Int.eq_ofNat_of_zero_le nonneg
    simp
  · obtain ⟨power, rfl⟩ := Int.exists_eq_neg_ofNat nonpos
    simp

theorem roundQuotient_bounds (numerator denominator : Nat) :
    numerator / denominator ≤ roundQuotient numerator denominator ∧
      roundQuotient numerator denominator ≤ numerator / denominator + 1 := by
  unfold roundQuotient
  dsimp only
  split <;> omega

theorem roundQuotient_mono {numerator denominator other divisor : Nat}
    (positive : 0 < denominator) (otherPositive : 0 < divisor)
    (less : numerator * divisor ≤ other * denominator) :
    roundQuotient numerator denominator ≤ roundQuotient other divisor := by
  have below := roundQuotient_bounds numerator denominator
  have above := roundQuotient_bounds other divisor
  have first := Nat.div_add_mod numerator denominator
  have second := Nat.div_add_mod other divisor
  have floors : numerator / denominator ≤ other / divisor := by
    rw [Nat.le_div_iff_mul_le otherPositive]
    refine Nat.le_of_mul_le_mul_right ?_ positive
    calc numerator / denominator * divisor * denominator
        = numerator / denominator * denominator * divisor := by ring
      _ ≤ numerator * divisor := Nat.mul_le_mul_right _ (Nat.div_mul_le_self _ _)
      _ ≤ other * denominator := less
  rcases Nat.lt_or_eq_of_le floors with apart | same
  · omega
  · -- the same floor: the remainders decide, and they compare as the quotients do
    have remainders : numerator % denominator * divisor ≤ other % divisor * denominator := by
      rw [← first, ← second, same] at less
      linarith
    unfold roundQuotient
    simp only [same]
    split
    · rename_i up
      have otherUp : divisor < 2 * (other % divisor) ∨
          (divisor = 2 * (other % divisor) ∧ other / divisor % 2 = 1) := by
        rcases up with more | ⟨half, odd⟩
        · left
          apply (Nat.mul_lt_mul_right positive).mp
          nlinarith
        · have atLeast : divisor ≤ 2 * (other % divisor) := by
            refine Nat.le_of_mul_le_mul_right ?_ positive
            nlinarith
          omega
      rw [if_pos otherUp]
    · split <;> omega

theorem roundQuotient_le {numerator denominator bound : Nat} (positive : 0 < denominator)
    (less : numerator ≤ bound * denominator) : roundQuotient numerator denominator ≤ bound := by
  have whole : roundQuotient bound 1 = bound := by simp [roundQuotient, Nat.mod_one]
  rw [← whole]
  exact roundQuotient_mono positive Nat.one_pos (by omega)

theorem le_roundQuotient {numerator denominator bound : Nat} (positive : 0 < denominator)
    (less : bound * denominator ≤ numerator) : bound ≤ roundQuotient numerator denominator :=
  ((Nat.le_div_iff_mul_le positive).mpr less).trans (roundQuotient_bounds _ _).1

theorem log2_bounds {number : Nat} (positive : 0 < number) :
    (2 : ℚ) ^ (number.log2 : Int) ≤ number ∧ (number : ℚ) < 2 ^ ((number.log2 : Int) + 1) := by
  constructor
  · rw [zpow_natCast]
    exact_mod_cast Nat.log2_self_le (by omega)
  · have less : number < 2 ^ (number.log2 + 1) := Nat.lt_log2_self
    exact_mod_cast less

section

variable {numerator denominator : Nat} (below : 0 < denominator) (exponent : Int) (power : Nat)

include below

theorem div_le_two_zpow_iff :
    (numerator : ℚ) / denominator ≤ 2 ^ (exponent + power) ↔
      numerator * 2 ^ (-exponent).toNat ≤ 2 ^ power * (denominator * 2 ^ exponent.toNat) := by
  rw [zpow_add₀ two_ne_zero, zpow_natCast, zpow_eq_div 2, div_mul_eq_mul_div,
    div_le_div_iff₀ (by exact_mod_cast below) (by positivity),
    show (2 : ℚ) ^ exponent.toNat * 2 ^ power * denominator =
      2 ^ power * (denominator * 2 ^ exponent.toNat) by ring]
  exact_mod_cast Iff.rfl

theorem two_zpow_le_div_iff :
    (2 : ℚ) ^ (exponent + power) ≤ (numerator : ℚ) / denominator ↔
      2 ^ power * (denominator * 2 ^ exponent.toNat) ≤ numerator * 2 ^ (-exponent).toNat := by
  rw [zpow_add₀ two_ne_zero, zpow_natCast, zpow_eq_div 2, div_mul_eq_mul_div,
    div_le_div_iff₀ (by positivity) (by exact_mod_cast below),
    show (2 : ℚ) ^ exponent.toNat * 2 ^ power * denominator =
      2 ^ power * (denominator * 2 ^ exponent.toNat) by ring]
  exact_mod_cast Iff.rfl

end

theorem log2Quotient_bounds {numerator denominator : Nat} (positive : 0 < numerator)
    (below : 0 < denominator) :
    (2 : ℚ) ^ log2Quotient numerator denominator ≤ (numerator : ℚ) / denominator ∧
      (numerator : ℚ) / denominator < 2 ^ (log2Quotient numerator denominator + 1) := by
  obtain ⟨numeratorLow, numeratorHigh⟩ := log2_bounds positive
  obtain ⟨denominatorLow, denominatorHigh⟩ := log2_bounds below
  have divisor : (0 : ℚ) < denominator := by exact_mod_cast below
  have upper :
      (numerator : ℚ) / denominator < 2 ^ ((numerator.log2 : Int) - denominator.log2 + 1) := by
    rw [div_lt_iff₀ divisor]
    calc (numerator : ℚ) < 2 ^ ((numerator.log2 : Int) + 1) := numeratorHigh
      _ = 2 ^ ((numerator.log2 : Int) - denominator.log2 + 1) * 2 ^ (denominator.log2 : Int) := by
          rw [← zpow_add₀ two_ne_zero]
          congr 1
          ring
      _ ≤ 2 ^ ((numerator.log2 : Int) - denominator.log2 + 1) * denominator :=
          mul_le_mul_of_nonneg_left denominatorLow (by positivity)
  have lower : (2 : ℚ) ^ ((numerator.log2 : Int) - denominator.log2 - 1) ≤
      (numerator : ℚ) / denominator := by
    rw [le_div_iff₀ divisor]
    calc (2 : ℚ) ^ ((numerator.log2 : Int) - denominator.log2 - 1) * denominator
        ≤ 2 ^ ((numerator.log2 : Int) - denominator.log2 - 1) *
            2 ^ ((denominator.log2 : Int) + 1) :=
          mul_le_mul_of_nonneg_left denominatorHigh.le (by positivity)
      _ = 2 ^ (numerator.log2 : Int) := by
          rw [← zpow_add₀ two_ne_zero]
          congr 1
          ring
      _ ≤ numerator := numeratorLow
  have reaches : ∀ exponent : Int, (2 : ℚ) ^ exponent ≤ (numerator : ℚ) / denominator ↔
      denominator * 2 ^ exponent.toNat ≤ numerator * 2 ^ (-exponent).toNat :=
    fun exponent => by simpa using two_zpow_le_div_iff below exponent 0
  unfold log2Quotient
  simp only [← reaches]
  split
  · rename_i reached
    exact ⟨reached, upper⟩
  · rename_i missed
    refine ⟨lower, ?_⟩
    rw [sub_add_cancel]
    exact not_le.mp missed

/-- The exponent of the last place of what a positive quotient is rounded to. -/
def lastPlace (numerator denominator : Nat) : Int :=
  max (log2Quotient numerator denominator - 52) (-1074)

def places (numerator denominator : Nat) : Nat :=
  roundQuotient (numerator * 2 ^ (-lastPlace numerator denominator).toNat)
    (denominator * 2 ^ (lastPlace numerator denominator).toNat)

theorem magnitude_ofQuotient (negative : Bool) {numerator : Nat} (positive : 0 < numerator)
    (denominator : Nat) :
    (ofQuotient negative numerator denominator).magnitude =
      min ((lastPlace numerator denominator + 1074).toNat * 2 ^ 52 + places numerator denominator)
        infinity := by
  unfold ofQuotient
  rw [if_neg (by omega)]
  rfl

section

variable {numerator denominator : Nat} (positive : 0 < numerator) (below : 0 < denominator)

include positive below

theorem places_le : places numerator denominator ≤ 2 ^ 53 := by
  refine roundQuotient_le (by positivity) ((div_le_two_zpow_iff below _ 53).mp ?_)
  refine (log2Quotient_bounds positive below).2.le.trans (zpow_le_zpow_right₀ one_le_two ?_)
  have atLeast : log2Quotient numerator denominator - 52 ≤ lastPlace numerator denominator :=
    le_max_left _ _
  push_cast
  omega

theorem le_places (normal : lastPlace numerator denominator ≠ -1074) :
    2 ^ 52 ≤ places numerator denominator := by
  refine le_roundQuotient (by positivity) ((two_zpow_le_div_iff below _ 52).mp ?_)
  refine (zpow_le_zpow_right₀ one_le_two ?_).trans (log2Quotient_bounds positive below).1
  have exact : lastPlace numerator denominator = log2Quotient numerator denominator - 52 ∨
      lastPlace numerator denominator = -1074 := max_choice _ _
  push_cast
  omega

end

theorem magnitude_ofQuotient_mono (negative otherNegative : Bool)
    {numerator denominator other divisor : Nat} (positive : 0 < denominator)
    (otherPositive : 0 < divisor) (less : numerator * divisor ≤ other * denominator) :
    (ofQuotient negative numerator denominator).magnitude ≤
      (ofQuotient otherNegative other divisor).magnitude := by
  rcases Nat.eq_zero_or_pos numerator with rfl | above
  · exact Nat.zero_le _
  have otherAbove : 0 < other := by
    apply Nat.pos_of_ne_zero
    intro zero
    subst zero
    have product := Nat.mul_pos above otherPositive
    omega
  have quotients : (numerator : ℚ) / denominator ≤ (other : ℚ) / divisor := by
    rw [div_le_div_iff₀ (by exact_mod_cast positive) (by exact_mod_cast otherPositive)]
    exact_mod_cast less
  have logarithms : log2Quotient numerator denominator ≤ log2Quotient other divisor := by
    have between : (2 : ℚ) ^ log2Quotient numerator denominator <
        2 ^ (log2Quotient other divisor + 1) :=
      (log2Quotient_bounds above positive).1.trans_lt
        (quotients.trans_lt (log2Quotient_bounds otherAbove otherPositive).2)
    have := (zpow_lt_zpow_iff_right₀ one_lt_two).mp between
    omega
  have units : lastPlace numerator denominator ≤ lastPlace other divisor :=
    max_le_max_right _ (sub_le_sub_right logarithms 52)
  rw [magnitude_ofQuotient _ above, magnitude_ofQuotient _ otherAbove]
  apply min_le_min_right
  have least : -1074 ≤ lastPlace numerator denominator := le_max_right _ _
  rcases units.lt_or_eq with apart | same
  · -- the rounded quotient may reach the next power of two but not exceed it
    have upper := places_le above positive
    have lower := le_places otherAbove otherPositive (by omega)
    have gap : (lastPlace numerator denominator + 1074).toNat + 1 ≤
        (lastPlace other divisor + 1074).toNat := by omega
    omega
  · rw [same]
    apply Nat.add_le_add_left
    unfold places
    rw [same]
    apply roundQuotient_mono (by positivity) (by positivity)
    calc numerator * 2 ^ (-lastPlace other divisor).toNat *
          (divisor * 2 ^ (lastPlace other divisor).toNat)
        = numerator * divisor *
            (2 ^ (-lastPlace other divisor).toNat * 2 ^ (lastPlace other divisor).toNat) := by ring
      _ ≤ other * denominator *
            (2 ^ (-lastPlace other divisor).toNat * 2 ^ (lastPlace other divisor).toNat) :=
          Nat.mul_le_mul_right _ less
      _ = _ := by ring

/-- What a finite number stands for, up to its sign. -/
def value (number : Double) : ℚ := number.mantissa * 2 ^ number.exponent

theorem value_eq (number : Double) :
    number.value =
      (number.mantissa * 2 ^ number.exponent.toNat : Nat) /
      (2 ^ (-number.exponent).toNat : Nat) := by
  rw [value, zpow_eq_div]
  push_cast
  ring

theorem mantissa_lt (number : Double) : number.mantissa < 2 ^ 53 := by
  unfold mantissa field
  split <;> omega

theorem le_mantissa {number : Double} (normal : 0 < number.field) : 2 ^ 52 ≤ number.mantissa := by
  unfold mantissa
  rw [if_neg (by omega)]
  omega

theorem value_mono {left right : Double} (less : left.magnitude ≤ right.magnitude) :
    left.value ≤ right.value := by
  have fields : left.field ≤ right.field := Nat.div_le_div_right less
  unfold value
  by_cases same : left.exponent = right.exponent
  · rw [same]
    refine mul_le_mul_of_nonneg_right ?_ (by positivity)
    have mantissas : left.mantissa ≤ right.mantissa := by
      unfold exponent at same
      unfold mantissa
      unfold field at *
      split <;> split <;> omega
    exact_mod_cast mantissas
  · have normal : 0 < right.field := by
      unfold exponent at same
      omega
    have apart : left.exponent + 1 ≤ right.exponent := by
      unfold exponent at same ⊢
      omega
    have upper : (left.mantissa : ℚ) ≤ 2 ^ 53 := by exact_mod_cast (mantissa_lt left).le
    have lower : (2 : ℚ) ^ 52 ≤ right.mantissa := by exact_mod_cast le_mantissa normal
    calc (left.mantissa : ℚ) * 2 ^ left.exponent
        ≤ 2 ^ 53 * 2 ^ left.exponent := mul_le_mul_of_nonneg_right upper (by positivity)
      _ = 2 ^ 52 * 2 ^ (left.exponent + 1) := by
          rw [zpow_add₀ two_ne_zero]
          ring
      _ ≤ 2 ^ 52 * 2 ^ right.exponent :=
          mul_le_mul_of_nonneg_left (zpow_le_zpow_right₀ one_le_two apart) (by positivity)
      _ ≤ right.mantissa * 2 ^ right.exponent :=
          mul_le_mul_of_nonneg_right lower (by positivity)

theorem magnitude_ofInt_mono {left right : Nat} (less : left ≤ right) :
    (ofInt left).magnitude ≤ (ofInt right).magnitude := by
  apply magnitude_ofQuotient_mono _ _ Nat.one_pos Nat.one_pos
  simpa using less

theorem magnitude_multiply_mono {left right : Double} (less : left.magnitude ≤ right.magnitude)
    (factor : Double) :
    (left.multiply factor).magnitude ≤ (right.multiply factor).magnitude := by
  have values := value_mono less
  rw [value_eq, value_eq, div_le_div_iff₀ (by positivity) (by positivity)] at values
  have products : left.mantissa * 2 ^ left.exponent.toNat * 2 ^ (-right.exponent).toNat ≤
      right.mantissa * 2 ^ right.exponent.toNat * 2 ^ (-left.exponent).toNat := by
    exact_mod_cast values
  apply magnitude_ofQuotient_mono _ _ (by positivity) (by positivity)
  calc left.mantissa * 2 ^ left.exponent.toNat *
        (factor.mantissa * 2 ^ factor.exponent.toNat) *
        (2 ^ (-right.exponent).toNat * 2 ^ (-factor.exponent).toNat)
      = left.mantissa * 2 ^ left.exponent.toNat * 2 ^ (-right.exponent).toNat *
          (factor.mantissa * 2 ^ factor.exponent.toNat * 2 ^ (-factor.exponent).toNat) := by ring
    _ ≤ right.mantissa * 2 ^ right.exponent.toNat * 2 ^ (-left.exponent).toNat *
          (factor.mantissa * 2 ^ factor.exponent.toNat * 2 ^ (-factor.exponent).toNat) :=
        Nat.mul_le_mul_right _ products
    _ = _ := by ring

end FilterSynthesis.Double
