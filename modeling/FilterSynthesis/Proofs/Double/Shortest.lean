import FilterSynthesis.Double.Shortest
import FilterSynthesis.Proofs.Double.Rounding
import FilterSynthesis.Reading.Numeral

/-!
What the shortest decimal of a number stands for stays within half a last place of the number. For
all but the greatest number this is a little less than what rounds to infinity, so little that no
product by which the decimal can be read back is infinite, however it is rounded on the way.
-/

namespace FilterSynthesis

/-- Half a last place above the greatest number but one. -/
def decimalCeiling : Nat := (2 ^ 54 - 3) * 2 ^ 970

def Decimal.value (decimal : Decimal) : ℚ := decimal.digits * 10 ^ decimal.exponent

namespace Double

theorem mantissa_pos {number : Double} (nonzero : number.magnitude ≠ 0) : 0 < number.mantissa := by
  unfold mantissa
  split <;> omega

/-- What reads back as a number is positive and at most half a last place too great. -/
theorem bounds_of_readsBack {number : Double} (nonzero : number.magnitude ≠ 0) {grid : Int}
    {digits : Nat} (reads : number.readsBack grid digits = true) :
    0 < digits ∧
        (digits : ℚ) * 10 ^ grid ≤ (number.upperQuarters : ℚ) / 4 * 2 ^ number.exponent := by
  have positive := mantissa_pos nonzero
  have lower : 0 < number.lowerQuarters := by
    unfold lowerQuarters
    split <;> omega
  have inside : number.lowerQuarters * (2 ^ number.exponent.toNat * 10 ^ (-grid).toNat) ≤
        digits * 10 ^ grid.toNat * (4 * 2 ^ (-number.exponent).toNat) ∧
      digits * 10 ^ grid.toNat * (4 * 2 ^ (-number.exponent).toNat) ≤
        number.upperQuarters * (2 ^ number.exponent.toNat * 10 ^ (-grid).toNat) := by
    unfold readsBack at reads
    dsimp only at reads
    split at reads
    · simpa using reads
    · simp only [Bool.and_eq_true, decide_eq_true_eq] at reads
      exact ⟨reads.1.le, reads.2.le⟩
  constructor
  · apply Nat.pos_of_ne_zero
    intro zero
    subst zero
    have unit : 0 < number.lowerQuarters * (2 ^ number.exponent.toNat * 10 ^ (-grid).toNat) := by
      positivity
    omega
  · rw [zpow_eq_div 10, zpow_eq_div 2, mul_div_assoc', div_mul_div_comm,
      div_le_div_iff₀ (by positivity) (by positivity)]
    have cast : ((digits * 10 ^ grid.toNat * (4 * 2 ^ (-number.exponent).toNat) : Nat) : ℚ) ≤
        (number.upperQuarters * (2 ^ number.exponent.toNat * 10 ^ (-grid).toNat) : Nat) := by
      exact_mod_cast inside.2
    push_cast at cast
    linarith

theorem upperQuarters_le {number : Double} (less : number.magnitude + 1 < infinity) :
    (number.upperQuarters : ℚ) / 4 * 2 ^ number.exponent ≤ decimalCeiling := by
  have top : number.exponent ≤ 971 ∧ (number.exponent = 971 → number.mantissa ≤ 2 ^ 53 - 2) := by
    unfold exponent mantissa field
    unfold infinity at less
    split <;> omega
  have ceiling : (decimalCeiling : ℚ) = (2 ^ 54 - 3) * 2 ^ (970 : Int) := by
    rw [decimalCeiling, Nat.cast_mul, Nat.cast_pow, Nat.cast_ofNat,
      show (970 : Int) = (970 : Nat) from rfl, zpow_natCast]
    congr 1
    norm_num
  have quarters : (number.upperQuarters : ℚ) = 4 * number.mantissa + 2 := by
    simp [upperQuarters]
  rw [ceiling, quarters]
  rcases eq_or_lt_of_le top.1 with last | below
  · have mantissas : (number.mantissa : ℚ) ≤ 2 ^ 53 - 2 := by
      have := top.2 last
      have cast : (number.mantissa : ℚ) ≤ ((2 ^ 53 - 2 : Nat) : ℚ) := by exact_mod_cast this
      norm_num at cast ⊢
      exact cast
    rw [last, show (971 : Int) = 970 + 1 by rfl, zpow_add₀ two_ne_zero]
    calc (4 * (number.mantissa : ℚ) + 2) / 4 * (2 ^ (970 : Int) * 2 ^ (1 : Int))
        = (2 * number.mantissa + 1) * 2 ^ (970 : Int) := by ring
      _ ≤ (2 ^ 54 - 3) * 2 ^ (970 : Int) :=
          mul_le_mul_of_nonneg_right (by linarith) (by positivity)
  · have mantissas : (number.mantissa : ℚ) ≤ 2 ^ 53 := by exact_mod_cast (mantissa_lt number).le
    have units : (2 : ℚ) ^ number.exponent ≤ 2 ^ (970 : Int) :=
      zpow_le_zpow_right₀ one_le_two (by omega)
    refine mul_le_mul ?_ units (by positivity) (by norm_num)
    linarith

theorem onGrid?_eq_some {number : Double} {grid : Int} {decimal : Decimal}
    (found : number.onGrid? grid = some decimal) :
    decimal.exponent = grid ∧ number.readsBack grid decimal.digits = true := by
  unfold onGrid? at found
  dsimp only at found
  split at found
  · rename_i below above
    cases found
    have near := roundQuotient_bounds
      (number.mantissa * 2 ^ number.exponent.toNat * 10 ^ (-grid).toNat)
      (2 ^ (-number.exponent).toNat * 10 ^ grid.toNat)
    refine ⟨rfl, ?_⟩
    rcases Nat.lt_or_eq_of_le near.1 with up | same
    · rwa [show roundQuotient _ _ = _ + 1 from Nat.le_antisymm near.2 up]
    · rwa [← same]
  · rename_i below above
    cases found
    exact ⟨rfl, below⟩
  · rename_i below above
    cases found
    exact ⟨rfl, above⟩
  · cases found

theorem shortest_bounds {number : Double} (nonzero : number.magnitude ≠ 0)
    (less : number.magnitude + 1 < infinity) :
    0 < number.shortest.digits ∧ number.shortest.value ≤ decimalCeiling ∧
      -400 ≤ number.shortest.exponent := by
  have noZero : number.isZero = false := by simpa [isZero] using nonzero
  unfold shortest
  rw [noZero, if_neg Bool.false_ne_true]
  cases found : (List.range 20).findSome? fun (step : Nat) =>
      number.onGrid? (number.topGrid - step) with
  | some decimal =>
      obtain ⟨step, listed, hit⟩ := List.exists_of_findSome?_eq_some found
      obtain ⟨exact, reads⟩ := onGrid?_eq_some hit
      obtain ⟨positive, bounded⟩ := bounds_of_readsBack nonzero reads
      have coarse : -330 ≤ number.topGrid := by
        unfold topGrid exponent
        omega
      have few : step < 20 := List.mem_range.mp listed
      refine ⟨positive, ?_, ?_⟩
      · rw [Option.getD_some, Decimal.value, exact]
        exact bounded.trans (upperQuarters_le less)
      · rw [Option.getD_some, exact]
        omega
  | none =>
      refine ⟨mantissa_pos nonzero, ?_, by simp⟩
      have small : number.mantissa ≤ decimalCeiling :=
          (mantissa_lt number).le.trans (by decide +kernel)
      rw [Option.getD_none, Decimal.value, zpow_zero, mul_one]
      exact Nat.cast_le.mpr small

/-! Reading a decimal back: the word is rounded, then the product. -/

def greatestWord (exponent : Nat) : Nat := min (decimalCeiling / 10 ^ exponent) (2 ^ 64 - 1)

theorem isFinite_greatest :
    ∀ exponent < 309,
      ((ofInt (greatestWord exponent)).multiply (Reading.powerOfTen exponent)).isFinite = true := by
  decide +kernel

theorem decimalCeiling_lt : decimalCeiling < 10 ^ (Reading.greatestPower + 1) := by decide +kernel

theorem isSome_scaled? {word : Nat} (fits : word < 2 ^ 64) {exponent : Int}
    (bounded : 0 ≤ exponent → word * 10 ^ exponent.toNat ≤ decimalCeiling) :
    (Reading.scaled? word exponent).isSome = true := by
  unfold Reading.scaled?
  by_cases negative : exponent < 0
  · simp [negative]
  have product := bounded (by omega)
  by_cases small : exponent.toNat ≤ Reading.greatestPower
  · have below : word ≤ greatestWord exponent.toNat := by
      refine le_min ?_ (by omega)
      rwa [Nat.le_div_iff_mul_le (by positivity)]
    have greatest := isFinite_greatest exponent.toNat (Nat.lt_succ_of_le small)
    have finite : ((ofInt word).multiply (Reading.powerOfTen exponent.toNat)).isFinite = true := by
      unfold isFinite at *
      rw [decide_eq_true_eq] at *
      exact (magnitude_multiply_mono (magnitude_ofInt_mono below) _).trans_lt greatest
    simp [negative, small, finite]
  · have zero : word = 0 := by
      by_contra nonzero
      have power : 10 ^ (Reading.greatestPower + 1) ≤ 10 ^ exponent.toNat :=
        Nat.pow_le_pow_right (by norm_num) (by omega)
      have more : 10 ^ exponent.toNat ≤ word * 10 ^ exponent.toNat :=
        Nat.le_mul_of_pos_left _ (Nat.pos_of_ne_zero nonzero)
      exact absurd decimalCeiling_lt (not_lt.mpr (power.trans (more.trans product)))
    simp [negative, small, zero]

end Double

end FilterSynthesis
