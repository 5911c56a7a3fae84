import FilterSynthesis.Proofs.Reading.Numeral

namespace FilterSynthesis

namespace Reading

theorem toDigits_leading {number : Nat} (positive : 0 < number) :
    (Nat.toDigits 10 number).head? ≠ some '0' := by
  induction number using Nat.strongRecOn with
  | ind number induction =>
      by_cases small : number < 10
      · have single : ∀ digit < 10, 0 < digit → Nat.digitChar digit ≠ '0' := by decide
        rw [Nat.toDigits_of_lt_base small, List.head?_cons, ne_eq, Option.some.injEq]
        exact single number small positive
      · rw [Nat.toDigits_of_base_le (by decide) (by omega),
          List.head?_append_of_ne_nil _ Nat.toDigits_ne_nil]
        exact induction (number / 10) (by omega) (by omega)

theorem pow_length_toDigits_le {number : Nat} (positive : 0 < number) :
    10 ^ ((Nat.toDigits 10 number).length - 1) ≤ number := by
  by_contra less
  have nonempty := Nat.length_toDigits_pos (b := 10) (n := number)
  by_cases single : (Nat.toDigits 10 number).length - 1 = 0
  · rw [single] at less
    omega
  · have shorter := (Nat.length_toDigits_le_iff (by decide) (Nat.pos_of_ne_zero single)).mpr
      (not_le.mp less)
    omega

theorem appendDigits_lt {chars : List Char} (digits : ∀ char ∈ chars, char.isDigit) (word : Nat) :
    appendDigits word (digitValues chars) < (word + 1) * 10 ^ chars.length := by
  induction chars generalizing word with
  | nil => simp [digitValues, appendDigits]
  | cons char others induction =>
      obtain ⟨digit, later⟩ := List.forall_mem_cons.mp digits
      have bounds := toNat_of_isDigit digit
      calc appendDigits word (digitValues (char :: others))
          = appendDigits (word * 10 + (char.toNat - 48)) (digitValues others) := rfl
        _ < (word * 10 + (char.toNat - 48) + 1) * 10 ^ others.length := induction later _
        _ ≤ (word + 1) * 10 * 10 ^ others.length := Nat.mul_le_mul_right _ (by omega)
        _ = (word + 1) * 10 ^ (char :: others).length := by
            rw [List.length_cons, pow_succ]
            ring

theorem appendDigits_fits {chars : List Char} (digits : ∀ char ∈ chars, char.isDigit)
    (few : chars.length ≤ 16) : appendDigits 0 (digitValues chars) < 2 ^ 64 := by
  have below := appendDigits_lt digits 0
  have power : 10 ^ chars.length ≤ 10 ^ 16 := Nat.pow_le_pow_right (by decide) few
  omega

theorem appendDigits_zeros (word zeros : Nat) :
    appendDigits word (digitValues (List.replicate zeros '0')) = word * 10 ^ zeros := by
  induction zeros generalizing word with
  | zero => simp [digitValues, appendDigits]
  | succ zeros induction =>
      have following := induction (word * 10)
      rw [pow_succ', ← mul_assoc, ← following]
      rfl

variable {decimal : Decimal}

theorem isDigit_of_mem_zeros {zeros : Nat} {char : Char}
    (member : char ∈ List.replicate zeros '0') :
    char.isDigit := by
  rw [List.eq_of_mem_replicate member]
  decide

theorem isDigit_of_mem_digits {number : Nat} {char : Char}
    (member : char ∈ Nat.toDigits 10 number) : char.isDigit :=
  Nat.isDigit_of_mem_toDigits (by decide) (by decide) member

theorem spells_split (positive : 0 < decimal.digits) (bounded : decimal.value ≤ decimalCeiling)
    (places : Nat) (some : 0 < places) (few : places ≤ 16) (power : Option Int)
    (inside : places ≤ (Nat.toDigits 10 decimal.digits).length)
    (marked : places < (Nat.toDigits 10 decimal.digits).length ∨ power.isSome)
    (small : ∀ exponent ∈ power, exponent.natAbs ≤ greatestExponent)
    (exponent : power.getD 0 + places - (Nat.toDigits 10 decimal.digits).length =
      decimal.exponent) :
    Spells ((Nat.toDigits 10 decimal.digits).take places)
      ((Nat.toDigits 10 decimal.digits).drop places) power where
  nonempty := by
    rw [ne_eq, List.take_eq_nil_iff, not_or]
    exact ⟨by omega, Nat.toDigits_ne_nil⟩
  digits := by
    rw [List.take_append_drop]
    exact fun char member => isDigit_of_mem_digits member
  leading := by
    right
    rw [List.head?_take, if_neg (by omega)]
    exact toDigits_leading positive
  fits := by
    refine appendDigits_fits (fun char member => ?_) ?_
    · exact isDigit_of_mem_digits (List.mem_of_mem_take member)
    · rw [List.length_take]
      omega
  marked := by
    apply marked.imp_left
    intro more
    rw [ne_eq, List.drop_eq_nil_iff]
    omega
  small := small
  bounded := by
    rw [List.take_append_drop, appendDigits_toDigits, List.length_drop,
      show power.getD 0 - ((Nat.toDigits 10 decimal.digits).length - places : Nat) =
        decimal.exponent by omega]
    exact bounded

theorem spells_below (bounded : decimal.value ≤ decimalCeiling) (zeros : Nat)
    (exponent : -(zeros : Int) - (Nat.toDigits 10 decimal.digits).length = decimal.exponent) :
    Spells ['0'] (List.replicate zeros '0' ++ Nat.toDigits 10 decimal.digits) none where
  nonempty := List.cons_ne_nil _ _
  digits := by
    intro char member
    rcases List.mem_append.mp member with single | member
    · rw [List.mem_singleton.mp single]
      decide
    · rcases List.mem_append.mp member with zero | digit
      · exact isDigit_of_mem_zeros zero
      · exact isDigit_of_mem_digits digit
  leading := Or.inl rfl
  fits := by decide
  marked := Or.inl (List.append_ne_nil_of_right_ne_nil _ Nat.toDigits_ne_nil)
  small := by simp
  bounded := by
    have whole : appendDigits 0 (digitValues
        (['0'] ++ (List.replicate zeros '0' ++ Nat.toDigits 10 decimal.digits))) =
            decimal.digits := by
      rw [← List.append_assoc, digitValues_append, appendDigits_append,
        show ['0'] ++ List.replicate zeros '0' = List.replicate (zeros + 1) '0' from rfl,
        appendDigits_zeros, Nat.zero_mul, appendDigits_toDigits]
    rw [whole, List.length_append, List.length_replicate,
      show (none : Option Int).getD 0 -
          ((zeros + (Nat.toDigits 10 decimal.digits).length : Nat) : Int) =
        decimal.exponent by simp only [Option.getD_none]; omega]
    exact bounded

theorem spells_above (positive : 0 < decimal.digits) (bounded : decimal.value ≤ decimalCeiling)
    (zeros : Nat) (few : (Nat.toDigits 10 decimal.digits).length + zeros ≤ 16)
    (exponent : (zeros : Int) = decimal.exponent) :
    Spells (Nat.toDigits 10 decimal.digits ++ List.replicate zeros '0') ['0'] none where
  nonempty := List.append_ne_nil_of_left_ne_nil Nat.toDigits_ne_nil _
  digits := by
    intro char member
    rcases List.mem_append.mp member with member | member
    · rcases List.mem_append.mp member with digit | zero
      · exact isDigit_of_mem_digits digit
      · exact isDigit_of_mem_zeros zero
    · rw [List.mem_singleton.mp member]
      decide
  leading := by
    right
    rw [List.head?_append_of_ne_nil _ Nat.toDigits_ne_nil]
    exact toDigits_leading positive
  fits := by
    refine appendDigits_fits (fun char member => ?_) ?_
    · rcases List.mem_append.mp member with digit | zero
      · exact isDigit_of_mem_digits digit
      · exact isDigit_of_mem_zeros zero
    · rwa [List.length_append, List.length_replicate]
  marked := Or.inl (List.cons_ne_nil _ _)
  small := by simp
  bounded := by
    have whole : appendDigits 0 (digitValues
        (Nat.toDigits 10 decimal.digits ++ List.replicate zeros '0' ++ ['0'])) =
          decimal.digits * 10 ^ (zeros + 1) := by
      rw [List.append_assoc, show List.replicate zeros '0' ++ ['0'] = List.replicate (zeros + 1) '0'
        from List.replicate_succ'.symm, digitValues_append, appendDigits_append,
        appendDigits_toDigits, appendDigits_zeros]
    rw [whole]
    calc ((decimal.digits * 10 ^ (zeros + 1) : Nat) : ℚ) *
          10 ^ ((none : Option Int).getD 0 - (['0'].length : Nat))
        = decimal.value := by
          rw [Decimal.value, ← exponent, zpow_natCast, Option.getD_none, List.length_singleton,
            show (0 : Int) - (1 : Nat) = -1 from rfl, zpow_neg_one, pow_succ]
          push_cast
          field_simp
      _ ≤ decimalCeiling := bounded

theorem fractionChars_of_ne_nil {fraction : List Char} (nonempty : fraction ≠ []) :
    fractionChars fraction = '.' :: fraction := by
  cases fraction with
  | nil => exact absurd rfl nonempty
  | cons char others => rfl

theorem positional_numeral (positive : 0 < decimal.digits)
    (bounded : decimal.value ≤ decimalCeiling)
    {places : Int} (few : places ≤ 16)
    (exponent : places - (Nat.toDigits 10 decimal.digits).length = decimal.exponent) :
    ∃ integral fraction power, NumeralLayout.positional (Nat.toDigits 10 decimal.digits) places =
      numeralChars integral fraction power ∧ Spells integral fraction power := by
  unfold NumeralLayout.positional
  split
  · rename_i low
    refine ⟨_, _, _, ?_, spells_below bounded (-places).toNat (by omega)⟩
    rw [numeralChars,
      fractionChars_of_ne_nil (List.append_ne_nil_of_right_ne_nil _ Nat.toDigits_ne_nil),
      exponentChars, List.append_nil]
    rfl
  · split
    · rename_i high
      refine ⟨_, _, _, ?_, spells_above positive bounded
        (places.toNat - (Nat.toDigits 10 decimal.digits).length) (by omega) (by omega)⟩
      rfl
    · rename_i low inside
      rw [not_le] at low inside
      refine ⟨_, _, _, ?_, spells_split positive bounded places.toNat (by omega) (by omega)
        none inside.le (Or.inl inside) (by simp) ?_⟩
      · rw [numeralChars, fractionChars_of_ne_nil, exponentChars, List.append_nil]
        rw [ne_eq, List.drop_eq_nil_iff]
        omega
      · rw [Option.getD_none]
        omega

theorem scientific_numeral (positive : 0 < decimal.digits)
    (bounded : decimal.value ≤ decimalCeiling)
    {power : Int} (small : power.natAbs ≤ greatestExponent)
    (exponent : power + 1 - (Nat.toDigits 10 decimal.digits).length = decimal.exponent) :
    ∃ integral fraction power', NumeralLayout.json.scientific
        (Nat.toDigits 10 decimal.digits) power =
      numeralChars integral fraction power' ∧ Spells integral fraction power' := by
  refine ⟨_, _, some power, ?_, spells_split positive bounded 1 (by omega) (by omega) (some power)
    Nat.length_toDigits_pos (Or.inr rfl) ?_ exponent⟩
  · rw [numeralChars, NumeralLayout.scientific]
    cases (Nat.toDigits 10 decimal.digits).drop 1 with
    | nil => simp [fractionChars, exponentChars, NumeralLayout.json]
    | cons char others => simp [fractionChars, exponentChars, NumeralLayout.json]
  · intro exponent equal
    cases equal
    exact small

/-- A decimal between `10 ^ -400` and the ceiling is written as a numeral that reads back. -/
theorem write_numeral (positive : 0 < decimal.digits) (bounded : decimal.value ≤ decimalCeiling)
    (low : -400 ≤ decimal.exponent) :
    ∃ integral fraction power, NumeralLayout.json.write decimal =
      numeralChars integral fraction power ∧ Spells integral fraction power := by
  have nonempty := Nat.length_toDigits_pos (b := 10) (n := decimal.digits)
  unfold NumeralLayout.write
  dsimp only
  split
  · rename_i range
    have highest : NumeralLayout.json.highest = 15 := rfl
    exact positional_numeral positive bounded (by omega) (by omega)
  · refine scientific_numeral positive bounded ?_ (by omega)
    have leading : ((10 : ℚ)) ^ (decimal.exponent + (Nat.toDigits 10 decimal.digits).length - 1) ≤
        decimal.value := by
      rw [show decimal.exponent + (Nat.toDigits 10 decimal.digits).length - 1 =
          ((Nat.toDigits 10 decimal.digits).length - 1 : Nat) + decimal.exponent by omega,
        zpow_add₀ (by norm_num), zpow_natCast, Decimal.value]
      refine mul_le_mul_of_nonneg_right ?_ (by positivity)
      exact_mod_cast pow_length_toDigits_le positive
    have below : (decimal.exponent + (Nat.toDigits 10 decimal.digits).length - 1) <
        (greatestPower + 1 : Nat) := by
      apply (zpow_lt_zpow_iff_right₀ (by norm_num : (1 : ℚ) < 10)).mp
      rw [zpow_natCast]
      apply (leading.trans bounded).trans_lt
      exact_mod_cast Double.decimalCeiling_lt
    unfold greatestPower at below
    unfold greatestExponent
    omega

theorem numberOf?_write (negative : Bool) (positive : 0 < decimal.digits)
    (bounded : decimal.value ≤ decimalCeiling) (low : -400 ≤ decimal.exponent) :
    ∃ value, numberOf? (if negative then '-' :: NumeralLayout.json.write decimal
      else NumeralLayout.json.write decimal) = some (.float value) := by
  obtain ⟨integral, fraction, power, written, spells⟩ := write_numeral positive bounded low
  rw [written]
  exact numberOf?_numeral negative spells

/-- The text of a finite number is read as a binary64 number. The greatest number is above the
ceiling but its text has few enough digits. -/
theorem numberOf?_text {number : Double} (finite : number.isFinite = true) :
    ∃ value, numberOf? number.text.toList = some (.float value) := by
  obtain ⟨negative, magnitude⟩ := number
  have less : magnitude < Double.infinity := by simpa [Double.isFinite] using finite
  unfold Double.text
  rw [String.toList_ofList]
  by_cases zero : magnitude = 0
  · subst zero
    cases negative <;> exact ⟨_, rfl⟩
  by_cases greatest : magnitude + 1 < Double.infinity
  · obtain ⟨positive, bounded, low⟩ :
        0 < (Double.shortest ⟨negative, magnitude⟩).digits ∧
          (Double.shortest ⟨negative, magnitude⟩).value ≤ decimalCeiling ∧
            -400 ≤ (Double.shortest ⟨negative, magnitude⟩).exponent :=
      Double.shortest_bounds zero greatest
    exact numberOf?_write negative positive bounded low
  · obtain rfl : magnitude = Double.infinity - 1 := by omega
    refine ⟨⟨negative, Double.infinity - 1⟩, ?_⟩
    cases negative <;> decide +kernel

end Reading

end FilterSynthesis
