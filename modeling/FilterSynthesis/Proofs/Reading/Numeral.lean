import FilterSynthesis.Proofs.Double.Shortest
import FilterSynthesis.Reading.Reread

/-!
Reading a numeral with a fraction or an exponent gives a binary64 number. The digits that do not fit
a word are dropped and the word is scaled, which stays finite because the numeral stays below the
ceiling of the shortest decimals.
-/

namespace FilterSynthesis

namespace Reading

def octets (chars : List Char) : Bytes := chars.map fun char => char.toNat.toUInt8

@[simp] theorem octets_append (first second : List Char) :
    octets (first ++ second) = octets first ++ octets second := List.map_append

theorem ascii_octet {char : Char} (small : char.toNat < 256) : ascii char.toNat.toUInt8 = char := by
  have same : char.toNat.toUInt8.toNat = char.toNat := by
    simp only [Nat.toUInt8, UInt8.toNat_ofNat']
    omega
  rw [ascii, same, Char.ofNat_toNat]

theorem digit?_octet {char : Char} (digit : char.isDigit) :
    digit? char.toNat.toUInt8 = some (char.toNat - 48) := by
  have bounds := toNat_of_isDigit digit
  rw [digit?, ascii_octet (by omega), if_pos digit]

theorem exists_succ_of_isDigit {char : Char} (digit : char.isDigit) (other : char ≠ '0') :
    ∃ number, char.toNat - 48 = number + 1 := by
  apply Nat.exists_eq_add_one.mpr
  have bounds := toNat_of_isDigit digit
  have different : char.toNat ≠ '0'.toNat := fun same => other (Char.toNat_inj.mp same)
  have zero : '0'.toNat = 48 := rfl
  omega

def EndsDigits (bytes : Bytes) : Prop := ∀ byte ∈ bytes.head?, digit? byte = none

def digitValues (chars : List Char) : List Nat := chars.map fun char => char.toNat - 48

theorem digitsOf_octets {chars : List Char} (digits : ∀ char ∈ chars, char.isDigit) {rest : Bytes}
    (ends : EndsDigits rest) : digitsOf (octets chars ++ rest) = (digitValues chars, rest) := by
  induction chars with
  | nil =>
      cases rest with
      | nil => rfl
      | cons byte others =>
          have none := ends byte rfl
          simp [octets, digitValues, digitsOf, none]
  | cons char others induction =>
      obtain ⟨digit, later⟩ := List.forall_mem_cons.mp digits
      have first := digit?_octet digit
      have following := induction later
      simp only [octets, List.map_cons, List.cons_append, digitsOf, first] at following ⊢
      rw [following]
      rfl

def appendDigits (word : Nat) (digits : List Nat) : Nat :=
  digits.foldl (fun value digit => value * 10 + digit) word

theorem le_appendDigits (word : Nat) (digits : List Nat) :
    word * 10 ^ digits.length ≤ appendDigits word digits := by
  induction digits generalizing word with
  | nil => simp [appendDigits]
  | cons digit rest induction =>
      calc word * 10 ^ (digit :: rest).length
          = word * 10 * 10 ^ rest.length := by rw [List.length_cons, pow_succ]; ring
        _ ≤ (word * 10 + digit) * 10 ^ rest.length := Nat.mul_le_mul_right _ (Nat.le_add_right _ _)
        _ ≤ appendDigits (word * 10 + digit) rest := induction _

/-- What is gathered into a word is at most what all digits stand for. -/
theorem gather_bounds {word : Nat} (fits : word < 2 ^ 64) (digits : List Nat) :
    (gather word digits).1 < 2 ^ 64 ∧ (gather word digits).2 ≤ digits.length ∧
      (gather word digits).1 * 10 ^ (digits.length - (gather word digits).2) ≤
        appendDigits word digits := by
  induction digits generalizing word with
  | nil => exact ⟨fits, Nat.le_refl _, by simp [gather, appendDigits]⟩
  | cons digit rest induction =>
      unfold gather
      split
      · rename_i room
        obtain ⟨small, few, below⟩ := induction room
        refine ⟨small, Nat.succ_le_succ few, ?_⟩
        rwa [List.length_cons, Nat.add_sub_add_right]
      · exact ⟨fits, Nat.zero_le _, le_appendDigits word (digit :: rest)⟩

theorem gather_all {word : Nat} {digits : List Nat} (fits : appendDigits word digits < 2 ^ 64) :
    gather word digits = (appendDigits word digits, digits.length) := by
  induction digits generalizing word with
  | nil => rfl
  | cons digit rest induction =>
      have room : word * 10 + digit < 2 ^ 64 := by
        refine lt_of_le_of_lt ?_ fits
        refine le_trans ?_ (le_appendDigits (word * 10 + digit) rest)
        exact Nat.le_mul_of_pos_right _ (by positivity)
      have following : gather (word * 10 + digit) rest =
          (appendDigits (word * 10 + digit) rest, rest.length) := induction fits
      rw [gather, if_pos room, following]
      rfl

/-- Reading succeeds and leaves nothing. -/
def Finishes {α : Type} {bytes : Bytes} (result : Except (Fault Nat) (α × Rest bytes)) : Prop :=
  ∃ value bound, result = .ok (value, ⟨[], bound⟩)

theorem finishes_inRange {number : Option Double} (some : number.isSome = true) {bytes : Bytes}
    (bound : ([] : Bytes).length ≤ bytes.length) :
    Finishes (inRange number (⟨[], bound⟩ : Rest bytes)) := by
  obtain ⟨value, rfl⟩ := Option.isSome_iff_exists.mp some
  exact ⟨value, bound, rfl⟩

theorem readExponentDigits_cons {vanishes : Bool} {exponent digit : Nat} {byte : UInt8}
    {rest after : Bytes} {bound : after.length ≤ rest.length} {result : Option Nat}
    (first : digit? byte = some digit) (room : exponent * 10 + digit ≤ greatestExponent)
    (following : readExponentDigits vanishes (exponent * 10 + digit) rest =
      .ok (result, ⟨after, bound⟩)) :
    readExponentDigits vanishes exponent (byte :: rest) =
      .ok (result, ⟨after, Nat.le_succ_of_le bound⟩) := by
  rw [readExponentDigits]
  simp only [first, room, if_true, following]
  rfl

theorem readExponentDigits_octets {chars : List Char} (digits : ∀ char ∈ chars, char.isDigit)
    (vanishes : Bool) {exponent : Nat}
    (small : appendDigits exponent (digitValues chars) ≤ greatestExponent) :
    ∃ bound, readExponentDigits vanishes exponent (octets chars) =
      .ok (some (appendDigits exponent (digitValues chars)), ⟨[], bound⟩) := by
  induction chars generalizing exponent with
  | nil => exact ⟨Nat.le_refl _, rfl⟩
  | cons char others induction =>
      obtain ⟨digit, later⟩ := List.forall_mem_cons.mp digits
      have first := digit?_octet digit
      have room : exponent * 10 + (char.toNat - 48) ≤ greatestExponent := by
        refine le_trans ?_ small
        refine le_trans ?_
            (le_appendDigits (exponent * 10 + (char.toNat - 48)) (digitValues others))
        exact Nat.le_mul_of_pos_right _ (by positivity)
      obtain ⟨bound, following⟩ := induction later small
      exact ⟨_, readExponentDigits_cons first room following⟩

def exponentChars : Option Int → List Char
  | none => []
  | some power => 'e' :: (if power < 0 then '-' else '+') :: Nat.toDigits 10 power.natAbs

theorem endsDigits_exponentChars (power : Option Int) :
    EndsDigits (octets (exponentChars power)) := by
  cases power with
  | none => simp [exponentChars, octets, EndsDigits]
  | some power =>
      intro byte head
      cases head
      decide

theorem appendDigits_toDigits (number : Nat) :
    appendDigits 0 (digitValues (Nat.toDigits 10 number)) = number := by
  have decimal := Number.decimal_toDigits number
  rwa [Number.decimal, ← List.foldl_map] at decimal

theorem finishes_signed {sign byte : UInt8} {rest : Bytes} {word exponent : Nat} {base : Int}
    (negative : Bool) (signed : ascii sign = if negative then '-' else '+')
    (digit : (digit? byte).isNone = false)
    (whole : ∀ vanishes, ∃ bound, readExponentDigits vanishes 0 (byte :: rest) =
      .ok (some exponent, ⟨[], bound⟩))
    (scales :
      (scaled? word (if negative then base - exponent else base + exponent)).isSome = true) :
    Finishes (readExponent word base (sign :: byte :: rest)) := by
  obtain ⟨value, found⟩ := Option.isSome_iff_exists.mp scales
  obtain ⟨bound, read⟩ := whole (word = 0 || negative)
  refine ⟨value, Nat.zero_le _, ?_⟩
  unfold readExponent
  cases negative with
  | true =>
      rw [if_pos rfl] at signed found
      simp only [signed, if_true, Rest.all, Rest.behind, digit, Bool.false_eq_true, if_false, read,
        found, inRange]
  | false =>
      rw [if_neg Bool.false_ne_true] at signed found
      have other : ('+' : Char) ≠ '-' := by decide
      simp only [signed, other, if_true, Rest.all, Rest.behind, digit, Bool.false_eq_true, if_false,
        read, found, inRange]

theorem finishes_readExponent {word : Nat} {base power : Int}
    (small : power.natAbs ≤ greatestExponent)
    (scales : (scaled? word (base + power)).isSome = true) :
    Finishes (readExponent word base
      (octets ((if power < 0 then '-' else '+') :: Nat.toDigits 10 power.natAbs))) := by
  have digits : ∀ char ∈ Nat.toDigits 10 power.natAbs, char.isDigit :=
    fun _ member => Nat.isDigit_of_mem_toDigits (by decide) (by decide) member
  have total := appendDigits_toDigits power.natAbs
  cases spelled : Nat.toDigits 10 power.natAbs with
  | nil => exact absurd spelled Nat.toDigits_ne_nil
  | cons char others =>
      rw [spelled] at digits total
      have digit : (digit? char.toNat.toUInt8).isNone = false := by
        rw [digit?_octet (digits char List.mem_cons_self)]
        rfl
      have whole : ∀ vanishes, ∃ bound, readExponentDigits vanishes 0
          (char.toNat.toUInt8 :: octets others) = .ok (some power.natAbs, ⟨[], bound⟩) := by
        intro vanishes
        have read := readExponentDigits_octets digits vanishes (total.symm ▸ small)
        rwa [total] at read
      by_cases negative : power < 0
      · refine finishes_signed true ?_ digit whole ?_
        · rw [if_pos negative]
          decide
        · rwa [if_pos rfl, show base - power.natAbs = base + power by omega]
      · refine finishes_signed false ?_ digit whole ?_
        · rw [if_neg negative]
          decide
        · rwa [if_neg Bool.false_ne_true, show base + power.natAbs = base + power by omega]

theorem finishes_readPower {word : Nat} {base : Int} {power : Option Int}
    (small : ∀ exponent ∈ power, exponent.natAbs ≤ greatestExponent)
    (scales : (scaled? word (base + power.getD 0)).isSome = true) :
    Finishes (readPower word base (octets (exponentChars power))) := by
  cases power with
  | none =>
      rw [Option.getD_none, add_zero] at scales
      exact finishes_inRange scales _
  | some power =>
      obtain ⟨value, bound, read⟩ := finishes_readExponent (small power rfl) scales
      have mark : isExponentMark 'e'.toNat.toUInt8 = true := by decide
      refine ⟨value, Nat.zero_le _, ?_⟩
      change readPower word base ('e'.toNat.toUInt8 ::
          octets ((if power < 0 then '-' else '+') :: Nat.toDigits 10 power.natAbs)) = _
      simp only [readPower, mark, if_true, read]
      rfl

theorem finishes_readFraction {word : Nat} {base : Int} {fraction : List Char}
    (nonempty : fraction ≠ []) (digits : ∀ char ∈ fraction, char.isDigit) {power : Option Int}
    (small : ∀ exponent ∈ power, exponent.natAbs ≤ greatestExponent)
    (scales : (scaled? (gather word (digitValues fraction)).1
      (base - (gather word (digitValues fraction)).2 + power.getD 0)).isSome = true) :
    Finishes (readFraction word base (octets (fraction ++ exponentChars power))) := by
  have split : digitsOf (octets (fraction ++ exponentChars power)) =
      (digitValues fraction, octets (exponentChars power)) := by
    rw [octets_append, digitsOf_octets digits (endsDigits_exponentChars power)]
  obtain ⟨value, bound, read⟩ := finishes_readPower small scales
  refine ⟨value, Nat.zero_le _, ?_⟩
  unfold readFraction
  split
  · rename_i rest _ none _
    rw [split] at none
    exact absurd (List.map_eq_nil_iff.mp (congrArg Prod.fst none)) nonempty
  · rename_i values after _ _ some _
    rw [split] at some
    cases some
    simp only [read]

def fractionChars : List Char → List Char
  | [] => []
  | fraction => '.' :: fraction

def numeralChars (integral fraction : List Char) (power : Option Int) : List Char :=
  integral ++ (fractionChars fraction ++ exponentChars power)

/-- The parts of a numeral that is read as a binary64 number and not as an integer. -/
structure Spells (integral fraction : List Char) (power : Option Int) : Prop where
  nonempty : integral ≠ []
  digits : ∀ char ∈ integral ++ fraction, char.isDigit
  leading : integral = ['0'] ∨ integral.head? ≠ some '0'
  fits : appendDigits 0 (digitValues integral) < 2 ^ 64
  marked : fraction ≠ [] ∨ power.isSome
  small : ∀ exponent ∈ power, exponent.natAbs ≤ greatestExponent
  bounded : (appendDigits 0 (digitValues (integral ++ fraction)) : ℚ) *
    10 ^ (power.getD 0 - fraction.length) ≤ decimalCeiling

theorem digitValues_append (first second : List Char) :
    digitValues (first ++ second) = digitValues first ++ digitValues second := List.map_append

theorem appendDigits_append (word : Nat) (first second : List Nat) :
    appendDigits word (first ++ second) = appendDigits (appendDigits word first) second :=
  List.foldl_append

/-- Digits that are dropped make the number smaller, so it stays below the ceiling. -/
theorem Spells.scales {integral fraction : List Char} {power : Option Int}
    (spells : Spells integral fraction power) {word : Nat}
    (whole : appendDigits 0 (digitValues integral) = word) :
    (scaled? (gather word (digitValues fraction)).1
      (0 - (gather word (digitValues fraction)).2 + power.getD 0)).isSome = true := by
  obtain ⟨small, few, below⟩ := gather_bounds (whole ▸ spells.fits) (digitValues fraction)
  have bounded := spells.bounded
  rw [digitValues_append, appendDigits_append, whole] at bounded
  generalize gather word (digitValues fraction) = gathered at small few below ⊢
  generalize appendDigits word (digitValues fraction) = total at below bounded
  have lengths : (digitValues fraction).length = fraction.length := List.length_map ..
  rw [lengths] at few below
  refine Double.isSome_scaled? small fun positive => ?_
  have exponents : ((0 - (gathered.2 : Int) + power.getD 0).toNat : Int) =
      (fraction.length - gathered.2 : Nat) + (power.getD 0 - fraction.length) := by omega
  have product : ((gathered.1 * 10 ^ (0 - (gathered.2 : Int) + power.getD 0).toNat : Nat) : ℚ) ≤
      decimalCeiling := by
    calc ((gathered.1 * 10 ^ (0 - (gathered.2 : Int) + power.getD 0).toNat : Nat) : ℚ)
        = gathered.1 * (10 : ℚ) ^ ((0 - (gathered.2 : Int) + power.getD 0).toNat : Int) := by
          rw [zpow_natCast]
          push_cast
          rfl
      _ = (gathered.1 * 10 ^ (fraction.length - gathered.2) : Nat) *
            (10 : ℚ) ^ (power.getD 0 - fraction.length) := by
          rw [exponents, zpow_add₀ (by norm_num), zpow_natCast]
          push_cast
          ring
      _ ≤ total * (10 : ℚ) ^ (power.getD 0 - fraction.length) := by
          refine mul_le_mul_of_nonneg_right ?_ (by positivity)
          exact_mod_cast below
      _ ≤ decimalCeiling := bounded
  exact_mod_cast product

def FinishesFloat {bytes : Bytes} (result : Except (Fault Nat) (Number × Rest bytes)) : Prop :=
  ∃ value bound, result = .ok (.float value, ⟨[], bound⟩)

theorem finishesFloat_readTail (negative : Bool) {word : Nat} {fraction : List Char}
    {power : Option Int} (digits : ∀ char ∈ fraction, char.isDigit)
    (marked : fraction ≠ [] ∨ power.isSome)
    (small : ∀ exponent ∈ power, exponent.natAbs ≤ greatestExponent)
    (scales : (scaled? (gather word (digitValues fraction)).1
      (0 - (gather word (digitValues fraction)).2 + power.getD 0)).isSome = true) :
    FinishesFloat (readTail negative word 0
        (octets (fractionChars fraction ++ exponentChars power))) := by
  cases fraction with
  | nil =>
      cases power with
      | none => simp at marked
      | some power =>
          obtain ⟨value, bound, read⟩ := finishes_readPower small scales
          have noPoint : ascii 'e'.toNat.toUInt8 ≠ '.' := by decide
          have mark : isExponentMark 'e'.toNat.toUInt8 = true := by decide
          change readPower word (0 - (0 : Nat)) ('e'.toNat.toUInt8 ::
            octets ((if power < 0 then '-' else '+') :: Nat.toDigits 10 power.natAbs)) = _ at read
          rw [Nat.cast_zero, sub_zero] at read
          refine ⟨if negative then value.negate else value, Nat.zero_le _, ?_⟩
          change readTail negative word 0 ('e'.toNat.toUInt8 ::
            octets ((if power < 0 then '-' else '+') :: Nat.toDigits 10 power.natAbs)) = _
          simp only [readTail, noPoint, if_false, mark, if_true, Nat.cast_zero, read]
          rfl
  | cons char others =>
      obtain ⟨value, bound, read⟩ :=
        finishes_readFraction (List.cons_ne_nil char others) digits small scales
      have point : ascii '.'.toNat.toUInt8 = '.' := by decide
      refine ⟨if negative then value.negate else value, Nat.zero_le _, ?_⟩
      change readTail negative word 0 ('.'.toNat.toUInt8 ::
          octets (char :: others ++ exponentChars power)) = _
      simp only [readTail, point, if_true, Nat.cast_zero, read]
      rfl

theorem endsDigits_tail (fraction : List Char) (power : Option Int) :
    EndsDigits (octets (fractionChars fraction ++ exponentChars power)) := by
  cases fraction with
  | nil => exact endsDigits_exponentChars power
  | cons char others =>
      intro byte head
      cases head
      decide

theorem tail_ne_nil {fraction : List Char} {power : Option Int}
    (marked : fraction ≠ [] ∨ power.isSome) :
    octets (fractionChars fraction ++ exponentChars power) ≠ [] := by
  cases fraction with
  | nil =>
      cases power with
      | none => simp at marked
      | some power => simp [fractionChars, exponentChars, octets]
  | cons char others => simp [fractionChars, octets]

theorem readUnsigned_digits {negative : Bool} {byte : UInt8} {rest after : Bytes} {digit : Nat}
    {digits : List Nat} {value : Number} {bound : ([] : Bytes).length ≤ after.length}
    (first : digit? byte = some (digit + 1)) (split : digitsOf rest = (digits, after))
    (fits : appendDigits (digit + 1) digits < 2 ^ 64)
    (read : readTail negative (appendDigits (digit + 1) digits) 0 after = .ok
    (value, ⟨[], bound⟩)) :
    ∃ shorter, readUnsigned negative (byte :: rest) = .ok ⟨value, [], shorter⟩ := by
  obtain ⟨rfl, rfl⟩ : digits = (digitsOf rest).1 ∧ after = (digitsOf rest).2 := by
    rw [split]
    exact ⟨rfl, rfl⟩
  refine ⟨Nat.succ_pos _, ?_⟩
  simp only [readUnsigned, first, gather_all fits, Nat.sub_self, read]

theorem readUnsigned_numeral (negative : Bool) {integral fraction : List Char} {power : Option Int}
    (spells : Spells integral fraction power) :
    ∃ value shorter, readUnsigned negative (octets (numeralChars integral fraction power)) =
      .ok ⟨.float value, [], shorter⟩ := by
  obtain ⟨integers, fractions⟩ := List.forall_mem_append.mp spells.digits
  have scales := spells.scales rfl
  obtain ⟨value, bound, read⟩ :=
    finishesFloat_readTail negative fractions spells.marked spells.small scales
  have ends := endsDigits_tail fraction power
  have more := tail_ne_nil spells.marked
  have fits := spells.fits
  unfold numeralChars
  rw [octets_append]
  generalize octets (fractionChars fraction ++ exponentChars power) = tail at *
  cases integral with
  | nil => exact absurd rfl spells.nonempty
  | cons char others =>
      have digit := digit?_octet (integers char List.mem_cons_self)
      rcases spells.leading with alone | other
      · cases alone
        cases tail with
        | nil => exact absurd rfl more
        | cons next after =>
            have noDigit : (digit? next).isSome = false := by rw [ends next rfl]; rfl
            have zero : digit? '0'.toNat.toUInt8 = some 0 := by decide
            refine ⟨value, Nat.lt_succ_of_le bound, ?_⟩
            change readUnsigned negative ('0'.toNat.toUInt8 :: next :: after) = _
            change readTail negative 0 0 (next :: after) = _ at read
            simp only [readUnsigned, zero, noDigit, Bool.false_eq_true, if_false, read]
            rfl
      · obtain ⟨number, leading⟩ := exists_succ_of_isDigit (integers char List.mem_cons_self)
          fun zero => other (congrArg some zero)
        have whole : appendDigits 0 (digitValues (char :: others)) =
            appendDigits (number + 1) (digitValues others) := by
          rw [← leading]
          simp [appendDigits, digitValues]
        rw [whole] at fits read
        rw [leading] at digit
        exact ⟨value, readUnsigned_digits digit
          (digitsOf_octets (List.forall_mem_cons.mp integers).2 ends) fits read⟩

theorem numberOf?_of_readNumber {chars : List Char} {number : Number}
    (reads : ∃ shorter, readNumber (octets chars) = .ok ⟨number, [], shorter⟩) :
    numberOf? chars = some number := by
  obtain ⟨shorter, read⟩ := reads
  unfold octets at read
  unfold numberOf?
  simp only [read]

theorem readNumber_of_isDigit {char : Char} (digit : char.isDigit) (rest : Bytes) :
    readNumber (char.toNat.toUInt8 :: rest) = readUnsigned false (char.toNat.toUInt8 :: rest) := by
  have bounds := toNat_of_isDigit digit
  have unsigned : ascii char.toNat.toUInt8 ≠ '-' := by
    rw [ascii_octet (by omega)]
    intro minus
    subst minus
    exact absurd digit (by decide)
  rw [readNumber, if_neg unsigned]

theorem numberOf?_numeral (negative : Bool) {integral fraction : List Char} {power : Option Int}
    (spells : Spells integral fraction power) :
    ∃ value, numberOf? (if negative then '-' :: numeralChars integral fraction power
      else numeralChars integral fraction power) = some (.float value) := by
  obtain ⟨value, shorter, read⟩ := readUnsigned_numeral negative spells
  refine ⟨value, ?_⟩
  cases negative with
  | true =>
      have sign : ascii '-'.toNat.toUInt8 = '-' := by decide
      rw [if_pos rfl]
      refine numberOf?_of_readNumber ⟨Nat.succ_pos _, ?_⟩
      change readNumber ('-'.toNat.toUInt8 :: octets (numeralChars integral fraction power)) = _
      simp only [readNumber, sign, if_true, read]
      rfl
  | false =>
      cases integral with
      | nil => exact absurd rfl spells.nonempty
      | cons char others =>
          have digit := spells.digits char (List.mem_append_left _ List.mem_cons_self)
          rw [if_neg Bool.false_ne_true]
          refine numberOf?_of_readNumber ⟨shorter, ?_⟩
          change readNumber (char.toNat.toUInt8 ::
            octets (others ++ (fractionChars fraction ++ exponentChars power))) = _
          change readUnsigned false (char.toNat.toUInt8 ::
            octets (others ++ (fractionChars fraction ++ exponentChars power))) = _ at read
          rw [readNumber_of_isDigit digit]
          exact read

end Reading

end FilterSynthesis
