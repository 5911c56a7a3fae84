import FilterSynthesis.Proofs.Reading.Layout
import FilterSynthesis.Proofs.Reading.SkipScalar
import FilterSynthesis.Proofs.Text.Encoding

namespace FilterSynthesis.Reading

open Reader (not_yields_error yields_behind_iff yields_later_iff yields_ok_iff yields_widen_iff)

def EndsNumber (rest : Bytes) : Prop :=
  ∀ byte ∈ rest.head?, digit? byte = none ∧ ascii byte ≠ '.' ∧ isExponentMark byte = false

theorem EndsNumber.endsDigits {rest : Bytes} (ends : EndsNumber rest) : EndsDigits rest :=
  fun byte first => (ends byte first).1

def Leaves {α : Type} {bytes : Bytes} (result : Except (Fault Nat) (α × Rest bytes)) (value : α)
    (after : Bytes) : Prop :=
  ∃ bound, result = .ok (value, ⟨after, bound⟩)

section

variable {α : Type} {bytes after : Bytes} {value : α}

theorem leaves_ok_iff {other : α} {left : Rest bytes} :
    Leaves (.ok (other, left)) value after ↔ other = value ∧ left.1 = after := by
  constructor
  · rintro ⟨_, same⟩
    cases same
    exact ⟨rfl, rfl⟩
  · rintro ⟨rfl, rfl⟩
    exact ⟨left.2, rfl⟩

theorem not_leaves_error {fault : Fault Nat} :
    ¬Leaves (.error fault : Except (Fault Nat) (α × Rest bytes)) value after := by
  rintro ⟨_, same⟩
  cases same

end

variable {bytes after rest : Bytes} {word : Nat} {power : Int}

theorem leaves_inRange_iff {number : Option Double} {value : Double} {left : Rest bytes} :
    Leaves (inRange number left) value after ↔ number = some value ∧ left.1 = after := by
  cases number with
  | none => simp [inRange, not_leaves_error]
  | some number => simp [inRange, leaves_ok_iff]

theorem digitsOf_append (ends : EndsDigits rest) (bytes : Bytes) :
    digitsOf (bytes ++ rest) = ((digitsOf bytes).1, (digitsOf bytes).2 ++ rest) := by
  induction bytes with
  | nil => exact digitsOf_octets (List.forall_mem_nil _) ends
  | cons byte others induction =>
      rw [List.cons_append, digitsOf, digitsOf]
      split
      · rw [induction]
      · rfl

theorem readExponentDigits_append (ends : EndsDigits rest) {vanishes : Bool} {exponent : Nat}
    {result : Option Nat}
    (leaves : Leaves (readExponentDigits vanishes exponent bytes) result after) :
    Leaves (readExponentDigits vanishes exponent (bytes ++ rest)) result (after ++ rest) := by
  induction bytes generalizing exponent after with
  | nil =>
      obtain ⟨rfl, rfl⟩ := leaves_ok_iff.mp leaves
      cases rest with
      | nil => exact leaves_ok_iff.mpr ⟨rfl, rfl⟩
      | cons byte others =>
          have none := ends byte rfl
          rw [List.nil_append, readExponentDigits, none]
          exact leaves_ok_iff.mpr ⟨rfl, rfl⟩
  | cons byte others induction =>
      rw [readExponentDigits] at leaves
      rw [List.cons_append, readExponentDigits]
      split at leaves
      · obtain ⟨rfl, rfl⟩ := leaves_ok_iff.mp leaves
        exact leaves_ok_iff.mpr ⟨rfl, rfl⟩
      · split at leaves
        · rename_i room
          split at leaves
          · rename_i following
            obtain ⟨rfl, rfl⟩ := leaves_ok_iff.mp leaves
            obtain ⟨_, further⟩ := induction ⟨_, following⟩
            rw [if_pos room, further]
            exact leaves_ok_iff.mpr ⟨rfl, rfl⟩
          · exact absurd leaves not_leaves_error
        · rename_i full
          rw [if_neg full]
          split at leaves
          · rename_i zero
            rw [if_pos zero]
            obtain ⟨rfl, rfl⟩ := leaves_ok_iff.mp leaves
            have remaining := congrArg Prod.snd (digitsOf_append ends others)
            exact leaves_ok_iff.mpr ⟨rfl, remaining⟩
          · exact absurd leaves not_leaves_error

theorem readExponent_append (ends : EndsDigits rest) {number : Double}
    (leaves : Leaves (readExponent word power bytes) number after) :
    Leaves (readExponent word power (bytes ++ rest)) number (after ++ rest) := by
  cases bytes with
  | nil => exact absurd leaves not_leaves_error
  | cons sign others =>
      unfold readExponent at leaves ⊢
      dsimp only [List.cons_append] at leaves ⊢
      generalize short : (if ascii sign = '-' then (true, (Rest.all others).behind)
        else if ascii sign = '+' then (false, (Rest.all others).behind)
        else (false, Rest.all (sign :: others))) = unsigned at leaves
      generalize long : (if ascii sign = '-' then (true, (Rest.all (others ++ rest)).behind)
        else if ascii sign = '+' then (false, (Rest.all (others ++ rest)).behind)
        else (false, Rest.all (sign :: (others ++ rest)))) = followed
      have same : followed.1 = unsigned.1 ∧ followed.2.1 = unsigned.2.1 ++ rest := by
        rw [← short, ← long]
        split
        · exact ⟨rfl, rfl⟩
        · split <;> exact ⟨rfl, rfl⟩
      obtain ⟨negative, part, bound⟩ := unsigned
      obtain ⟨again, whole, fits⟩ := followed
      dsimp only at same
      obtain ⟨rfl, rfl⟩ := same
      cases part with
      | nil => exact absurd leaves not_leaves_error
      | cons byte digits =>
          dsimp only [List.cons_append] at leaves ⊢
          split at leaves
          · exact absurd leaves not_leaves_error
          · rename_i digit
            rw [if_neg digit]
            split at leaves
            · exact absurd leaves not_leaves_error
            · rename_i read
              obtain ⟨rfl, rfl⟩ := leaves_ok_iff.mp leaves
              obtain ⟨_, further⟩ : Leaves (readExponentDigits (word = 0 || again) 0
                  (byte :: (digits ++ rest))) _ _ := readExponentDigits_append ends ⟨_, read⟩
              rw [further]
              exact leaves_ok_iff.mpr ⟨rfl, rfl⟩
            · rename_i read
              obtain ⟨scaled, rfl⟩ := leaves_inRange_iff.mp leaves
              obtain ⟨_, further⟩ : Leaves (readExponentDigits (word = 0 || again) 0
                  (byte :: (digits ++ rest))) _ _ := readExponentDigits_append ends ⟨_, read⟩
              rw [further]
              exact leaves_inRange_iff.mpr ⟨scaled, rfl⟩

theorem readPower_append (ends : EndsNumber rest) {number : Double}
    (leaves : Leaves (readPower word power bytes) number after) :
    Leaves (readPower word power (bytes ++ rest)) number (after ++ rest) := by
  cases bytes with
  | nil =>
      obtain ⟨scaled, rfl⟩ := leaves_inRange_iff.mp leaves
      cases rest with
      | nil => exact leaves_inRange_iff.mpr ⟨scaled, rfl⟩
      | cons byte others =>
          obtain ⟨_, _, unmarked⟩ := ends byte rfl
          rw [List.nil_append, readPower, unmarked, if_neg Bool.false_ne_true]
          exact leaves_inRange_iff.mpr ⟨scaled, rfl⟩
  | cons byte others =>
      rw [readPower] at leaves
      rw [List.cons_append, readPower]
      split at leaves
      · rename_i marked
        rw [if_pos marked]
        split at leaves
        · rename_i following
          obtain ⟨rfl, rfl⟩ := leaves_ok_iff.mp leaves
          obtain ⟨_, further⟩ := readExponent_append ends.endsDigits ⟨_, following⟩
          rw [further]
          exact leaves_ok_iff.mpr ⟨rfl, rfl⟩
        · exact absurd leaves not_leaves_error
      · rename_i unmarked
        rw [if_neg unmarked]
        obtain ⟨scaled, rfl⟩ := leaves_inRange_iff.mp leaves
        exact leaves_inRange_iff.mpr ⟨scaled, rfl⟩

theorem readFraction_append (ends : EndsNumber rest) {number : Double}
    (leaves : Leaves (readFraction word power bytes) number after) :
    Leaves (readFraction word power (bytes ++ rest)) number (after ++ rest) := by
  have digits := digitsOf_append ends.endsDigits bytes
  unfold readFraction at leaves ⊢
  split at leaves
  · exact absurd leaves not_leaves_error
  · rename_i values remaining bound some read _
    rw [read] at digits
    split
    · rename_i none _
      cases none.symm.trans digits
      exact absurd rfl some
    · rename_i again _
      cases again.symm.trans digits
      dsimp only at leaves ⊢
      split at leaves
      · rename_i following
        obtain ⟨rfl, rfl⟩ := leaves_ok_iff.mp leaves
        obtain ⟨_, further⟩ := readPower_append ends ⟨_, following⟩
        rw [further]
        exact leaves_ok_iff.mpr ⟨rfl, rfl⟩
      · exact absurd leaves not_leaves_error

theorem leaves_asNumber_iff {negative : Bool} {read : Except (Fault Nat) (Double × Rest bytes)}
    {number : Number} :
    Leaves (asNumber negative read) number after ↔
      ∃ double, Leaves read double after ∧ signedFloat negative double = number := by
  cases read with
  | error fault => simp [asNumber, not_leaves_error]
  | ok parsed =>
      rw [asNumber, leaves_ok_iff]
      constructor
      · rintro ⟨rfl, rfl⟩
        exact ⟨_, leaves_ok_iff.mpr ⟨rfl, rfl⟩, rfl⟩
      · rintro ⟨_, leaves, rfl⟩
        obtain ⟨rfl, rfl⟩ := leaves_ok_iff.mp leaves
        exact ⟨rfl, rfl⟩

theorem integral_append {negative : Bool} {dropped : Nat} {number : Number}
    (leaves : Leaves (integral negative word dropped bytes) number after) (others : Bytes) :
    after = bytes ∧ Leaves (integral negative word dropped others) number others := by
  unfold integral at leaves ⊢
  split
  · rename_i none
    rw [if_pos none] at leaves
    obtain ⟨rfl, rfl⟩ := leaves_ok_iff.mp leaves
    exact ⟨rfl, leaves_ok_iff.mpr ⟨rfl, rfl⟩⟩
  · rename_i some
    rw [if_neg some] at leaves
    obtain ⟨double, ranged, rfl⟩ := leaves_asNumber_iff.mp leaves
    obtain ⟨scaled, rfl⟩ := leaves_inRange_iff.mp ranged
    exact ⟨rfl, leaves_asNumber_iff.mpr ⟨double, leaves_inRange_iff.mpr ⟨scaled, rfl⟩, rfl⟩⟩

theorem readTail_append (ends : EndsNumber rest) {negative : Bool} {dropped : Nat} {number : Number}
    (leaves : Leaves (readTail negative word dropped bytes) number after) :
    Leaves (readTail negative word dropped (bytes ++ rest)) number (after ++ rest) := by
  cases bytes with
  | nil =>
      obtain ⟨rfl, whole⟩ := integral_append leaves rest
      cases rest with
      | nil => exact whole
      | cons byte others =>
          obtain ⟨_, pointless, unmarked⟩ := ends byte rfl
          rwa [List.nil_append, readTail, if_neg pointless, unmarked, if_neg Bool.false_ne_true]
  | cons byte others =>
      rw [readTail] at leaves
      rw [List.cons_append, readTail]
      split at leaves
      · rename_i point
        rw [if_pos point]
        split at leaves
        · rename_i following
          obtain ⟨rfl, rfl⟩ := leaves_ok_iff.mp leaves
          obtain ⟨_, further⟩ := readFraction_append ends ⟨_, following⟩
          rw [further]
          exact leaves_ok_iff.mpr ⟨rfl, rfl⟩
        · exact absurd leaves not_leaves_error
      · rename_i pointless
        rw [if_neg pointless]
        split at leaves
        · rename_i marked
          rw [if_pos marked]
          obtain ⟨double, read, rfl⟩ := leaves_asNumber_iff.mp leaves
          exact leaves_asNumber_iff.mpr ⟨double, readPower_append ends read, rfl⟩
        · rename_i unmarked
          rw [if_neg unmarked]
          obtain ⟨rfl, whole⟩ := integral_append leaves (byte :: (others ++ rest))
          exact whole

theorem yields_readUnsigned_iff {negative : Bool} {byte : UInt8} {digit : Nat}
    (first : digit? byte = some (digit + 1)) (bytes : Bytes) {number : Number} :
    (readUnsigned negative (byte :: bytes)).Yields number after ↔
      Leaves (readTail negative (gather (digit + 1) (digitsOf bytes).1).1
        ((digitsOf bytes).1.length - (gather (digit + 1) (digitsOf bytes).1).2) (digitsOf bytes).2)
          number after := by
  simp only [readUnsigned, first]
  split
  · rename_i read
    rw [read, yields_ok_iff, leaves_ok_iff]
  · rename_i read
    rw [read]
    exact iff_of_false not_yields_error not_leaves_error

theorem readUnsigned_zero_append (ends : EndsNumber rest) {negative : Bool} {byte : UInt8}
    (zero : digit? byte = some 0) {number : Number}
    (yields : (readUnsigned negative (byte :: bytes)).Yields number after) :
    (readUnsigned negative (byte :: (bytes ++ rest))).Yields number (after ++ rest) := by
  unfold readUnsigned at yields ⊢
  simp only [zero] at yields ⊢
  cases bytes with
  | nil =>
      obtain ⟨rfl, rfl⟩ := yields_ok_iff.mp yields
      cases rest with
      | nil => exact yields_ok_iff.mpr ⟨rfl, rfl⟩
      | cons next following =>
          obtain ⟨digitless, pointless, unmarked⟩ := ends next rfl
          have whole : readTail negative 0 0 (next :: following) =
              .ok (ofWord negative 0, .all (next :: following)) := by
            rw [readTail, if_neg pointless, unmarked, if_neg Bool.false_ne_true, integral,
              if_pos rfl]
          dsimp only [List.nil_append]
          rw [digitless, Option.isSome_none, if_neg Bool.false_ne_true, whole]
          exact yields_ok_iff.mpr ⟨rfl, rfl⟩
  | cons next following =>
      dsimp only [List.cons_append] at yields ⊢
      split at yields
      · exact absurd yields not_yields_error
      · rename_i digitless
        rw [if_neg digitless]
        split at yields
        · rename_i tail
          obtain ⟨rfl, rfl⟩ := yields_ok_iff.mp yields
          obtain ⟨_, further⟩ : Leaves (readTail negative 0 0 (next :: (following ++ rest))) _ _ :=
            readTail_append ends ⟨_, tail⟩
          rw [further]
          exact yields_ok_iff.mpr ⟨rfl, rfl⟩
        · exact absurd yields not_yields_error

theorem readUnsigned_append (ends : EndsNumber rest) {negative : Bool} {number : Number}
    (yields : (readUnsigned negative bytes).Yields number after) :
    (readUnsigned negative (bytes ++ rest)).Yields number (after ++ rest) := by
  cases bytes with
  | nil => exact absurd yields not_yields_error
  | cons byte others =>
      cases first : digit? byte with
      | none =>
          unfold readUnsigned at yields
          simp only [first] at yields
          exact absurd yields not_yields_error
      | some digit =>
          cases digit with
          | zero => exact readUnsigned_zero_append ends first yields
          | succ digit =>
              rw [yields_readUnsigned_iff first] at yields
              rw [List.cons_append, yields_readUnsigned_iff first,
                digitsOf_append ends.endsDigits]
              exact readTail_append ends yields

/-- A number that can be read is read as well in front of anything that does not continue it. -/
theorem readNumber_append (ends : EndsNumber rest) {number : Number}
    (yields : (readNumber bytes).Yields number after) :
    (readNumber (bytes ++ rest)).Yields number (after ++ rest) := by
  cases bytes with
  | nil => exact absurd yields not_yields_error
  | cons byte others =>
      rw [readNumber] at yields
      rw [List.cons_append, readNumber]
      split
      · rename_i minus
        rw [if_pos minus, yields_behind_iff] at yields
        rw [yields_behind_iff]
        exact readUnsigned_append ends yields
      · rename_i unsigned
        rw [if_neg unsigned] at yields
        exact readUnsigned_append ends yields

theorem numberOf?_eq_some_iff {chars : List Char} {number : Number} :
    numberOf? chars = some number ↔ (readNumber (octets chars)).Yields number [] := by
  unfold numberOf? Reader.Yields octets
  constructor
  · intro read
    split at read
    · rename_i answer
      cases read
      exact ⟨_, answer, rfl, rfl⟩
    · cases read
  · rintro ⟨⟨_, _, _⟩, answer, rfl, rfl⟩
    simp only [answer]

theorem yields_readUnsigned_toDigits (negative : Bool) {number : Nat} (fits : number < 2 ^ 64) :
    (readUnsigned negative (octets (Nat.toDigits 10 number))).Yields
      (ofWord negative number) [] := by
  by_cases zero : number = 0
  · subst zero
    exact yields_ok_iff.mpr ⟨rfl, rfl⟩
  · have positive := Nat.pos_of_ne_zero zero
    have total := appendDigits_toDigits number
    have leading := toDigits_leading positive
    have digits : ∀ char ∈ Nat.toDigits 10 number, char.isDigit := fun _ => isDigit_of_mem_digits
    obtain ⟨char, others, spelled⟩ := List.exists_cons_of_ne_nil (Nat.toDigits_ne_nil (n := number))
    rw [spelled] at total leading digits ⊢
    obtain ⟨digit, later⟩ := List.forall_mem_cons.mp digits
    obtain ⟨first, equal⟩ := exists_succ_of_isDigit digit fun zero => leading (congrArg some zero)
    have split : digitsOf (octets others) = (digitValues others, []) := by
      have whole := @digitsOf_octets others later [] nofun
      rwa [List.append_nil] at whole
    have gathered : gather (first + 1) (digitValues others) =
        (number, (digitValues others).length) := by
      have whole : appendDigits (first + 1) (digitValues others) = number := by
        rw [← equal, ← total]
        simp [appendDigits, digitValues]
      rw [gather_all (whole.trans_lt fits), whole]
    have leads : digit? char.toNat.toUInt8 = some (first + 1) := by rw [digit?_octet digit, equal]
    change (readUnsigned negative (char.toNat.toUInt8 :: octets others)).Yields _ _
    rw [yields_readUnsigned_iff leads, split, gathered, Nat.sub_self]
    exact leaves_ok_iff.mpr ⟨rfl, rfl⟩

theorem numberOf?_integerChars {value : Int} (word : Number.IsWord value) :
    numberOf? (integerChars value) = some (.int value) := by
  obtain ⟨lower, upper⟩ := word
  rw [numberOf?_eq_some_iff, integerChars]
  by_cases negative : value < 0
  · have fits : value.natAbs < 2 ^ 64 := by omega
    have read := yields_readUnsigned_toDigits true fits
    have range : 0 < value.natAbs ∧ value.natAbs ≤ 2 ^ 63 := by omega
    have same : ofWord true value.natAbs = .int value := by
      rw [ofWord, if_neg (by decide), if_pos range]
      congr 1
      omega
    rw [same] at read
    rw [if_pos negative]
    change (readNumber ('-'.toNat.toUInt8 :: octets (Nat.toDigits 10 value.natAbs))).Yields _ _
    rw [readNumber, if_pos (by decide), yields_behind_iff]
    exact read
  · have fits : value.natAbs < 2 ^ 64 := by omega
    have read := yields_readUnsigned_toDigits false fits
    have same : ofWord false value.natAbs = .int value := by
      rw [ofWord, if_pos (by decide)]
      congr 1
      omega
    rw [same] at read
    rw [if_neg negative]
    have digits :
        ∀ char ∈ Nat.toDigits 10 value.natAbs, char.isDigit := fun _ => isDigit_of_mem_digits
    cases spelled : Nat.toDigits 10 value.natAbs with
    | nil => exact absurd spelled Nat.toDigits_ne_nil
    | cons char others =>
        rw [spelled] at read digits
        change (readNumber (char.toNat.toUInt8 :: octets others)).Yields _ _
        rw [readNumber_of_isDigit (digits char List.mem_cons_self)]
        exact read

/-! The texts of numbers are ASCII, so their characters are their bytes. -/

theorem encodeChars_of_ascii {chars : List Char} (low : ∀ char ∈ chars, char.toNat < 0x80) :
    Utf8.encodeChars chars = octets chars := by
  induction chars with
  | nil => rfl
  | cons char others induction =>
      obtain ⟨here, later⟩ := List.forall_mem_cons.mp low
      rw [Utf8.encodeChars_cons, Utf8.encodeChar_of_lt here, induction later]
      rfl

theorem ascii_of_mem_digits {number : Nat} {char : Char}
    (member : char ∈ Nat.toDigits 10 number) : char.toNat < 0x80 := by
  have bounds := toNat_of_isDigit (isDigit_of_mem_digits member)
  omega

theorem ascii_of_mem_zeros {zeros : Nat} {char : Char} (member : char ∈ List.replicate zeros '0') :
    char.toNat < 0x80 := by
  rw [List.eq_of_mem_replicate member]
  decide

theorem ascii_positional (number : Nat) (places : Int) :
    ∀ char ∈ NumeralLayout.positional (Nat.toDigits 10 number) places, char.toNat < 0x80 := by
  unfold NumeralLayout.positional
  split
  · simp only [List.forall_mem_cons, List.forall_mem_append]
    exact ⟨by decide, by decide, fun _ => ascii_of_mem_zeros, fun _ => ascii_of_mem_digits⟩
  · split
    · simp only [List.forall_mem_append, List.forall_mem_cons]
      exact ⟨⟨fun _ => ascii_of_mem_digits, fun _ => ascii_of_mem_zeros⟩, by decide, by decide,
        List.forall_mem_nil _⟩
    · simp only [List.forall_mem_cons, List.forall_mem_append]
      exact ⟨fun _ member => ascii_of_mem_digits (List.mem_of_mem_take member), by decide,
        fun _ member => ascii_of_mem_digits (List.mem_of_mem_drop member)⟩

theorem ascii_scientific (number : Nat) (power : Int) :
    ∀ char ∈ NumeralLayout.json.scientific (Nat.toDigits 10 number) power, char.toNat < 0x80 := by
  have fraction : ∀ char ∈ (Nat.toDigits 10 number).drop 1, char.toNat < 0x80 :=
    fun _ member => ascii_of_mem_digits (List.mem_of_mem_drop member)
  unfold NumeralLayout.scientific
  simp only [List.forall_mem_append, List.forall_mem_cons]
  refine ⟨⟨fun _ member => ascii_of_mem_digits (List.mem_of_mem_take member), ?_⟩, by decide, ?_,
    fun _ => ascii_of_mem_digits⟩
  · split
    · exact nofun
    · rename_i rest some
      rw [List.forall_mem_cons]
      exact ⟨by decide, fraction⟩
  · split <;> decide

theorem ascii_text (number : Double) : ∀ char ∈ number.text.toList, char.toNat < 0x80 := by
  have unsigned : ∀ char ∈ NumeralLayout.json.write number.shortest, char.toNat < 0x80 := by
    unfold NumeralLayout.write
    dsimp only
    split
    · exact ascii_positional _ _
    · exact ascii_scientific _ _
  unfold Double.text
  rw [String.toList_ofList]
  split
  · rw [List.forall_mem_cons]
    exact ⟨by decide, unsigned⟩
  · exact unsigned

theorem ascii_integerChars (value : Int) : ∀ char ∈ integerChars value, char.toNat < 0x80 := by
  unfold integerChars
  split
  · rw [List.forall_mem_cons]
    exact ⟨by decide, fun _ => ascii_of_mem_digits⟩
  · exact fun _ => ascii_of_mem_digits

theorem hexValue?_hexDigit (value : Nat) :
    hexValue? (hexDigit value).toNat.toUInt8 = some (value % 16) := by
  have each : ∀ digit < 16, hexValue? (Nat.digitChar digit).toNat.toUInt8 = some digit := by decide
  exact each (value % 16) (Nat.mod_lt _ (by decide))

theorem leaves_readHex {first second third fourth : UInt8} {a b c d : Nat}
    (one : hexValue? first = some a) (two : hexValue? second = some b)
    (three : hexValue? third = some c) (four : hexValue? fourth = some d) (rest : Bytes) :
    Leaves (readHex (first :: second :: third :: fourth :: rest))
      (((a * 16 + b) * 16 + c) * 16 + d) rest := by
  simp only [readHex, one, two, three, four]
  exact leaves_ok_iff.mpr ⟨rfl, rfl⟩

theorem leaves_readCode {code : Nat} (hex : Leaves (readHex bytes) code rest)
    (low : code < 0xD800) :
    Leaves (readCode bytes) (Char.ofNat code) rest := by
  obtain ⟨_, hex⟩ := hex
  have lone : ¬isLowSurrogate code = true := by simp [isLowSurrogate]; omega
  have paired : ¬isHighSurrogate code = true := by simp [isHighSurrogate]; omega
  rw [readCode, hex]
  dsimp only
  rw [if_neg lone, if_neg paired]
  exact leaves_ok_iff.mpr ⟨rfl, rfl⟩

theorem readEscape_control {char : Char} (control : char.toNat < 0x20) (rest : Bytes) :
    Leaves (readEscape (octets ['u', '0', '0', hexDigit (char.toNat / 16), hexDigit char.toNat] ++
      rest)) char rest := by
  have hex := leaves_readHex (hexValue?_hexDigit 0) (hexValue?_hexDigit 0)
    (hexValue?_hexDigit (char.toNat / 16)) (hexValue?_hexDigit char.toNat) rest
  have code : ((0 % 16 * 16 + 0 % 16) * 16 + char.toNat / 16 % 16) * 16 + char.toNat % 16 =
      char.toNat := by omega
  rw [code] at hex
  obtain ⟨_, read⟩ := leaves_readCode hex (by omega)
  rw [Char.ofNat_toNat] at read
  change Leaves (readEscape ('u'.toNat.toUInt8 :: (hexDigit 0).toNat.toUInt8 ::
    (hexDigit 0).toNat.toUInt8 :: (hexDigit (char.toNat / 16)).toNat.toUInt8 ::
      (hexDigit char.toNat).toNat.toUInt8 :: rest)) char rest
  rw [readEscape, if_pos (by decide), read]
  exact leaves_ok_iff.mpr ⟨rfl, rfl⟩

theorem readEscape_short {letter char : Char} (listed : (letter, char) ∈ shortEscapes)
    (rest : Bytes) :
    Leaves (readEscape (letter.toNat.toUInt8 :: rest)) char rest := by
  simp only [shortEscapes, List.mem_cons, Prod.mk.injEq, List.not_mem_nil, or_false] at listed
  rcases listed with ⟨rfl, rfl⟩ | ⟨rfl, rfl⟩ | ⟨rfl, rfl⟩ | ⟨rfl, rfl⟩ | ⟨rfl, rfl⟩ | ⟨rfl, rfl⟩ |
    ⟨rfl, rfl⟩ <;> exact ⟨_, rfl⟩

theorem yields_readChars_escape_iff {char : Char} {escaped : Bytes}
    (leaves : Leaves (readEscape escaped) char after) (read : List Char) {text : String} :
    (readChars read none ('\\'.toNat.toUInt8 :: escaped)).Yields text rest ↔
      (readChars (char :: read) none after).Yields text rest := by
  obtain ⟨_, escape⟩ := leaves
  rw [readChars, if_neg (by decide), if_pos (by decide)]
  simp only [escape, yields_behind_iff, yields_widen_iff]
  rfl

theorem exists_lead (char : Char) :
    ∃ lead bytes, String.utf8EncodeChar char = lead :: bytes ∧
        (ascii lead = char ∨ 0x80 ≤ lead) := by
  have high : ∀ code, 128 ≤ code → code < 256 → 0x80 ≤ UInt8.ofNat code := by
    intro code enough small
    rw [UInt8.le_iff_toNat_le, Utf8.toNat_byte small]
    exact enough
  simp only [String.utf8EncodeChar]
  split
  · rename_i low
    exact ⟨_, _, rfl, .inl (ascii_octet (Nat.lt_of_le_of_lt low (by decide)))⟩
  · split
    · exact ⟨_, _, rfl, .inr (high _ (by omega) (by omega))⟩
    · split <;> exact ⟨_, _, rfl, .inr (high _ (by omega) (by omega))⟩

theorem yields_readChars_plain_iff {char : Char} (missing : ∀ entry ∈ shortEscapes, entry.2 ≠ char)
    (printable : ¬char.toNat < 0x20) (read : List Char) {following : Bytes} {text : String} :
    (readChars read none (String.utf8EncodeChar char ++ following)).Yields text rest ↔
      (readChars (char :: read) none following).Yields text rest := by
  have decoded := Utf8.head?_encodeChar char following
  obtain ⟨lead, bytes, encoded, which⟩ := exists_lead char
  rw [encoded, List.cons_append] at decoded ⊢
  have apart : ∀ entry ∈ shortEscapes, entry.2.toNat < 0x80 → ascii lead ≠ entry.2 := by
    intro entry listed low
    rcases which with same | high
    · rw [same]
      exact (missing entry listed).symm
    · exact ascii_ne_of_le high low
  have control : ¬lead < 0x20 := by
    rcases which with same | high
    · rw [UInt8.lt_iff_toNat_lt, ← toNat_ascii, same]
      exact printable
    · exact UInt8.not_lt.mpr (UInt8.le_trans (by decide) high)
  rw [readChars, if_neg (apart ('"', '"') (by decide) (by decide)),
    if_neg (apart ('\\', '\\') (by decide) (by decide)), if_neg control]
  split
  · rename_i again
    cases again.symm.trans decoded
    rw [yields_later_iff]
    rfl
  · rename_i none
    cases none.symm.trans decoded

theorem ascii_hexDigit (value : Nat) : (hexDigit value).toNat < 0x80 := by
  have each : ∀ digit < 16, (Nat.digitChar digit).toNat < 0x80 := by decide
  exact each (value % 16) (Nat.mod_lt _ (by decide))

theorem yields_readChars_escapeChar_iff (char : Char) (read : List Char) {following : Bytes}
    {text : String} :
    (readChars read none (Utf8.encodeChars (escapeChar char) ++ following)).Yields text rest ↔
      (readChars (char :: read) none following).Yields text rest := by
  rw [escapeChar]
  cases found : shortEscapes.find? (·.2 = char) with
  | some entry =>
      obtain ⟨letter, same⟩ := entry
      obtain rfl : same = char := by simpa using List.find?_some found
      have listed := List.mem_of_find?_eq_some found
      have low : ∀ entry ∈ shortEscapes, entry.1.toNat < 0x80 := by decide
      rw [encodeChars_of_ascii (List.forall_mem_cons.mpr ⟨by decide,
        List.forall_mem_singleton.mpr (low _ listed)⟩)]
      exact yields_readChars_escape_iff (readEscape_short listed following) read
  | none =>
      have missing : ∀ entry ∈ shortEscapes, entry.2 ≠ char := by simpa using found
      dsimp only
      by_cases control : char.toNat < 0x20
      · rw [if_pos control, encodeChars_of_ascii (by simp [ascii_hexDigit])]
        exact yields_readChars_escape_iff (readEscape_control control following) read
      · rw [if_neg control, Utf8.encodeChars_cons, Utf8.encodeChars_nil, List.append_nil]
        exact yields_readChars_plain_iff missing control read

theorem yields_readChars_escaped (chars read : List Char) (rest : Bytes) :
    (readChars read none (Utf8.encodeChars (chars.flatMap escapeChar ++ ['"']) ++ rest)).Yields
      (String.ofList (read.reverse ++ chars)) rest := by
  induction chars generalizing read with
  | nil =>
      rw [List.append_nil]
      change (readChars read none ('"'.toNat.toUInt8 :: rest)).Yields _ _
      rw [readChars, if_pos (by decide)]
      exact yields_ok_iff.mpr ⟨rfl, rfl⟩
  | cons char others induction =>
      have following := induction (char :: read)
      rw [List.reverse_cons, ← List.append_cons] at following
      rw [List.flatMap_cons, List.append_assoc, Utf8.encodeChars_append, List.append_assoc,
        yields_readChars_escapeChar_iff]
      exact following

theorem readString_quoted (text : String) (rest : Bytes) :
    (readString (Utf8.encodeChars (quoted text) ++ rest)).Yields text rest := by
  have read := yields_readChars_escaped text.toList [] rest
  rw [List.reverse_nil, List.nil_append, String.ofList_toList] at read
  change (readString ('"'.toNat.toUInt8 ::
    (Utf8.encodeChars (text.toList.flatMap escapeChar ++ ['"']) ++ rest))).Yields _ _
  rw [readString, yields_behind_iff]
  exact read

end FilterSynthesis.Reading
