import FilterSynthesis.Proofs.Reading.Parts

namespace FilterSynthesis.Reading

open Reader (not_yields_error yields_behind_iff yields_later_iff yields_ok_iff yields_widen_iff)

def left {holds : Bytes → Prop} : Except (Fault Nat) {rest : Bytes // holds rest} → Option Bytes
  | .ok rest => some rest.1
  | .error _ => none

@[simp] theorem left_widen {fewer bytes : Bytes} (bound : fewer.length ≤ bytes.length)
    (skipped : Skipped fewer) : left (skipped.widen bound : Skipped bytes) = left skipped := by
  cases skipped <;> rfl

@[simp] theorem left_behind {byte : UInt8} {bytes : Bytes} (skipped : Skipped bytes) :
    left (skipped.behind : Skipped (byte :: bytes)) = left skipped := by
  cases skipped <;> rfl

theorem toNat_ascii (byte : UInt8) : (ascii byte).toNat = byte.toNat := by
  have small := byte.toNat_lt
  have valid : byte.toNat.isValidChar := Or.inl (by omega)
  rw [ascii, Char.ofNat, dif_pos valid]
  rfl

theorem ascii_ne_of_le {byte : UInt8} (high : 0x80 ≤ byte) {char : Char} (low : char.toNat < 0x80) :
    ascii byte ≠ char := by
  rintro rfl
  rw [toNat_ascii] at low
  have bound : (0x80 : UInt8).toNat ≤ byte.toNat := UInt8.le_iff_toNat_le.mp high
  exact absurd bound (Nat.not_le_of_lt low)

theorem left_skipChars_cons {byte : UInt8} {rest : Bytes} (quote : ascii byte ≠ '"')
    (escape : ascii byte ≠ '\\') (control : ¬ byte < 0x20) :
    left (skipChars (byte :: rest)) = left (skipChars rest) := by
  rw [skipChars, if_neg quote, if_neg escape, if_neg control, left_behind]

theorem left_skipChars_of_le {byte : UInt8} (high : 0x80 ≤ byte) (rest : Bytes) :
    left (skipChars (byte :: rest)) = left (skipChars rest) := by
  refine left_skipChars_cons (ascii_ne_of_le high (by decide)) (ascii_ne_of_le high (by decide)) ?_
  rw [UInt8.not_lt]
  exact UInt8.le_trans (by decide) high

theorem left_skipChars_of_follow {count code result : Nat} {bytes rest : Bytes}
    (followed : Utf8.follow count code bytes = some (result, rest)) :
    left (skipChars bytes) = left (skipChars rest) := by
  induction count generalizing code bytes with
  | zero =>
      cases followed
      rfl
  | succ count induction =>
      cases bytes with
      | nil => cases followed
      | cons byte bytes =>
          rw [Utf8.follow] at followed
          split at followed
          · rename_i continues
            rw [left_skipChars_of_le continues.1, induction followed]
          · cases followed

theorem left_skipChars_of_multibyte {count lead least : Nat} {bytes rest : Bytes} {char : Char}
    (decoded : Utf8.multibyte count lead least bytes = some (char, rest)) :
    left (skipChars bytes) = left (skipChars rest) := by
  unfold Utf8.multibyte at decoded
  split at decoded
  · rename_i followed
    split at decoded
    · cases decoded
      exact left_skipChars_of_follow followed
    · cases decoded
  · cases decoded

theorem left_skipChars_of_head? {byte : UInt8} {rest after : Bytes} {char : Char}
    (quote : ascii byte ≠ '"') (escape : ascii byte ≠ '\\') (control : ¬ byte < 0x20)
    (decoded : Utf8.head? (byte :: rest) = some (char, after)) :
    left (skipChars (byte :: rest)) = left (skipChars after) := by
  rw [left_skipChars_cons quote escape control]
  simp only [Utf8.head?] at decoded
  repeat' split at decoded
  · cases decoded
    rfl
  · cases decoded
  · exact left_skipChars_of_multibyte decoded
  · exact left_skipChars_of_multibyte decoded
  · exact left_skipChars_of_multibyte decoded
  · cases decoded

theorem left_skipChars_of_readHex {byte mark : UInt8} {rest : Bytes} {code : Nat}
    {after : Rest rest} (escape : ascii byte = '\\') (unicode : ascii mark = 'u')
    (read : readHex rest = .ok (code, after)) :
    left (skipChars (byte :: mark :: rest)) = left (skipChars after.1) := by
  have quote : ascii byte ≠ '"' := by
    rw [escape]
    decide
  have skipped : skipEscape (mark :: rest) = .ok after.behind := by
    rw [skipEscape, if_pos unicode, read]
  rw [skipChars, if_neg quote, if_pos escape, skipped, left_behind]
  exact left_widen _ _

theorem left_skipChars_of_readLowSurrogate {high : Nat} {bytes : Bytes} {char : Char}
    {after : Rest bytes} (read : readLowSurrogate high bytes = .ok (char, after)) :
    left (skipChars bytes) = left (skipChars after.1) := by
  unfold readLowSurrogate at read
  split at read
  · cases read
  · split at read
    · cases read
    · rename_i escape
      rw [not_not] at escape
      split at read
      · cases read
      · split at read
        · cases read
        · rename_i unicode
          rw [not_not] at unicode
          split at read
          · cases read
          · rename_i hex
            split at read
            · simp only [Except.ok.injEq, Prod.mk.injEq] at read
              rw [← read.2]
              exact left_skipChars_of_readHex escape unicode hex
            · cases read

/-- A code is passed over as an escape, and so is the second half of a surrogate pair. -/
theorem left_skipChars_of_readCode {byte mark : UInt8} {rest : Bytes} {char : Char}
    {after : Rest rest} (escape : ascii byte = '\\') (unicode : ascii mark = 'u')
    (read : readCode rest = .ok (char, after)) :
    left (skipChars (byte :: mark :: rest)) = left (skipChars after.1) := by
  unfold readCode at read
  split at read
  · cases read
  · rename_i hex
    rw [left_skipChars_of_readHex escape unicode hex]
    split at read
    · cases read
    · split at read
      · split at read
        · rename_i low
          cases read
          exact left_skipChars_of_readLowSurrogate low
        · cases read
      · cases read
        rfl

theorem left_skipChars_of_readEscape {byte : UInt8} {rest : Bytes} {char : Char}
    {after : Rest rest} (escape : ascii byte = '\\')
    (read : readEscape rest = .ok (char, after)) :
    left (skipChars (byte :: rest)) = left (skipChars after.1) := by
  unfold readEscape at read
  split at read
  · cases read
  · rename_i mark rest
    split at read
    · rename_i unicode
      split at read
      · rename_i codes
        cases read
        exact left_skipChars_of_readCode escape unicode codes
      · cases read
    · rename_i other
      split at read
      · rename_i found
        cases read
        have quote : ascii byte ≠ '"' := by
          rw [escape]
          decide
        have known := List.any_eq_true.mpr
          ⟨_, List.mem_of_find?_eq_some found, List.find?_some found⟩
        have skipped : skipEscape (mark :: rest) = .ok (Rest.all rest).behind := by
          rw [skipEscape, if_neg other, if_pos known]
        rw [skipChars, if_neg quote, if_pos escape, skipped, left_behind]
        exact left_widen _ _
      · cases read

theorem left_skipChars {read : List Char} {illFormed : Option Nat} {bytes rest : Bytes}
    {text : String} (yields : (readChars read illFormed bytes).Yields text rest) :
    left (skipChars bytes) = some rest := by
  fun_induction readChars read illFormed bytes with
  | case3 read byte others quote =>
      obtain ⟨_, rfl⟩ := yields_ok_iff.mp yields
      rw [skipChars, if_pos quote]
      rfl
  | case5 read illFormed byte others quote escape char after bound escaped induction =>
      rw [yields_behind_iff, yields_widen_iff] at yields
      rw [left_skipChars_of_readEscape escape escaped, induction yields]
  | case7 read illFormed byte others quote escape control char after decoded fewer induction =>
      rw [yields_later_iff] at yields
      rw [left_skipChars_of_head? quote escape control decoded, induction yields]
  | case8 read illFormed byte others quote escape control decoded induction =>
      rw [yields_behind_iff] at yields
      rw [left_skipChars_cons quote escape control, induction yields]
  | _ => exact absurd yields not_yields_error

theorem isSome_digit? (byte : UInt8) : (digit? byte).isSome = isDigit byte := by
  unfold digit? isDigit
  split <;> simp_all

theorem isDigit_of_digit? {byte : UInt8} {digit : Nat} (read : digit? byte = some digit) :
    isDigit byte = true := by
  rw [← isSome_digit?, read]
  rfl

theorem not_isDigit_of_digit? {byte : UInt8} (read : digit? byte = none) :
    isDigit byte = false := by
  rw [← isSome_digit?, read]
  rfl

theorem digitsOf_snd (bytes : Bytes) : (digitsOf bytes).2 = bytes.dropWhile isDigit := by
  induction bytes with
  | nil => rfl
  | cons byte rest induction =>
      rw [digitsOf]
      split
      · rename_i digit
        rw [List.dropWhile_cons_of_pos (isDigit_of_digit? digit), ← induction]
      · rename_i none
        rw [List.dropWhile_cons_of_neg (by simp [not_isDigit_of_digit? none])]

theorem digit?_eq_zero_iff {byte : UInt8} : digit? byte = some 0 ↔ ascii byte = '0' := by
  unfold digit?
  constructor
  · intro zero
    split at zero
    · rename_i digit
      have bounds := toNat_of_isDigit digit
      have value := Option.some.inj zero
      exact Char.toNat_inj.mp (show (ascii byte).toNat = 48 by omega)
    · cases zero
  · intro zero
    rw [zero]
    rfl

theorem digits_of_digitsOf {byte : UInt8} {rest remaining : Bytes} {digits : List Nat}
    (read : digitsOf (byte :: rest) = (digits, remaining)) (some : digits ≠ []) :
    isDigit byte = true ∧ remaining = rest.dropWhile isDigit := by
  have shortened := digitsOf_snd (byte :: rest)
  rw [read] at shortened
  rw [digitsOf] at read
  split at read
  · rename_i first
    rw [List.dropWhile_cons_of_pos (isDigit_of_digit? first)] at shortened
    exact ⟨isDigit_of_digit? first, shortened⟩
  · cases read
    exact absurd rfl some

theorem rest_of_inRange {number : Option Double} {bytes : Bytes} {rest after : Rest bytes}
    {value : Double} (answer : inRange number rest = .ok (value, after)) : after = rest := by
  cases number <;> cases answer
  rfl

theorem rest_of_readExponentDigits {vanishes : Bool} {exponent : Nat} {bytes : Bytes}
    {result : Option Nat} {after : Rest bytes}
    (answer : readExponentDigits vanishes exponent bytes = .ok (result, after)) :
    after.1 = bytes.dropWhile isDigit := by
  induction bytes generalizing exponent result with
  | nil =>
      cases answer
      rfl
  | cons byte rest induction =>
      rw [readExponentDigits] at answer
      split at answer
      · rename_i none
        cases answer
        rw [List.dropWhile_cons_of_neg (by simp [not_isDigit_of_digit? none])]
        rfl
      · rename_i digit some
        rw [List.dropWhile_cons_of_pos (isDigit_of_digit? some)]
        split at answer
        · split at answer
          · rename_i read
            cases answer
            exact induction read
          · cases answer
        · split at answer
          · cases answer
            exact digitsOf_snd rest
          · cases answer

theorem left_skipExponent {word : Nat} {power : Int} {bytes : Bytes} {number : Double}
    {after : Rest bytes} (answer : readExponent word power bytes = .ok (number, after)) :
    left (skipExponent bytes) = some after.1 := by
  cases bytes with
  | nil => cases answer
  | cons sign rest =>
      unfold readExponent at answer
      unfold skipExponent
      dsimp only at answer ⊢
      generalize signed : (if ascii sign = '-' then (true, (Rest.all rest).behind)
        else if ascii sign = '+' then (false, (Rest.all rest).behind)
        else (false, Rest.all (sign :: rest))) = unsigned at answer
      have same : (if ascii sign = '+' ∨ ascii sign = '-' then (Rest.all rest).behind
          else Rest.all (sign :: rest)) = unsigned.2 := by
        rw [← signed]
        by_cases minus : ascii sign = '-' <;> by_cases plus : ascii sign = '+' <;>
          simp [minus, plus]
      rw [same]
      obtain ⟨negative, part, bound⟩ := unsigned
      cases part with
      | nil => cases answer
      | cons byte others =>
          dsimp only at answer ⊢
          split at answer
          · cases answer
          · rename_i some
            have digit : isDigit byte = true := by
              simpa [← isSome_digit?, Option.isSome_iff_ne_none] using some
            rw [if_pos digit]
            split at answer
            · cases answer
            · rename_i read
              cases answer
              have whole := rest_of_readExponentDigits read
              rw [List.dropWhile_cons_of_pos digit] at whole
              exact congrArg Option.some whole.symm
            · rename_i read
              rw [rest_of_inRange answer]
              have whole := rest_of_readExponentDigits read
              rw [List.dropWhile_cons_of_pos digit] at whole
              exact congrArg Option.some whole.symm

theorem left_skipPower {word : Nat} {power : Int} {bytes : Bytes} {number : Double}
    {after : Rest bytes} (answer : readPower word power bytes = .ok (number, after)) :
    left (skipPower bytes) = some after.1 := by
  unfold readPower at answer
  split at answer
  · rw [rest_of_inRange answer]
    rfl
  · rename_i byte rest
    split at answer
    · rename_i mark
      have marked : ascii byte = 'e' ∨ ascii byte = 'E' := by
        simpa [isExponentMark] using mark
      split at answer
      · rename_i read
        cases answer
        rw [skipPower, if_pos marked, left_behind, left_skipExponent read]
        rfl
      · cases answer
    · rename_i mark
      have unmarked : ¬ (ascii byte = 'e' ∨ ascii byte = 'E') := by
        simpa [isExponentMark] using mark
      rw [rest_of_inRange answer, skipPower, if_neg unmarked]
      rfl

theorem skipFraction_of_ne {byte : UInt8} (other : ascii byte ≠ '.') (rest : Bytes) :
    skipFraction (byte :: rest) = skipPower (byte :: rest) := by
  cases rest with
  | nil => rw [skipFraction, if_neg other]
  | cons digit rest => rw [skipFraction, if_pos other]

theorem left_skipFraction_of_readFraction {word : Nat} {power : Int} {point : UInt8}
    {bytes : Bytes} {number : Double} {after : Rest bytes} (dot : ascii point = '.')
    (answer : readFraction word power bytes = .ok (number, after)) :
    left (skipFraction (point :: bytes)) = some after.1 := by
  unfold readFraction at answer
  cases bytes with
  | nil => cases answer
  | cons byte rest =>
      split at answer
      · cases answer
      · rename_i digits remaining bound some read _
        obtain ⟨digit, rfl⟩ := digits_of_digitsOf read some
        dsimp only at answer
        split at answer
        · rename_i power
          cases answer
          have follows := left_skipPower power
          rw [skipFraction, if_neg (not_not.mpr dot), if_pos digit, left_behind, left_behind,
            left_widen]
          exact follows
        · cases answer

theorem exists_of_asNumber {bytes : Bytes} {negative : Bool}
    {read : Except (Fault Nat) (Double × Rest bytes)} {number : Number} {after : Rest bytes}
    (answer : asNumber negative read = .ok (number, after)) :
    ∃ double, read = .ok (double, after) := by
  cases read with
  | error fault => cases answer
  | ok parsed =>
      cases answer
      exact ⟨_, rfl⟩

theorem left_skipFraction {negative : Bool} {word dropped : Nat} {bytes : Bytes} {number : Number}
    {after : Rest bytes} (answer : readTail negative word dropped bytes = .ok (number, after)) :
    left (skipFraction bytes) = some after.1 := by
  have whole {bytes : Bytes} {number : Number} {after : Rest bytes}
      (answer : integral negative word dropped bytes = .ok (number, after)) : after.1 = bytes := by
    unfold integral at answer
    split at answer
    · cases answer
      rfl
    · obtain ⟨double, ranged⟩ := exists_of_asNumber answer
      rw [rest_of_inRange ranged]
      rfl
  unfold readTail at answer
  split at answer
  · rw [whole answer]
    rfl
  · rename_i byte rest
    split at answer
    · rename_i dot
      split at answer
      · rename_i read
        cases answer
        exact left_skipFraction_of_readFraction dot read
      · cases answer
    · rename_i other
      rw [skipFraction_of_ne other]
      split at answer
      · obtain ⟨double, read⟩ := exists_of_asNumber answer
        exact left_skipPower read
      · rename_i mark
        have unmarked : ¬ (ascii byte = 'e' ∨ ascii byte = 'E') := by
          simpa [isExponentMark] using mark
        rw [whole answer, skipPower, if_neg unmarked]
        rfl

theorem left_skipAfterDigit {negative : Bool} {byte : UInt8} {bytes rest : Bytes} {number : Number}
    (yields : (readUnsigned negative (byte :: bytes)).Yields number rest) :
    isDigit byte = true ∧ left (skipAfterDigit byte bytes) = some rest := by
  unfold readUnsigned at yields
  dsimp only at yields
  split at yields
  · exact absurd yields not_yields_error
  · rename_i zero
    refine ⟨isDigit_of_digit? zero, ?_⟩
    unfold skipAfterDigit
    rw [if_pos (digit?_eq_zero_iff.mp zero)]
    split at yields
    · obtain ⟨_, rfl⟩ := yields_ok_iff.mp yields
      rfl
    · rename_i next others
      split at yields
      · exact absurd yields not_yields_error
      · rename_i apart
        rw [isSome_digit?] at apart
        dsimp only
        rw [if_neg apart]
        split at yields
        · rename_i tail
          obtain ⟨_, rfl⟩ := yields_ok_iff.mp yields
          exact left_skipFraction tail
        · exact absurd yields not_yields_error
  · rename_i digit nonzero first
    have other : ascii byte ≠ '0' := by
      intro zero
      rw [digit?_eq_zero_iff.mpr zero] at first
      exact nonzero (Option.some.inj first).symm
    refine ⟨isDigit_of_digit? first, ?_⟩
    unfold skipAfterDigit
    rw [if_neg other]
    split at yields
    · rename_i tail
      obtain ⟨_, rfl⟩ := yields_ok_iff.mp yields
      have follows := left_skipFraction tail
      have same : (skipDigits bytes).1 = (digitsOf bytes).2 := (digitsOf_snd bytes).symm
      dsimp only
      rw [left_widen, same]
      exact follows
    · exact absurd yields not_yields_error

theorem left_skipUnsigned {negative : Bool} {bytes rest : Bytes} {number : Number}
    (yields : (readUnsigned negative bytes).Yields number rest) :
    left (skipUnsigned bytes) = some rest := by
  cases bytes with
  | nil => exact absurd yields not_yields_error
  | cons byte bytes =>
      obtain ⟨digit, skipped⟩ := left_skipAfterDigit yields
      rw [skipUnsigned, if_pos digit, left_behind, skipped]

end FilterSynthesis.Reading
