import FilterSynthesis.Proofs.Reading.SkipScalar

/-!
Whatever is read can be passed over. A value that a reader takes off the front of a text is shaped
like JSON, and passing over it leaves the same bytes as reading it, whatever surrounds it.
-/

namespace FilterSynthesis.Reading

open Reader (not_yields_error yields_behind_iff yields_later_iff yields_map_iff yields_ok_iff
  yields_widen_iff yields_within_iff)

/-- Passing over the value that begins here comes to what follows it, whatever brackets are open
around it. -/
structure Skips (bytes rest : Bytes) : Prop where
  shorter : rest.length < bytes.length
  left_eq : ∀ (bound : Nat) (brackets : List Bracket) (fewer : bytes.length ≤ bound)
    (less : rest.length < bound),
    left (skipValueIn bound brackets bytes fewer) = left (skipRest bound brackets rest less)

structure SkipsFrom (bracket : Bracket) (bytes rest : Bytes) : Prop where
  shorter : rest.length < bytes.length
  left_eq : ∀ (bound : Nat) (brackets : List Bracket) (fewer : bytes.length ≤ bound)
    (less : rest.length < bound),
    left (skipItem bound bracket brackets bytes fewer) = left (skipRest bound brackets rest less)

section

variable {bytes others rest : Bytes} {first : UInt8}

theorem skips_scalar (spaced : dropBlanks bytes = first :: others) {after : Rest others}
    (start : skipStart first others = .ok (none, after)) : Skips bytes after.1 := by
  refine ⟨Nat.lt_of_le_of_lt after.2 (length_lt_of_dropBlanks spaced), ?_⟩
  intro bound brackets fewer less
  rw [skipValueIn]
  split
  · rename_i none
    cases spaced.symm.trans none
  · rename_i byte more there
    cases spaced.symm.trans there
    rw [start]

theorem skips_empty {bracket : Bracket} (spaced : dropBlanks bytes = first :: others)
    {after : Rest others} (start : skipStart first others = .ok (some bracket, after))
    {next : UInt8}
    (opened : dropBlanks after.1 = next :: rest) (closes : ascii next = bracket.closer) :
    Skips bytes rest := by
  have outer := length_lt_of_dropBlanks spaced
  have inner := length_lt_of_dropBlanks opened
  have within := after.2
  refine ⟨by omega, fun bound brackets fewer less => ?_⟩
  rw [skipValueIn]
  split
  · rename_i none
    cases spaced.symm.trans none
  · rename_i byte more there
    cases spaced.symm.trans there
    rw [start]
    dsimp only
    split
    · rename_i none
      cases opened.symm.trans none
    · rename_i found
      cases opened.symm.trans found
      rw [if_pos closes]

theorem left_skipValueIn_open {bracket : Bracket} (spaced : dropBlanks bytes = first :: others)
    {after : Rest others} (start : skipStart first others = .ok (some bracket, after))
    {next : UInt8}
    {more : Bytes} (opened : dropBlanks after.1 = next :: more)
    (apart : ascii next ≠ bracket.closer) {bound : Nat} {brackets : List Bracket}
    (fewer : bytes.length ≤ bound) (inside : (next :: more).length ≤ bound) :
    left (skipValueIn bound brackets bytes fewer) =
      left (skipItem bound bracket brackets (next :: more) inside) := by
  rw [skipValueIn]
  split
  · rename_i none
    cases spaced.symm.trans none
  · rename_i byte more there
    cases spaced.symm.trans there
    rw [start]
    dsimp only
    split
    · rename_i none
      cases opened.symm.trans none
    · rename_i found
      cases opened.symm.trans found
      rw [if_neg apart]

theorem skips_open {bracket : Bracket} (spaced : dropBlanks bytes = first :: others)
    (start : skipStart first others = .ok (some bracket, .all others)) {next : UInt8} {more : Bytes}
    (opened : dropBlanks others = next :: more) (apart : ascii next ≠ bracket.closer)
    (skips : SkipsFrom bracket (next :: more) rest) : Skips bytes rest := by
  have outer := length_lt_of_dropBlanks spaced
  have inner := length_le_of_dropBlanks opened
  have shorter := skips.shorter
  refine ⟨by omega, fun bound brackets fewer less => ?_⟩
  rw [left_skipValueIn_open spaced start opened apart fewer (by omega)]
  exact skips.left_eq bound brackets _ less

theorem left_skipRest_closed {bracket : Bracket} (spaced : dropBlanks bytes = first :: rest)
    (closes : ascii first = bracket.closer) {bound : Nat} {brackets : List Bracket}
    (fewer : bytes.length < bound) (less : rest.length < bound) :
    left (skipRest bound (bracket :: brackets) bytes fewer) =
      left (skipRest bound brackets rest less) := by
  have apart : ascii first ≠ ',' := by
    rw [closes]
    cases bracket <;> decide
  rw [skipRest]
  split
  · rename_i none
    cases spaced.symm.trans none
  · rename_i there
    cases spaced.symm.trans there
    dsimp only
    rw [if_neg apart, if_pos closes]

theorem left_skipRest_comma {bracket : Bracket} {comma : UInt8}
    (spaced : dropBlanks bytes = comma :: others) (separates : ascii comma = ',')
    {next : UInt8} {more : Bytes} (separated : dropBlanks others = next :: more) {bound : Nat}
    {brackets : List Bracket} (fewer : bytes.length < bound)
    (inside : (next :: more).length ≤ bound) :
    left (skipRest bound (bracket :: brackets) bytes fewer) =
      left (skipItem bound bracket brackets (next :: more) inside) := by
  rw [skipRest]
  split
  · rename_i none
    cases spaced.symm.trans none
  · rename_i there
    cases spaced.symm.trans there
    dsimp only
    rw [if_pos separates]
    split
    · rename_i none
      cases separated.symm.trans none
    · rename_i found
      cases separated.symm.trans found
      rfl

structure Enters (bracket : Bracket) (bytes part : Bytes) : Prop where
  within : part.length ≤ bytes.length
  left_eq : ∀ (bound : Nat) (brackets : List Bracket) (fewer : bytes.length ≤ bound)
    (inside : part.length ≤ bound), left (skipItem bound bracket brackets bytes fewer) =
      left (skipValueIn bound (bracket :: brackets) part inside)

theorem enters_square (bytes : Bytes) : Enters .square bytes bytes where
  within := Nat.le_refl _
  left_eq bound brackets fewer inside := by rw [skipItem]

theorem enters_curly {quote colon : UInt8} {chars after part : Bytes} {key : String}
    (opens : ascii quote = '"') (read : (readString (quote :: chars)).Yields key after)
    (spaced : dropBlanks after = colon :: part) (separates : ascii colon = ':') :
    Enters .curly (quote :: chars) part := by
  have skipped : left (skipChars chars) = some after := by
    rw [readString, yields_behind_iff] at read
    exact left_skipChars read
  have key : ∃ less, skipKey (quote :: chars) = .ok ⟨part, less⟩ := by
    rw [skipKey, if_neg (not_not.mpr opens)]
    cases skips : skipChars chars with
    | error fault =>
        rw [skips] at skipped
        cases skipped
    | ok behind =>
        obtain ⟨remaining, bound⟩ := behind
        rw [skips] at skipped
        cases skipped
        dsimp only
        split
        · rename_i none
          cases spaced.symm.trans none
        · rename_i there
          cases spaced.symm.trans there
          rw [if_pos separates]
          have shorter := length_lt_of_dropBlanks there
          exact ⟨by simp only [List.length_cons]; omega, rfl⟩
  obtain ⟨less, key⟩ := key
  refine ⟨less, fun bound brackets fewer inside => ?_⟩
  rw [skipItem, key]

end

section

variable {α σ : Type} {bytes others rest : Bytes} {first : UInt8}

def SkipsPart (bracket : Bracket) (bytes rest : Bytes) : Prop :=
  ∃ value, Enters bracket bytes value ∧ Skips value rest

theorem skips_of_parts {bracket : Bracket} {part : σ → Bytes → σ → Bytes → Prop} {state final : σ}
    (each : ∀ state bytes next rest, part state bytes next rest → SkipsPart bracket bytes rest)
    (read : PartsRead bracket part state bytes final rest) : SkipsFrom bracket bytes rest := by
  induction read with
  | last read spaced closes =>
      obtain ⟨value, enters, skips⟩ := each _ _ _ _ read
      have within := enters.within
      have shorter := skips.shorter
      have outer := length_lt_of_dropBlanks spaced
      refine ⟨by omega, fun bound brackets fewer less => ?_⟩
      rw [enters.left_eq bound brackets fewer (by omega), skips.left_eq _ _ _ (by omega)]
      exact left_skipRest_closed spaced closes _ less
  | more read spaced separates separated _ induction =>
      obtain ⟨value, enters, skips⟩ := each _ _ _ _ read
      have within := enters.within
      have shorter := skips.shorter
      have outer := length_lt_of_dropBlanks spaced
      have inner := length_le_of_dropBlanks separated
      have later := induction.shorter
      refine ⟨by omega, fun bound brackets fewer less => ?_⟩
      rw [enters.left_eq bound brackets fewer (by omega), skips.left_eq _ _ _ (by omega),
        left_skipRest_comma spaced separates separated _ (by omega)]
      exact induction.left_eq bound brackets _ less

theorem skips_of_enclosed {bracket : Bracket} {part : σ → Bytes → σ → Bytes → Prop}
    {state final : σ}
    (each : ∀ state bytes next rest, part state bytes next rest → SkipsPart bracket bytes rest)
    (spaced : dropBlanks bytes = first :: others)
    (start : skipStart first others = .ok (some bracket, .all others))
    (read : EnclosedRead bracket part state others final rest) : Skips bytes rest := by
  cases read with
  | empty opened closes => exact skips_empty spaced start opened closes
  | filled opened apart parts =>
      exact skips_open spaced start opened apart (skips_of_parts each parts)

theorem skips_of_array {item : Bytes → α → Bytes → Prop} {values : List α}
    (each : ∀ part value rest, item part value rest → Skips part rest)
    (spaced : dropBlanks bytes = first :: others) (opens : ascii first = '[')
    (read : ArrayRead item others values rest) : Skips bytes rest := by
  refine skips_of_enclosed ?_ spaced (by simp only [skipStart, opens]) read
  rintro _ part _ rest ⟨value, read, _⟩
  exact ⟨part, enters_square part, each part value rest read⟩

theorem skips_of_row {field : σ → String → Bytes → σ → Bytes → Prop} {names : List String}
    {state final : σ}
    (each : ∀ state name part next rest, field state name part next rest → Skips part rest)
    (spaced : dropBlanks bytes = first :: others) (opens : ascii first = '[')
    (read : RowRead field names state others final rest) : Skips bytes rest := by
  obtain ⟨later, read⟩ := read
  refine skips_of_enclosed ?_ spaced (by simp only [skipStart, opens]) read
  rintro _ part _ rest ⟨read⟩
  exact ⟨part, enters_square part, each _ _ part _ rest read⟩

theorem skips_of_object {check : σ → String → Option Cause}
    {member : σ → String → Bytes → σ → Bytes → Prop} {state final : σ}
    (each : ∀ state key part next rest, member state key part next rest → Skips part rest)
    (spaced : dropBlanks bytes = first :: others) (opens : ascii first = '\x7b')
    (read : ObjectRead check member state others final rest) : Skips bytes rest := by
  refine skips_of_enclosed ?_ spaced (by simp only [skipStart, opens]) read
  rintro _ _ _ rest ⟨opens, key, _, colon, separates, value⟩
  exact ⟨_, enters_curly opens key colon separates, each _ _ _ _ rest value⟩

theorem exists_of_left {skipped : Skipped others} (answer : left skipped = some rest) :
    ∃ bound, skipped = .ok ⟨rest, bound⟩ := by
  cases skipped with
  | error fault => cases answer
  | ok after =>
      cases answer
      exact ⟨after.2, rfl⟩

theorem skips_readString (spaced : dropBlanks bytes = first :: others) (quote : ascii first = '"')
    {text : String} (yields : (readString (first :: others)).Yields text rest) :
    Skips bytes rest := by
  rw [readString, yields_behind_iff] at yields
  obtain ⟨bound, skipped⟩ := exists_of_left (left_skipChars yields)
  have start : skipStart first others = .ok (none, ⟨rest, bound⟩) := by
    simp only [skipStart, quote, skipped]
  exact skips_scalar spaced start

theorem skips_readWord {value result : α} {letters : List Char}
    (spaced : dropBlanks bytes = first :: others)
    (word : ascii first = 'n' ∧ letters = ['u', 'l', 'l'] ∨
      ascii first = 't' ∧ letters = ['r', 'u', 'e'] ∨
      ascii first = 'f' ∧ letters = ['a', 'l', 's', 'e'])
    (yields : (readWord value letters (first :: others)).Yields result rest) :
    Skips bytes rest := by
  obtain ⟨_, bound, read⟩ := readLetters_of_readWord yields
  have start : skipStart first others = .ok (none, ⟨rest, bound⟩) := by
    rcases word with ⟨initial, rfl⟩ | ⟨initial, rfl⟩ | ⟨initial, rfl⟩ <;>
      simp only [skipStart, initial, read]
  exact skips_scalar spaced start

theorem skips_readNumber (spaced : dropBlanks bytes = first :: others) {number : Number}
    (yields : (readNumber (first :: others)).Yields number rest) : Skips bytes rest := by
  unfold readNumber at yields
  dsimp only at yields
  split at yields
  · rename_i minus
    rw [yields_behind_iff] at yields
    obtain ⟨bound, skipped⟩ := exists_of_left (left_skipUnsigned yields)
    have start : skipStart first others = .ok (none, ⟨rest, bound⟩) := by
      simp only [skipStart, minus, skipped]
    exact skips_scalar spaced start
  · obtain ⟨digit, skipped⟩ := left_skipAfterDigit yields
    obtain ⟨bound, skipped⟩ := exists_of_left skipped
    have start : skipStart first others = .ok (none, ⟨rest, bound⟩) := by
      unfold skipStart
      split
      case h_8 => rw [if_pos digit, skipped]
      all_goals
        rename_i initial
        rw [isDigit, initial] at digit
        exact absurd digit (by decide)
    exact skips_scalar spaced start

theorem skips_readValue {room : Nat} {value : Json}
    (yields : (readValue room bytes).Yields value rest) : Skips bytes rest := by
  -- on the number of bytes, as the reader recurses; whatever room there is for them
  induction length : bytes.length using Nat.strongRecOn generalizing room bytes value rest with
  | ind length induction =>
      rw [readValue] at yields
      split at yields
      · exact absurd yields not_yields_error
      · rename_i first others spaced
        have inner : ∀ part : Bytes, part.length < (first :: others).length → ∀ {value rest},
            (readValue (room - 1) part).Yields value rest → Skips part rest := by
          intro part shorter value rest read
          have bound := length_le_of_dropBlanks spaced
          exact induction part.length (by omega) read rfl
        dsimp only at yields
        rw [yields_widen_iff] at yields
        split at yields
        · rename_i initial
          exact skips_readWord spaced (Or.inl ⟨initial, rfl⟩) yields
        · rename_i initial
          exact skips_readWord spaced (Or.inr (Or.inl ⟨initial, rfl⟩)) yields
        · rename_i initial
          exact skips_readWord spaced (Or.inr (Or.inr ⟨initial, rfl⟩)) yields
        · rename_i quote
          obtain ⟨text, yields, _⟩ := yields_map_iff.mp yields
          exact skips_readString spaced quote yields
        · rename_i opens
          split at yields
          · exact absurd yields not_yields_error
          · obtain ⟨elements, yields, _⟩ := yields_map_iff.mp (yields_widen_iff.mp yields)
            exact skips_of_array (fun _ _ _ => id) spaced opens
              (array_of_readItems (fun _ part shorter _ _ => inner part shorter) yields)
        · rename_i opens
          split at yields
          · exact absurd yields not_yields_error
          · obtain ⟨members, yields, _⟩ := yields_map_iff.mp (yields_widen_iff.mp yields)
            refine skips_of_object (fun _ _ _ _ _ => id) spaced opens
              (object_of_readMembers (fun _ _ part shorter _ _ read => ?_) yields)
            obtain ⟨value, read, _⟩ := yields_map_iff.mp read
            exact inner part shorter (yields_within_iff.mp read)
        · split at yields
          · obtain ⟨number, yields, _⟩ := yields_map_iff.mp yields
            exact skips_readNumber spaced yields
          · exact absurd yields not_yields_error

end

/-- From here, the open brackets are closed and these bytes follow, whatever is open around them. -/
def PassesValue (brackets : List Bracket) (bytes rest : Bytes) : Prop :=
  ∀ (bound : Nat) (outer : List Bracket) (fewer : bytes.length ≤ bound)
    (less : rest.length < bound), left (skipValueIn bound (brackets ++ outer) bytes fewer) =
      left (skipRest bound outer rest less)

def PassesItem (bracket : Bracket) (brackets : List Bracket) (bytes rest : Bytes) : Prop :=
  ∀ (bound : Nat) (outer : List Bracket) (fewer : bytes.length ≤ bound)
    (less : rest.length < bound),
    left (skipItem bound bracket (brackets ++ outer) bytes fewer) =
      left (skipRest bound outer rest less)

def PassesRest (brackets : List Bracket) (bytes rest : Bytes) : Prop :=
  ∀ (bound : Nat) (outer : List Bracket) (fewer : bytes.length < bound)
    (less : rest.length < bound), left (skipRest bound (brackets ++ outer) bytes fewer) =
      left (skipRest bound outer rest less)

section

variable {bound : Nat} {bracket : Bracket} {brackets : List Bracket} {bytes after rest : Bytes}

theorem Skips.passes (skips : Skips bytes after) (later : PassesRest brackets after rest) :
    PassesValue brackets bytes rest := by
  intro bound outer fewer less
  have shorter := skips.shorter
  rw [skips.left_eq bound _ fewer (by omega)]
  exact later bound outer _ less

theorem exists_start_of_left {fewer : bytes.length ≤ bound}
    (answer : left (skipValueIn bound brackets bytes fewer) = some rest) :
    ∃ first others, dropBlanks bytes = first :: others ∧
      ((∃ after, skipStart first others = .ok (none, after)) ∨
        ∃ bracket after next more, skipStart first others = .ok (some bracket, after) ∧
          dropBlanks after.1 = next :: more) := by
  rw [skipValueIn] at answer
  split at answer
  · cases answer
  · rename_i first others spaced
    refine ⟨first, others, spaced, ?_⟩
    dsimp only at answer
    split at answer
    · cases answer
    · rename_i start
      exact .inl ⟨_, start⟩
    · rename_i start
      split at answer
      · cases answer
      · rename_i opened
        exact .inr ⟨_, _, _, _, start, opened⟩

theorem exists_key_of_left {fewer : bytes.length ≤ bound}
    (answer : left (skipItem bound .curly brackets bytes fewer) = some rest) :
    ∃ after, skipKey bytes = .ok after := by
  rw [skipItem] at answer
  split at answer
  · cases answer
  · rename_i key
    exact ⟨_, key⟩

theorem exists_next_of_left {fewer : bytes.length < bound}
    (answer : left (skipRest bound (bracket :: brackets) bytes fewer) = some rest) :
    ∃ first others, dropBlanks bytes = first :: others ∧
      (ascii first = bracket.closer ∨
        ascii first = ',' ∧ ∃ next more, dropBlanks others = next :: more) := by
  rw [skipRest] at answer
  split at answer
  · cases answer
  · rename_i first others spaced
    refine ⟨first, others, spaced, ?_⟩
    dsimp only at answer
    split at answer
    · rename_i separates
      split at answer
      · cases answer
      · rename_i separated
        exact .inr ⟨separates, _, _, separated⟩
    · split at answer
      · rename_i closes
        exact .inl closes
      · cases answer

end

-- The measure is that of the scanner: an element is entered before its value, a value before what
-- follows it, and no bytes need be passed in between.
mutual

theorem passesValue {bound : Nat} {brackets : List Bracket} {bytes rest : Bytes}
    {fewer : bytes.length ≤ bound}
    (answer : left (skipValueIn bound brackets bytes fewer) = some rest) :
    PassesValue brackets bytes rest := by
  obtain ⟨first, others, spaced, scalar | enclosed⟩ := exists_start_of_left answer
  · obtain ⟨after, start⟩ := scalar
    have skips := skips_scalar spaced start
    have shorter := skips.shorter
    rw [skips.left_eq bound _ fewer (by omega)] at answer
    exact skips.passes (passesRest answer)
  · obtain ⟨bracket, after, next, more, start, opened⟩ := enclosed
    by_cases closes : ascii next = bracket.closer
    · have skips := skips_empty spaced start opened closes
      have shorter := skips.shorter
      rw [skips.left_eq bound _ fewer (by omega)] at answer
      exact skips.passes (passesRest answer)
    · have outer := length_lt_of_dropBlanks spaced
      have inner := length_le_of_dropBlanks opened
      have within := after.2
      rw [left_skipValueIn_open spaced start opened closes fewer (by omega)] at answer
      intro wide outer fewer less
      rw [left_skipValueIn_open spaced start opened closes fewer (by omega)]
      exact passesItem answer wide outer _ less
  termination_by 3 * bytes.length + 1
  decreasing_by all_goals simp only [List.length_cons] at *; omega

theorem passesItem {bound : Nat} {bracket : Bracket} {brackets : List Bracket} {bytes rest : Bytes}
    {fewer : bytes.length ≤ bound}
    (answer : left (skipItem bound bracket brackets bytes fewer) = some rest) :
    PassesItem bracket brackets bytes rest := by
  cases bracket with
  | square =>
      rw [skipItem] at answer
      intro wide outer fewer less
      rw [skipItem]
      exact passesValue answer wide outer fewer less
  | curly =>
      obtain ⟨⟨after, within⟩, key⟩ := exists_key_of_left answer
      rw [skipItem, key] at answer
      intro wide outer fewer less
      rw [skipItem, key]
      exact passesValue answer wide outer _ less
  termination_by 3 * bytes.length + 2

theorem passesRest {bound : Nat} {brackets : List Bracket} {bytes rest : Bytes}
    {fewer : bytes.length < bound}
    (answer : left (skipRest bound brackets bytes fewer) = some rest) :
    PassesRest brackets bytes rest := by
  cases brackets with
  | nil =>
      rw [skipRest] at answer
      cases answer
      exact fun _ _ _ _ => rfl
  | cons bracket brackets =>
      obtain ⟨first, others, spaced, closes | ⟨separates, next, more, separated⟩⟩ :=
        exists_next_of_left answer
      · have shorter := length_lt_of_dropBlanks spaced
        rw [left_skipRest_closed spaced closes fewer (by omega)] at answer
        intro wide outer fewer less
        rw [List.cons_append, left_skipRest_closed spaced closes fewer (by omega)]
        exact passesRest answer wide outer _ less
      · have shorter := length_lt_of_dropBlanks spaced
        have inner := length_le_of_dropBlanks separated
        rw [left_skipRest_comma spaced separates separated fewer (by omega)] at answer
        intro wide outer fewer less
        rw [List.cons_append, left_skipRest_comma spaced separates separated fewer (by omega)]
        exact passesItem answer wide outer _ less
  termination_by 3 * bytes.length
  decreasing_by all_goals simp only [List.length_cons] at *; omega

end

theorem skips_skipValue {bytes rest : Bytes} {result : Unit}
    (yields : (skipValue bytes).Yields result rest) : Skips bytes rest := by
  have passed : left (skipValueIn bytes.length [] bytes (Rest.all bytes).2) = some rest := by
    unfold skipValue at yields
    split at yields
    · rename_i skipped
      obtain ⟨_, rfl⟩ := yields_ok_iff.mp yields
      rw [skipped]
      rfl
    · exact absurd yields not_yields_error
  exact ⟨yields.shorter, passesValue passed⟩

/-- What can be passed over inside brackets can be passed over alone. -/
theorem Skips.yields {bytes rest : Bytes} (skips : Skips bytes rest) :
    (skipValue bytes).Yields () rest := by
  have passed := skips.left_eq bytes.length [] (Rest.all bytes).2 skips.shorter
  rw [skipRest] at passed
  unfold skipValue
  cases skipped : skipValueIn bytes.length [] bytes (Rest.all bytes).2 with
  | error fault =>
      rw [skipped] at passed
      cases passed
  | ok after =>
      rw [skipped] at passed
      cases passed
      exact yields_ok_iff.mpr ⟨rfl, rfl⟩

theorem Skips.unique {bytes one other : Bytes} (first : Skips bytes one)
    (second : Skips bytes other) : one = other :=
  (first.yields.unique second.yields).2

end FilterSynthesis.Reading
