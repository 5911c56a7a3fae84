import FilterSynthesis.Reading.Record
import Mathlib.Data.List.DropRight

/-!
What the readers of arrays, objects and records have read, told as relations between the bytes they
began at, what they found and the bytes they left. One relation follows the text from part to part,
whatever the parts are, so that two readers of one text are compared by one induction on it.
-/

namespace FilterSynthesis.Reading

/-- Reading succeeds with this value and leaves these bytes. -/
def Reader.Yields {α : Type} {bytes : Bytes} (read : Reader α bytes) (value : α) (rest : Bytes) :
    Prop :=
  ∃ parsed, read = .ok parsed ∧ parsed.value = value ∧ parsed.rest = rest

namespace Reader

variable {α β : Type} {part bytes rest : Bytes} {read : Reader α bytes}

theorem Yields.shorter {value : α} (yields : read.Yields value rest) :
    rest.length < bytes.length := by
  obtain ⟨parsed, _, _, rfl⟩ := yields
  exact parsed.shorter

theorem Yields.unique {left right : α} {behind : Bytes} (one : read.Yields left rest)
    (other : read.Yields right behind) : left = right ∧ rest = behind := by
  obtain ⟨parsed, answer, rfl, rfl⟩ := one
  obtain ⟨_, again, rfl, rfl⟩ := other
  cases answer.symm.trans again
  exact ⟨rfl, rfl⟩

@[simp] theorem yields_ok_iff {parsed : Parsed α bytes} {value : α} :
    Yields (.ok parsed : Reader α bytes) value rest ↔
      parsed.value = value ∧ parsed.rest = rest := by
  simp [Yields]

@[simp] theorem not_yields_error {fault : Fault Nat} {value : α} :
    ¬ Yields (.error fault : Reader α bytes) value rest := by
  simp [Yields]

@[simp] theorem yields_map_iff {change : α → β} {result : β} :
    (read.map change).Yields result rest ↔
        ∃ value, read.Yields value rest ∧ change value = result := by
  cases read with
  | error fault => simp [Reader.map]
  | ok parsed =>
      simp only [Reader.map, yields_ok_iff, Parsed.map]
      constructor
      · rintro ⟨equal, same⟩
        exact ⟨_, ⟨rfl, same⟩, equal⟩
      · rintro ⟨_, ⟨rfl, same⟩, equal⟩
        exact ⟨equal, same⟩

@[simp] theorem yields_within_iff {step : PathStep} {value : α} :
    (read.within step).Yields value rest ↔ read.Yields value rest := by
  cases read <;> simp [Reader.within]

@[simp] theorem yields_widen_iff {read : Reader α part} {bound : part.length ≤ bytes.length}
    {value : α} : (read.widen bound : Reader α bytes).Yields value rest ↔
        read.Yields value rest := by
  cases read <;> simp [Reader.widen, Parsed.widen]

@[simp] theorem yields_later_iff {read : Reader α part} {fewer : part.length < bytes.length}
    {value : α} : (read.later fewer : Reader α bytes).Yields value rest ↔ read.Yields value rest :=
  yields_widen_iff

@[simp] theorem yields_behind_iff {byte : UInt8} {read : Reader α bytes} {value : α} :
    (read.behind : Reader α (byte :: bytes)).Yields value rest ↔ read.Yields value rest :=
  yields_widen_iff

end Reader

open Reader (not_yields_error yields_later_iff yields_map_iff yields_ok_iff yields_widen_iff
  yields_within_iff)

/-! Between two brackets, parts are separated by commas, and each takes a state on. -/

section

variable {σ : Type}

/-- The parts from one that begins here, up to and over the closing bracket. -/
inductive PartsRead (bracket : Bracket) (part : σ → Bytes → σ → Bytes → Prop) :
    σ → Bytes → σ → Bytes → Prop
  | last {state next : σ} {bytes after rest : Bytes} {closing : UInt8}
      (read : part state bytes next after) (spaced : dropBlanks after = closing :: rest)
      (closes : ascii closing = bracket.closer) : PartsRead bracket part state bytes next rest
  | more {state next final : σ} {bytes after others following rest : Bytes} {comma first : UInt8}
      (read : part state bytes next after) (spaced : dropBlanks after = comma :: others)
      (separates : ascii comma = ',') (separated : dropBlanks others = first :: following)
      (others : PartsRead bracket part next (first :: following) final rest) :
      PartsRead bracket part state bytes final rest

inductive EnclosedRead (bracket : Bracket) (part : σ → Bytes → σ → Bytes → Prop) (state : σ) :
    Bytes → σ → Bytes → Prop
  | empty {bytes rest : Bytes} {closing : UInt8} (spaced : dropBlanks bytes = closing :: rest)
      (closes : ascii closing = bracket.closer) : EnclosedRead bracket part state bytes state rest
  | filled {bytes others rest : Bytes} {first : UInt8} {final : σ}
      (spaced : dropBlanks bytes = first :: others) (apart : ascii first ≠ bracket.closer)
      (parts : PartsRead bracket part state (first :: others) final rest) :
      EnclosedRead bracket part state bytes final rest

end

section

variable {α : Type}

def ElementRead (item : Bytes → α → Bytes → Prop) (values : List α) (bytes : Bytes)
    (next : List α) (rest : Bytes) : Prop :=
  ∃ value, item bytes value rest ∧ values ++ [value] = next

abbrev ArrayRead (item : Bytes → α → Bytes → Prop) : Bytes → List α → Bytes → Prop :=
  EnclosedRead .square (ElementRead item) []

variable {limit : Nat} {item : (index : Nat) → (part : Bytes) → part.length < limit → Reader α part}
  {related : Bytes → α → Bytes → Prop}

theorem elements_of_readItemsFrom
    (each : ∀ index part shorter value rest, (item index part shorter).Yields value rest →
      related part value rest) {index : Nat} {bytes rest : Bytes} {fits : bytes.length < limit}
    {values : List α} (yields : (readItemsFrom limit item index bytes fits).Yields values rest)
    (before : List α) :
    PartsRead .square (ElementRead related) before bytes (before ++ values) rest := by
  have first : ∀ {index : Nat} {bytes : Bytes} {fits : bytes.length < limit}
      {parsed : Parsed α bytes}, (item index bytes fits).within (.index index) = .ok parsed →
        related bytes parsed.value parsed.rest :=
    fun read => each _ _ _ _ _ (yields_within_iff.mp ⟨_, read, rfl, rfl⟩)
  fun_induction readItemsFrom limit item index bytes fits generalizing values before with
  | case3 index bytes fits value after shorter read next others spaced _ closes =>
      obtain ⟨rfl, rfl⟩ := yields_ok_iff.mp yields
      exact .last ⟨value, first read, rfl⟩ spaced closes
  | case6 index bytes fits value after shorter read next others spaced _ _ comma second more
      separated total _ induction =>
      rw [yields_later_iff, yields_map_iff] at yields
      obtain ⟨following, yields, rfl⟩ := yields
      rw [List.append_cons]
      exact .more ⟨value, first read, rfl⟩ spaced comma separated (induction yields _)
  | _ => exact absurd yields not_yields_error

theorem array_of_readItems
    (each : ∀ index part shorter value rest, (item index part shorter).Yields value rest →
      related part value rest) {bytes rest : Bytes} {fits : bytes.length < limit} {values : List α}
    (yields : (readItems limit item bytes fits).Yields values rest) :
    ArrayRead related bytes values rest := by
  unfold readItems at yields
  split at yields
  · exact absurd yields not_yields_error
  · rename_i first others spaced
    dsimp only at yields
    split at yields
    · rename_i closes
      obtain ⟨rfl, rfl⟩ := yields_ok_iff.mp yields
      exact .empty spaced closes
    · rename_i apart
      rw [yields_widen_iff] at yields
      exact .filled spaced apart (elements_of_readItemsFrom each yields [])

end

section

variable {σ : Type}

inductive MemberRead (check : σ → String → Option Cause)
    (member : σ → String → Bytes → σ → Bytes → Prop) (state : σ) : Bytes → σ → Bytes → Prop
  | mk {chars named part rest : Bytes} {quote colon : UInt8} {key : String} {next : σ}
      (opens : ascii quote = '"') (read : (readString (quote :: chars)).Yields key named)
      (accepted : check state key = none) (spaced : dropBlanks named = colon :: part)
      (separates : ascii colon = ':') (value : member state key part next rest) :
      MemberRead check member state (quote :: chars) next rest

abbrev ObjectRead (check : σ → String → Option Cause)
    (member : σ → String → Bytes → σ → Bytes → Prop) : σ → Bytes → σ → Bytes → Prop :=
  EnclosedRead .curly (MemberRead check member)

variable {limit : Nat} {check : σ → String → Option Cause}
  {member : σ → String → (part : Bytes) → part.length < limit → Reader σ part}
  {related : σ → String → Bytes → σ → Bytes → Prop}

theorem exists_of_readMember {member : (part : Bytes) → part.length < limit → Reader σ part}
    {bytes rest : Bytes} {fits : bytes.length < limit} {next : σ}
    (yields : (readMember limit member bytes fits).Yields next rest) :
    ∃ colon part shorter, dropBlanks bytes = colon :: part ∧ ascii colon = ':' ∧
      (member part shorter).Yields next rest := by
  unfold readMember at yields
  split at yields
  · exact absurd yields not_yields_error
  · rename_i colon part spaced
    split at yields
    · rename_i separates
      exact ⟨colon, part, _, spaced, separates, yields_later_iff.mp yields⟩
    · exact absurd yields not_yields_error

theorem members_of_readMembersFrom
    (each : ∀ state key part shorter next rest, (member state key part shorter).Yields next rest →
      related state key part next rest) {state final : σ} {bytes rest : Bytes}
    {fits : bytes.length < limit} (opens : ∀ first ∈ bytes.head?, ascii first = '"')
    (yields : (readMembersFrom limit check member state bytes fits).Yields final rest) :
    PartsRead .curly (MemberRead check related) state bytes final rest := by
  have first : ∀ {state : σ} {bytes : Bytes} {key : Parsed String bytes}
      {fits : key.rest.length < limit} {next : Parsed σ key.rest},
      (∀ first ∈ bytes.head?, ascii first = '"') →
      (readString bytes).within .between = .ok key → check state key.value = none →
      readMember limit (member state key.value) key.rest fits = .ok next →
      MemberRead check related state bytes next.value next.rest := by
    intro state bytes key fits next opens named accepted read
    obtain ⟨colon, part, shorter, spaced, separates, yields⟩ :=
      exists_of_readMember ⟨next, read, rfl, rfl⟩
    cases bytes with
    | nil => cases named
    | cons quote chars =>
        have named := yields_within_iff.mp ⟨key, named, rfl, rfl⟩
        exact ⟨opens quote rfl, named, accepted, spaced, separates, each _ _ _ _ _ _ yields⟩
  fun_induction readMembersFrom limit check member state bytes fits with
  | case5 state bytes fits key afterKey keyShorter named accepted next after shorter read byte
      others spaced _ closes =>
      obtain ⟨rfl, rfl⟩ := yields_ok_iff.mp yields
      exact .last (first opens named accepted read) spaced closes
  | case7 state bytes fits key afterKey keyShorter named accepted next after shorter read byte
      others spaced _ _ comma second more separated total quote induction =>
      rw [yields_later_iff] at yields
      refine .more (first opens named accepted read) spaced comma separated (induction ?_ yields)
      rintro _ ⟨⟩
      exact quote
  | _ => exact absurd yields not_yields_error

theorem object_of_readMembers
    (each : ∀ state key part shorter next rest, (member state key part shorter).Yields next rest →
      related state key part next rest) {state final : σ} {bytes rest : Bytes}
    {fits : bytes.length < limit}
    (yields : (readMembers limit check member state bytes fits).Yields final rest) :
    ObjectRead check related state bytes final rest := by
  unfold readMembers at yields
  split at yields
  · exact absurd yields not_yields_error
  · rename_i first others spaced
    dsimp only at yields
    split at yields
    · rename_i closes
      obtain ⟨rfl, rfl⟩ := yields_ok_iff.mp yields
      exact .empty spaced closes
    · rename_i apart
      split at yields
      · rename_i quote
        rw [yields_widen_iff] at yields
        refine .filled spaced apart (members_of_readMembersFrom each ?_ yields)
        rintro _ ⟨⟩
        exact quote
      · exact absurd yields not_yields_error

end

section

variable {σ : Type}

inductive SlotRead (field : σ → String → Bytes → σ → Bytes → Prop) :
    σ × List String → Bytes → σ × List String → Bytes → Prop
  | mk {name : String} {names : List String} {bytes rest : Bytes} {state next : σ}
      (read : field state name bytes next rest) :
      SlotRead field (state, name :: names) bytes (next, names) rest

/-- An array of fields from behind its opening bracket. It may stop early. -/
def RowRead (field : σ → String → Bytes → σ → Bytes → Prop) (names : List String) (state : σ)
    (bytes : Bytes) (final : σ) (rest : Bytes) : Prop :=
  ∃ later, EnclosedRead .square (SlotRead field) (state, names) bytes (final, later) rest

variable {field : σ → String → (part : Bytes) → Reader σ part}
  {related : σ → String → Bytes → σ → Bytes → Prop}

theorem exists_of_readClosing {bytes rest : Bytes} {result : Unit}
    (yields : (readClosing bytes).Yields result rest) :
    ∃ closing, dropBlanks bytes = closing :: rest ∧ ascii closing = ']' := by
  unfold readClosing at yields
  split at yields
  · exact absurd yields not_yields_error
  · rename_i closing others spaced
    split at yields
    · rename_i closes
      obtain ⟨_, rfl⟩ := yields_ok_iff.mp yields
      exact ⟨closing, spaced, closes⟩
    · split at yields
      · split at yields
        · exact absurd yields not_yields_error
        · exact absurd yields not_yields_error
      · exact absurd yields not_yields_error

theorem slots_of_readSlotsFrom
    (each : ∀ state name part next rest, (field state name part).Yields next rest →
      related state name part next rest) {index : Nat} {name : String} {names : List String}
    {state final : σ} {bytes rest : Bytes}
    (yields : (readSlotsFrom field index name names state bytes).Yields final rest) :
    ∃ later,
      PartsRead .square (SlotRead related) (state, name :: names) bytes (final, later) rest := by
  have first : ∀ {index : Nat} {name : String} {names : List String} {state : σ} {bytes : Bytes}
      {next : Parsed σ bytes}, (field state name bytes).within (.index index) = .ok next →
        SlotRead related (state, name :: names) bytes (next.value, names) next.rest :=
    fun read => ⟨each _ _ _ _ _ (yields_within_iff.mp ⟨_, read, rfl, rfl⟩)⟩
  fun_induction readSlotsFrom field index name names state bytes with
  | case2 index name state bytes next after shorter read =>
      rw [yields_later_iff, yields_map_iff] at yields
      obtain ⟨_, yields, rfl⟩ := yields
      obtain ⟨closing, spaced, closes⟩ := exists_of_readClosing yields
      exact ⟨_, .last (first read) spaced closes⟩
  | case4 index name state bytes next after shorter read second names closing others spaced _
      closes =>
      obtain ⟨rfl, rfl⟩ : next = final ∧ others = rest := yields_ok_iff.mp yields
      exact ⟨_, .last (first read) spaced closes⟩
  | case7 index name state bytes next after shorter read second names comma others spaced _ _
      separates byte more separated total _ induction =>
      rw [yields_later_iff] at yields
      obtain ⟨later, others⟩ := induction yields
      exact ⟨later, .more (first read) spaced separates separated others⟩
  | _ => exact absurd yields not_yields_error

theorem row_of_readSlots
    (each : ∀ state name part next rest, (field state name part).Yields next rest →
      related state name part next rest)
    {names : List String} {state final : σ} {bytes rest : Bytes}
    (yields : (readSlots field names state bytes).Yields final rest) :
    RowRead related names state bytes final rest := by
  unfold readSlots at yields
  split at yields
  · exact absurd yields not_yields_error
  · rename_i first others spaced
    dsimp only at yields
    split at yields
    · rw [yields_widen_iff, yields_map_iff] at yields
      obtain ⟨_, yields, rfl⟩ := yields
      obtain ⟨closing, again, closes⟩ := exists_of_readClosing yields
      rw [← spaced, dropBlanks, dropBlanks, List.dropWhile_idempotent] at again
      exact ⟨_, .empty again closes⟩
    · rename_i name names
      split at yields
      · rename_i closes
        obtain ⟨rfl, rfl⟩ := yields_ok_iff.mp yields
        exact ⟨_, .empty spaced closes⟩
      · rename_i apart
        rw [yields_widen_iff] at yields
        obtain ⟨later, slots⟩ := slots_of_readSlotsFrom each yields
        exact ⟨later, .filled spaced apart slots⟩

end

section

variable {α σ : Type} {room : Nat} {bytes others rest : Bytes} {first : UInt8}

theorem readLetters_of_readWord {value result : α} {letters : List Char}
    (yields : (readWord value letters (first :: others)).Yields result rest) :
    value = result ∧ ∃ bound, readLetters letters others = .ok ⟨rest, bound⟩ := by
  unfold readWord at yields
  dsimp only at yields
  split at yields
  · rename_i read
    obtain ⟨equal, rfl⟩ := yields_ok_iff.mp yields
    exact ⟨equal, _, read⟩
  · exact absurd yields not_yields_error

theorem array_of_readValue (spaced : dropBlanks bytes = first :: others) (opens : ascii first = '[')
    {value : Json} (yields : (readValue room bytes).Yields value rest) :
    ∃ elements, value = .array elements ∧
      ArrayRead (fun part value rest => (readValue (room - 1) part).Yields value rest)
        others elements rest := by
  rw [readValue] at yields
  split at yields
  · exact absurd yields not_yields_error
  · rename_i there
    cases spaced.symm.trans there
    simp only [yields_widen_iff, opens] at yields
    split at yields
    · exact absurd yields not_yields_error
    · rw [yields_widen_iff, yields_map_iff] at yields
      obtain ⟨elements, yields, rfl⟩ := yields
      exact ⟨elements, rfl, array_of_readItems (fun _ _ _ _ _ => id) yields⟩

theorem object_of_readValue (spaced : dropBlanks bytes = first :: others)
    (opens : ascii first = '\x7b') {value : Json}
    (yields : (readValue room bytes).Yields value rest) :
    ∃ members, value = .object members ∧
      ObjectRead (fun _ _ => none) (fun members key part next rest => ∃ value,
        (readValue (room - 1) part).Yields value rest ∧ Entries.put key value members = next)
        [] others members rest := by
  rw [readValue] at yields
  split at yields
  · exact absurd yields not_yields_error
  · rename_i there
    cases spaced.symm.trans there
    simp only [yields_widen_iff, opens] at yields
    split at yields
    · exact absurd yields not_yields_error
    · rw [yields_widen_iff, yields_map_iff] at yields
      obtain ⟨members, yields, rfl⟩ := yields
      refine ⟨members, rfl, object_of_readMembers (fun _ _ _ _ _ _ read => ?_) yields⟩
      obtain ⟨value, read, equal⟩ := yields_map_iff.mp read
      exact ⟨value, yields_within_iff.mp read, equal⟩

theorem string_of_readValue (spaced : dropBlanks bytes = first :: others)
    (quote : ascii first = '"')
    {value : Json} (yields : (readValue room bytes).Yields value rest) :
    ∃ text, value = .string text ∧ (readString (first :: others)).Yields text rest := by
  rw [readValue] at yields
  split at yields
  · exact absurd yields not_yields_error
  · rename_i there
    cases spaced.symm.trans there
    simp only [yields_widen_iff, quote, yields_map_iff] at yields
    obtain ⟨text, yields, rfl⟩ := yields
    exact ⟨text, rfl, yields⟩

theorem null_of_readValue (spaced : dropBlanks bytes = first :: others)
    (initial : ascii first = 'n')
    {value : Json} (yields : (readValue room bytes).Yields value rest) :
    value = .null ∧ ∃ bound, readLetters ['u', 'l', 'l'] others = .ok ⟨rest, bound⟩ := by
  rw [readValue] at yields
  split at yields
  · exact absurd yields not_yields_error
  · rename_i there
    cases spaced.symm.trans there
    simp only [yields_widen_iff, initial] at yields
    obtain ⟨rfl, read⟩ := readLetters_of_readWord yields
    exact ⟨rfl, read⟩

theorem array_of_expectList {expected : String}
    {item : (room : Nat) → (part : Bytes) → Reader α part}
    {values : List α} (yields : (expectList room expected item bytes).Yields values rest) :
    ∃ first others, dropBlanks bytes = first :: others ∧ ascii first = '[' ∧
      ArrayRead (fun part value rest => (item (room - 1) part).Yields value rest)
        others values rest := by
  unfold expectList at yields
  split at yields
  · exact absurd yields not_yields_error
  · rename_i first others spaced
    dsimp only at yields
    split at yields
    · rename_i opens
      split at yields
      · exact absurd yields not_yields_error
      · rw [yields_later_iff] at yields
        exact ⟨first, others, spaced, opens, array_of_readItems (fun _ _ _ _ _ => id) yields⟩
    · exact absurd yields not_yields_error

theorem string_of_expectString {expected text : String}
    (yields : (expectString expected bytes).Yields text rest) :
    ∃ first others, dropBlanks bytes = first :: others ∧ ascii first = '"' ∧
      (readString (first :: others)).Yields text rest := by
  unfold expectString at yields
  split at yields
  · exact absurd yields not_yields_error
  · rename_i first others spaced
    dsimp only at yields
    split at yields
    · rename_i quote
      exact ⟨first, others, spaced, quote, yields_widen_iff.mp yields⟩
    · exact absurd yields not_yields_error

theorem exists_of_completed {format : RecordFormat σ α} {missing : String → Cause}
    {read : Reader σ bytes} {result : α}
    (yields : (completed format missing read).Yields result rest) :
    ∃ final, read.Yields final rest ∧ format.complete final = .ok result := by
  unfold completed at yields
  split at yields
  · exact absurd yields not_yields_error
  · split at yields
    · rename_i complete
      obtain ⟨rfl, rfl⟩ := yields_ok_iff.mp yields
      exact ⟨_, ⟨_, rfl, rfl, rfl⟩, complete⟩
    · exact absurd yields not_yields_error

/-- How the value of a member goes into a record: a field is read, anything else is passed over. -/
def FieldOrSkipped (format : RecordFormat σ α)
    (field : σ → String → (part : Bytes) → Reader σ part) (state : σ) (key : String) (part : Bytes)
    (next : σ) (rest : Bytes) : Prop :=
  key ∈ format.names ∧ (field state key part).Yields next rest ∨
    key ∉ format.names ∧ (skipValue part).Yields () rest ∧ next = state

def refuseAgain (format : RecordFormat σ α) (state : σ) (key : String) : Option Cause :=
  if key ∈ format.names ∧ format.isSet state key then some (.duplicateField key) else none

theorem row_or_object_of_expectRecord {format : RecordFormat σ α}
    {field : (room : Nat) → σ → String → (part : Bytes) → Reader σ part} {result : α}
    (yields : (expectRecord format field room bytes).Yields result rest) :
    ∃ first others final, dropBlanks bytes = first :: others ∧ format.complete final = .ok result ∧
      (ascii first = '[' ∧
        RowRead
          (fun state name part next rest => (field (room - 1) state name part).Yields next rest)
          format.names format.start others final rest ∨
      ascii first = '\x7b' ∧
        ObjectRead (refuseAgain format) (FieldOrSkipped format (field (room - 1)))
          format.start others final rest) := by
  unfold expectRecord at yields
  split at yields
  · exact absurd yields not_yields_error
  · rename_i first others spaced
    dsimp only at yields
    split at yields
    · rename_i opens
      split at yields
      · exact absurd yields not_yields_error
      · split at yields
        · rename_i square
          rw [yields_later_iff] at yields
          obtain ⟨final, yields, complete⟩ := exists_of_completed yields
          exact ⟨first, others, final, spaced, complete,
            .inl ⟨square, row_of_readSlots (fun _ _ _ _ _ => id) yields⟩⟩
        · rename_i other
          rw [yields_later_iff] at yields
          obtain ⟨final, yields, complete⟩ := exists_of_completed yields
          refine ⟨first, others, final, spaced, complete,
            .inr ⟨opens.resolve_left other,
                object_of_readMembers (fun _ _ _ _ _ _ read => ?_) yields⟩⟩
          rw [yields_within_iff] at read
          split at read
          · rename_i known
            exact .inl ⟨known, read⟩
          · rename_i unknown
            obtain ⟨_, skipped, rfl⟩ := yields_map_iff.mp read
            exact .inr ⟨unknown, skipped, rfl⟩
    · exact absurd yields not_yields_error

end

end FilterSynthesis.Reading
