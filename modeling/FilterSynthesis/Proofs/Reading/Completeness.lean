import FilterSynthesis.Proofs.Reading.Limits
import FilterSynthesis.Proofs.Reading.Parts

/-!
The readers of arrays and objects miss nothing: whenever the parts of a text can be followed from
one to the next, the reader comes through as well. More room for nesting never hurts. -/

namespace FilterSynthesis.Reading

open Reader (not_yields_error yields_later_iff yields_map_iff yields_ok_iff yields_widen_iff
  yields_within_iff)

section

variable {σ : Type} {bracket : Bracket} {part other : σ → Bytes → σ → Bytes → Prop}
    {state final : σ}
  {bytes rest : Bytes}

theorem PartsRead.exists_first (parts : PartsRead bracket part state bytes final rest) :
    ∃ next after, part state bytes next after := by
  cases parts with
  | last read spaced closes => exact ⟨_, _, read⟩
  | more read spaced separates separated others => exact ⟨_, _, read⟩

theorem PartsRead.mono (weakens : ∀ state bytes next rest, part state bytes next rest →
    other state bytes next rest) (parts : PartsRead bracket part state bytes final rest) :
    PartsRead bracket other state bytes final rest := by
  induction parts with
  | last read spaced closes => exact .last (weakens _ _ _ _ read) spaced closes
  | more read spaced separates separated _ others =>
      exact .more (weakens _ _ _ _ read) spaced separates separated others

theorem EnclosedRead.mono (weakens : ∀ state bytes next rest, part state bytes next rest →
    other state bytes next rest) (enclosed : EnclosedRead bracket part state bytes final rest) :
    EnclosedRead bracket other state bytes final rest := by
  cases enclosed with
  | empty spaced closes => exact .empty spaced closes
  | filled spaced apart parts => exact .filled spaced apart (parts.mono weakens)

end

section

variable {α : Type} {limit : Nat}
  {item : (index : Nat) → (part : Bytes) → part.length < limit → Reader α part}
  {related : Bytes → α → Bytes → Prop}

theorem readItemsFrom_of_parts
    (each : ∀ index part shorter value rest, related part value rest →
      (item index part shorter).Yields value rest)
    (apart : ∀ first part value rest, related (first :: part) value rest → ascii first ≠ ']')
    {bytes rest : Bytes} {before final : List α}
    (parts : PartsRead .square (ElementRead related) before bytes final rest) (index : Nat)
    (fits : bytes.length < limit) :
    ∃ values, final = before ++ values ∧
      (readItemsFrom limit item index bytes fits).Yields values rest := by
  induction parts generalizing index with
  | @last before next bytes after rest closing read spaced closes =>
      obtain ⟨value, read, rfl⟩ := read
      refine ⟨[value], rfl, ?_⟩
      obtain ⟨parsed, answer, rfl, rfl⟩ :
          ((item index bytes fits).within (.index index)).Yields value after :=
        yields_within_iff.mpr (each index bytes fits value after read)
      rw [readItemsFrom]
      simp only [answer]
      split
      · rename_i ends
        cases spaced.symm.trans ends
      · rename_i there
        cases spaced.symm.trans there
        rw [if_pos (show ascii closing = ']' from closes)]
        exact yields_ok_iff.mpr ⟨rfl, rfl⟩
  | @more before next final bytes after others following rest comma first read spaced separates
      separated parts induction =>
      obtain ⟨value, read, rfl⟩ := read
      obtain ⟨_, _, _, following, _⟩ := parts.exists_first
      have unclosed := apart _ _ _ _ following
      obtain ⟨parsed, answer, rfl, rfl⟩ :
          ((item index bytes fits).within (.index index)).Yields value after :=
        yields_within_iff.mpr (each index bytes fits value after read)
      have fewer := length_lt_of_dropBlanks_of_lt separated
        (length_rest_lt_of_dropBlanks spaced parsed.shorter)
      obtain ⟨values, rfl, yields⟩ := induction (index + 1) (fewer.trans fits)
      refine ⟨parsed.value :: values, List.append_assoc _ _ _, ?_⟩
      have comma : ascii comma ≠ ']' := by
        rw [separates]
        decide
      rw [readItemsFrom]
      simp only [answer]
      split
      · rename_i ends
        cases spaced.symm.trans ends
      · rename_i there
        cases spaced.symm.trans there
        rw [if_neg comma, if_pos separates]
        split
        · rename_i ends
          cases separated.symm.trans ends
        · rename_i there
          cases separated.symm.trans there
          rw [if_neg unclosed, yields_later_iff, yields_map_iff]
          exact ⟨values, yields, rfl⟩

theorem readItems_of_array
    (each : ∀ index part shorter value rest, related part value rest →
      (item index part shorter).Yields value rest)
    (apart : ∀ first part value rest, related (first :: part) value rest → ascii first ≠ ']')
    {bytes rest : Bytes} {values : List α} (array : ArrayRead related bytes values rest)
    (fits : bytes.length < limit) : (readItems limit item bytes fits).Yields values rest := by
  unfold readItems
  cases array with
  | empty spaced closes =>
      split
      · rename_i ends
        cases spaced.symm.trans ends
      · rename_i there
        cases spaced.symm.trans there
        dsimp only
        rw [if_pos (show ascii _ = ']' from closes)]
        exact yields_ok_iff.mpr ⟨rfl, rfl⟩
  | filled spaced unclosed parts =>
      split
      · rename_i ends
        cases spaced.symm.trans ends
      · rename_i there
        cases spaced.symm.trans there
        dsimp only
        rw [if_neg (show ascii _ ≠ ']' from unclosed), yields_widen_iff]
        obtain ⟨values, rfl, yields⟩ := readItemsFrom_of_parts each apart parts 0
          (Nat.lt_of_le_of_lt (length_le_of_dropBlanks spaced) fits)
        exact yields

end

section

variable {σ : Type} {limit : Nat} {check : σ → String → Option Cause}
  {member : σ → String → (part : Bytes) → part.length < limit → Reader σ part}
  {related : σ → String → Bytes → σ → Bytes → Prop}

theorem readMember_of_colon {member : (part : Bytes) → part.length < limit → Reader σ part}
    {bytes part rest : Bytes} {fits : bytes.length < limit} {colon : UInt8} {next : σ}
    (spaced : dropBlanks bytes = colon :: part) (separates : ascii colon = ':')
    (yields : ∀ shorter, (member part shorter).Yields next rest) :
    (readMember limit member bytes fits).Yields next rest := by
  unfold readMember
  split
  · rename_i ends
    cases spaced.symm.trans ends
  · rename_i there
    cases spaced.symm.trans there
    rw [if_pos separates, yields_later_iff]
    exact yields _

theorem quote_of_parts {state final : σ} {quote : UInt8} {others rest : Bytes}
    (parts : PartsRead .curly (MemberRead check related) state (quote :: others) final rest) :
    ascii quote = '"' := by
  obtain ⟨_, _, ⟨opens, _, _, _, _, _⟩⟩ := parts.exists_first
  exact opens

theorem readMembersFrom_of_parts
    (each : ∀ state key part shorter next rest, related state key part next rest →
      (member state key part shorter).Yields next rest) {state final : σ} {bytes rest : Bytes}
    (parts : PartsRead .curly (MemberRead check related) state bytes final rest)
    (fits : bytes.length < limit) :
    (readMembersFrom limit check member state bytes fits).Yields final rest := by
  have first : ∀ {state next : σ} {bytes after : Bytes}, bytes.length < limit →
      MemberRead check related state bytes next after →
      ∃ key : Parsed String bytes, (readString bytes).within .between = .ok key ∧
        check state key.value = none ∧
        ∀ fits, (readMember limit (member state key.value) key.rest fits).Yields next after := by
    intro state next bytes after fits read
    obtain ⟨opens, named, accepted, spaced, separates, value⟩ := read
    obtain ⟨key, answer, rfl, rfl⟩ := yields_within_iff.mpr named
    exact ⟨key, answer, accepted, fun _ => readMember_of_colon spaced separates
      fun shorter => each _ _ _ shorter _ _ value⟩
  induction parts with
  | @last state next bytes after rest closing read spaced closes =>
      obtain ⟨key, named, accepted, value⟩ := first fits read
      obtain ⟨parsed, answer, rfl, rfl⟩ := value (key.shorter.trans fits)
      rw [readMembersFrom]
      simp only [named, accepted, answer]
      split
      · rename_i ends
        cases spaced.symm.trans ends
      · rename_i there
        cases spaced.symm.trans there
        rw [if_pos (show ascii closing = '\x7d' from closes)]
        exact yields_ok_iff.mpr ⟨rfl, rfl⟩
  | @more state next final bytes after others following rest comma second read spaced separates
      separated parts induction =>
      obtain ⟨key, named, accepted, value⟩ := first fits read
      obtain ⟨parsed, answer, rfl, rfl⟩ := value (key.shorter.trans fits)
      have fewer := length_lt_of_dropBlanks_of_lt separated
        (length_rest_lt_of_dropBlanks spaced (parsed.shorter.trans key.shorter))
      have comma : ascii comma ≠ '\x7d' := by
        rw [separates]
        decide
      rw [readMembersFrom]
      simp only [named, accepted, answer]
      split
      · rename_i ends
        cases spaced.symm.trans ends
      · rename_i there
        cases spaced.symm.trans there
        rw [if_neg comma, if_pos separates]
        split
        · rename_i ends
          cases separated.symm.trans ends
        · rename_i there
          cases separated.symm.trans there
          rw [if_pos (quote_of_parts parts), yields_later_iff]
          exact induction (fewer.trans fits)

theorem readMembers_of_object
    (each : ∀ state key part shorter next rest, related state key part next rest →
      (member state key part shorter).Yields next rest) {state final : σ} {bytes rest : Bytes}
    (object : ObjectRead check related state bytes final rest) (fits : bytes.length < limit) :
    (readMembers limit check member state bytes fits).Yields final rest := by
  unfold readMembers
  cases object with
  | empty spaced closes =>
      split
      · rename_i ends
        cases spaced.symm.trans ends
      · rename_i there
        cases spaced.symm.trans there
        dsimp only
        rw [if_pos (show ascii _ = '\x7d' from closes)]
        exact yields_ok_iff.mpr ⟨rfl, rfl⟩
  | @filled others _ quote _ spaced unclosed parts =>
      split
      · rename_i ends
        cases spaced.symm.trans ends
      · rename_i there
        cases spaced.symm.trans there
        dsimp only
        rw [if_neg (show ascii quote ≠ '\x7d' from unclosed), if_pos (quote_of_parts parts),
          yields_widen_iff]
        exact readMembersFrom_of_parts each parts _

end

variable {room : Nat} {bytes others rest : Bytes} {first : UInt8}

theorem ne_closer_of_readValue {value : Json}
    (yields : (readValue room (first :: others)).Yields value rest) : ascii first ≠ ']' := by
  intro closes
  have blank : isBlank first = false := by
    rw [isBlank, closes]
    decide
  have spaced : dropBlanks (first :: others) = first :: others :=
    List.dropWhile_cons_of_neg (by simp [blank])
  rw [readValue] at yields
  split at yields
  · exact not_yields_error yields
  · rename_i there
    cases spaced.symm.trans there
    simp only [yields_widen_iff, closes] at yields
    exact not_yields_error yields

theorem readValue_of_array (spaced : dropBlanks bytes = first :: others) (opens : ascii first = '[')
    {elements : List Json}
    (array : ArrayRead (fun part value rest => (readValue room part).Yields value rest)
      others elements rest) : (readValue (room + 1) bytes).Yields (.array elements) rest := by
  rw [readValue]
  split
  · rename_i ends
    cases spaced.symm.trans ends
  · rename_i there
    cases spaced.symm.trans there
    simp only [yields_widen_iff, opens]
    rw [if_neg (Nat.succ_ne_zero room), yields_widen_iff, yields_map_iff]
    exact ⟨elements, readItems_of_array (fun _ _ _ _ _ => id)
      (fun _ _ _ _ => ne_closer_of_readValue) array _, rfl⟩

theorem readValue_of_object (spaced : dropBlanks bytes = first :: others)
    (opens : ascii first = '\x7b') {members : List (String × Json)}
    (object : ObjectRead (fun _ _ => none) (fun members key part next rest => ∃ value,
      (readValue room part).Yields value rest ∧ Entries.put key value members = next)
      [] others members rest) : (readValue (room + 1) bytes).Yields (.object members) rest := by
  rw [readValue]
  split
  · rename_i ends
    cases spaced.symm.trans ends
  · rename_i there
    cases spaced.symm.trans there
    simp only [yields_widen_iff, opens]
    rw [if_neg (Nat.succ_ne_zero room), yields_widen_iff, yields_map_iff]
    refine ⟨members, readMembers_of_object (fun _ _ _ _ _ _ read => ?_) object _, rfl⟩
    obtain ⟨value, yields, rfl⟩ := read
    exact yields_map_iff.mpr ⟨value, yields_within_iff.mpr yields, rfl⟩

theorem readValue_of_string (spaced : dropBlanks bytes = first :: others)
    (quote : ascii first = '"')
    {text : String} (read : (readString (first :: others)).Yields text rest) (room : Nat) :
    (readValue room bytes).Yields (.string text) rest := by
  rw [readValue]
  split
  · rename_i ends
    cases spaced.symm.trans ends
  · rename_i there
    cases spaced.symm.trans there
    simp only [yields_widen_iff, quote, yields_map_iff]
    exact ⟨text, read, rfl⟩

theorem readValue_of_number (spaced : dropBlanks bytes = first :: others)
    (starts : ascii first = '-' ∨ (ascii first).isDigit) {number : Number}
    (read : (readNumber (first :: others)).Yields number rest) (room : Nat) :
    (readValue room bytes).Yields (.number number) rest := by
  rw [readValue]
  split
  · rename_i ends
    cases spaced.symm.trans ends
  · rename_i there
    cases spaced.symm.trans there
    rw [yields_widen_iff]
    split
    case h_7 =>
      rw [if_pos starts, yields_map_iff]
      exact ⟨number, read, rfl⟩
    all_goals
      rename_i letter
      rw [letter] at starts
      exact absurd starts (by decide)

theorem readValue_of_scalar (spaced : dropBlanks bytes = first :: others)
    (scalar : ascii first ≠ '[' ∧ ascii first ≠ '\x7b') (more : Nat) :
    readValue room bytes = readValue more bytes := by
  rw [readValue, readValue]
  split
  · rfl
  · rename_i there
    cases spaced.symm.trans there
    dsimp only
    congr 1
    split
    case h_5 => exact absurd ‹ascii first = '['› scalar.1
    case h_6 => exact absurd ‹ascii first = '\x7b'› scalar.2
    all_goals rfl

theorem shallow_of_readValue {value : Json} (yields : (readValue room bytes).Yields value rest) :
    value.depth ≤ room := by
  obtain ⟨parsed, answer, rfl, _⟩ := yields
  exact (ensures_readValue room bytes parsed answer).shallow

theorem readValue_more_room {value : Json} (yields : (readValue room bytes).Yields value rest)
    {more : Nat} (enough : room ≤ more) : (readValue more bytes).Yields value rest := by
  induction room using Nat.strongRecOn generalizing bytes value rest more with
  | ind room induction =>
      have shallow := shallow_of_readValue yields
      cases spaced : dropBlanks bytes with
      | nil =>
          rw [readValue] at yields
          split at yields
          · exact absurd yields not_yields_error
          · rename_i there
            cases spaced.symm.trans there
      | cons first others =>
          by_cases square : ascii first = '['
          · obtain ⟨elements, rfl, array⟩ := array_of_readValue spaced square yields
            simp only [Json.depth] at shallow
            obtain ⟨more, rfl⟩ : ∃ less, more = less + 1 := ⟨more - 1, by omega⟩
            refine readValue_of_array spaced square (array.mono ?_)
            rintro _ _ _ _ ⟨element, read, rfl⟩
            exact ⟨element, induction (room - 1) (by omega) read (by omega), rfl⟩
          · by_cases curly : ascii first = '\x7b'
            · obtain ⟨members, rfl, object⟩ := object_of_readValue spaced curly yields
              simp only [Json.depth] at shallow
              obtain ⟨more, rfl⟩ : ∃ less, more = less + 1 := ⟨more - 1, by omega⟩
              refine readValue_of_object spaced curly (object.mono ?_)
              rintro _ _ _ _ ⟨opens, named, accepted, spaced, separates, value, read, rfl⟩
              exact ⟨opens, named, accepted, spaced, separates, value,
                induction (room - 1) (by omega) read (by omega), rfl⟩
            · rwa [← readValue_of_scalar spaced ⟨square, curly⟩ more]

end FilterSynthesis.Reading
