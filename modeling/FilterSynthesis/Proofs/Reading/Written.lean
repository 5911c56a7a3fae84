import FilterSynthesis.Filter.Evaluation
import FilterSynthesis.Proofs.Json.Handover
import FilterSynthesis.Proofs.Reading.Completeness
import FilterSynthesis.Proofs.Reading.Scalars

namespace FilterSynthesis

/-- The values that JSON text spells: the keys of an object differ, and integers fit 64 bits. -/
inductive Json.IsSpelled : Json → Prop
  | null : IsSpelled .null
  | bool (value : Bool) : IsSpelled (.bool value)
  | int {value : Int} (word : Number.IsWord value) : IsSpelled (.number (.int value))
  | float (value : Double) : IsSpelled (.number (.float value))
  | string (value : String) : IsSpelled (.string value)
  | array {elements : List Json} (each : ∀ element ∈ elements, IsSpelled element) :
      IsSpelled (.array elements)
  | object {members : List (String × Json)} (keys : (Entries.keys members).Nodup)
      (each : ∀ member ∈ members, IsSpelled member.2) : IsSpelled (.object members)

namespace Reading

open Reader (not_yields_error yields_behind_iff yields_widen_iff)

def Begins (bytes : Bytes) : Prop := ∃ first others, bytes = first :: others ∧ isBlank first = false

theorem Begins.exists_dropBlanks {bytes : Bytes} (begins : Begins bytes) :
    ∃ first others, bytes = first :: others ∧ dropBlanks bytes = first :: others := by
  obtain ⟨first, others, rfl, blank⟩ := begins
  exact ⟨first, others, rfl, List.dropWhile_cons_of_neg (by simp [blank])⟩

variable {room : Nat} {bytes rest : Bytes}

theorem start_of_readNumber {number : Number} (yields : (readNumber bytes).Yields number rest) :
    ∃ first others, bytes = first :: others ∧ (ascii first = '-' ∨ (ascii first).isDigit) := by
  cases bytes with
  | nil => exact absurd yields not_yields_error
  | cons first others =>
      refine ⟨first, others, rfl, or_iff_not_imp_left.mpr fun unsigned => ?_⟩
      rw [readNumber, if_neg unsigned] at yields
      cases digit : digit? first with
      | none =>
          unfold readUnsigned at yields
          simp only [digit] at yields
          exact absurd yields not_yields_error
      | some value =>
          unfold digit? at digit
          split at digit
          · assumption
          · cases digit

theorem not_blank_of_number {first : UInt8} (starts : ascii first = '-' ∨ (ascii first).isDigit) :
    isBlank first = false := by
  unfold isBlank
  rcases starts with minus | digit
  · rw [minus]
    decide
  · have bounds := toNat_of_isDigit digit
    have apart : ∀ char : Char, char.toNat < 48 → (ascii first == char) = false := by
      intro char low
      rw [beq_eq_false_iff_ne]
      rintro rfl
      omega
    rw [apart ' ' (by decide), apart '\n' (by decide), apart '\t' (by decide),
      apart '\r' (by decide)]
    rfl

structure ReadsBack (room : Nat) (chars : List Char) (back : Json) (rest : Bytes) : Prop where
  begins : Begins (Utf8.encodeChars chars ++ rest)
  yields : (readValue room (Utf8.encodeChars chars ++ rest)).Yields back rest

theorem readsBack_number {chars : List Char} (low : ∀ char ∈ chars, char.toNat < 0x80)
    {number : Number} (read : numberOf? chars = some number) (ends : EndsNumber rest) (room : Nat) :
    ReadsBack room chars (.number number) rest := by
  have following := readNumber_append ends (numberOf?_eq_some_iff.mp read)
  obtain ⟨first, others, equal, starts⟩ := start_of_readNumber following
  have begins : Begins (octets chars ++ rest) := ⟨first, others, equal, not_blank_of_number starts⟩
  obtain ⟨byte, bytes, again, spaced⟩ := begins.exists_dropBlanks
  cases again.symm.trans equal
  rw [← encodeChars_of_ascii low] at following begins spaced equal
  rw [equal] at following
  exact ⟨begins, readValue_of_number spaced starts following room⟩

theorem readsBack_string (text : String) (rest : Bytes) (room : Nat) :
    ReadsBack room (quoted text) (.string text) rest := by
  have read := readString_quoted text rest
  have quote : isBlank '"'.toNat.toUInt8 = false := by decide
  exact ⟨⟨_, _, rfl, quote⟩, readValue_of_string rfl (by decide) read room⟩

theorem readsBack_word {value : Json}
    (word : value = .null ∨ value = .bool false ∨ value = .bool true) (rest : Bytes) (room : Nat) :
    ReadsBack room value.chars value rest := by
  rcases word with rfl | rfl | rfl
  all_goals
    refine ⟨⟨_, _, rfl, by decide⟩, ?_⟩
    rw [readValue]
    split
    · rename_i ends
      cases ends
    · rename_i there
      cases there
      exact yields_widen_iff.mpr ⟨_, rfl, rfl, rfl⟩

/-- The value is read back from its text, whatever follows. -/
def IsReadBack (room : Nat) (value : Json) : Prop :=
  ∀ rest, EndsNumber rest → ∃ back, value.reread? = some back ∧ ReadsBack room value.chars back rest

theorem parts_of_elements {first : Json} {others : List Json}
    (each : ∀ element ∈ first :: others, IsReadBack room element) (before : List Json)
    (rest : Bytes) :
    ∃ values, Json.rereadElements? (first :: others) = some values ∧
      Begins (Utf8.encodeChars (Json.charsOfElements (first :: others)) ++
        ']'.toNat.toUInt8 :: rest) ∧
      PartsRead .square (ElementRead fun part value rest => (readValue room part).Yields value rest)
        before (Utf8.encodeChars (Json.charsOfElements (first :: others)) ++
          ']'.toNat.toUInt8 :: rest) (before ++ values) rest := by
  induction others generalizing first before with
  | nil =>
      obtain ⟨back, reread, reads⟩ := each first List.mem_cons_self (']'.toNat.toUInt8 :: rest)
        (by rintro _ ⟨⟩; decide)
      refine ⟨[back], by simp [Json.rereadElements?, reread], reads.begins, ?_⟩
      exact .last ⟨back, reads.yields, rfl⟩ rfl (by decide)
  | cons second others induction =>
      obtain ⟨here, later⟩ := List.forall_mem_cons.mp each
      obtain ⟨back, reread, reads⟩ := here (','.toNat.toUInt8 ::
        (Utf8.encodeChars (Json.charsOfElements (second :: others)) ++ ']'.toNat.toUInt8 :: rest))
        (by rintro _ ⟨⟩; decide)
      obtain ⟨values, following, begins, parts⟩ := induction later (before ++ [back])
      obtain ⟨byte, bytes, equal, separated⟩ := begins.exists_dropBlanks
      have text : Utf8.encodeChars (Json.charsOfElements (first :: second :: others)) ++
          ']'.toNat.toUInt8 :: rest = Utf8.encodeChars first.chars ++ ','.toNat.toUInt8 ::
            (Utf8.encodeChars (Json.charsOfElements (second :: others)) ++
              ']'.toNat.toUInt8 :: rest) := by
        rw [Json.charsOfElements, Utf8.encodeChars_append, List.append_assoc]
        · rfl
        · exact nofun
      rw [text]
      refine ⟨back :: values, by rw [Json.rereadElements?, reread, following], reads.begins, ?_⟩
      rw [List.append_assoc, List.singleton_append] at parts
      exact .more ⟨back, reads.yields, rfl⟩ rfl (by decide) separated (equal ▸ parts)

theorem isReadBack_array {elements : List Json}
    (each : ∀ element ∈ elements, IsReadBack room element) :
    IsReadBack (room + 1) (.array elements) := by
  intro rest _
  cases elements with
  | nil => exact ⟨.array [], rfl, ⟨_, _, rfl, by decide⟩,
      readValue_of_array rfl (by decide) (.empty rfl (by decide))⟩
  | cons first others =>
      obtain ⟨values, reread, begins, parts⟩ := parts_of_elements each [] rest
      obtain ⟨byte, bytes, equal, spaced⟩ := begins.exists_dropBlanks
      have text : Utf8.encodeChars (Json.array (first :: others)).chars ++ rest =
          '['.toNat.toUInt8 :: (Utf8.encodeChars (Json.charsOfElements (first :: others)) ++
            ']'.toNat.toUInt8 :: rest) := by
        rw [Json.chars, Utf8.encodeChars_cons, Utf8.encodeChars_append, List.append_assoc,
          List.append_assoc]
        rfl
      refine ⟨.array values, by rw [Json.reread?, reread, Option.map_some], ?_⟩
      rw [equal] at parts
      obtain ⟨_, _, element, read, _⟩ := parts.exists_first
      have apart := ne_closer_of_readValue read
      constructor
      · rw [text]
        exact ⟨_, _, rfl, by decide⟩
      · rw [text]
        exact readValue_of_array rfl (by decide) (.filled spaced apart parts)

abbrev MemberPut (room : Nat) : List (String × Json) → Bytes → List (String × Json) → Bytes →
    Prop :=
  MemberRead (fun _ _ => none) fun members key part next rest => ∃ value,
    (readValue room part).Yields value rest ∧ Entries.put key value members = next

theorem memberPut {key : String} {before : List (String × Json)} (fresh : key ∉ Entries.keys before)
    {chars : List Char} {back : Json} (reads : ReadsBack room chars back rest) :
    MemberPut room before (Utf8.encodeChars (quoted key ++ ':' :: chars) ++ rest)
      (before ++ [(key, back)]) rest := by
  have named := readString_quoted key (':'.toNat.toUInt8 :: (Utf8.encodeChars chars ++ rest))
  rw [Utf8.encodeChars_append, List.append_assoc]
  exact ⟨by decide, named, rfl, rfl, by decide, back, reads.yields,
    Entries.put_of_notMem fresh back⟩

theorem fresh_of_nodup {before others : List (String × Json)} {member : String × Json}
    (distinct : (Entries.keys (before ++ member :: others)).Nodup) :
    member.1 ∉ Entries.keys before := by
  intro listed
  have apart := (List.nodup_append.mp (by simpa [Entries.keys] using distinct)).2.2
  exact apart member.1 listed member.1 List.mem_cons_self rfl

theorem parts_of_members {first : String × Json} {others : List (String × Json)}
    (each : ∀ member ∈ first :: others, IsReadBack room member.2) {before : List (String × Json)}
    (distinct : (Entries.keys (before ++ first :: others)).Nodup) (rest : Bytes) :
    ∃ values, Json.rereadMembers? (first :: others) = some values ∧
      Begins (Utf8.encodeChars (Json.charsOfMembers (first :: others)) ++
        '\x7d'.toNat.toUInt8 :: rest) ∧
      PartsRead .curly (MemberPut room) before
        (Utf8.encodeChars (Json.charsOfMembers (first :: others)) ++ '\x7d'.toNat.toUInt8 :: rest)
        (before ++ values) rest := by
  induction others generalizing first before with
  | nil =>
      obtain ⟨key, value⟩ := first
      obtain ⟨back, reread, reads⟩ := each (key, value) List.mem_cons_self
        ('\x7d'.toNat.toUInt8 :: rest) (by rintro _ ⟨⟩; decide)
      have fresh := fresh_of_nodup distinct
      refine ⟨[(key, back)], by simp [Json.rereadMembers?, reread], ⟨_, _, rfl, by decide⟩, ?_⟩
      exact .last (memberPut fresh reads) rfl (by decide)
  | cons second others induction =>
      obtain ⟨key, value⟩ := first
      obtain ⟨here, later⟩ := List.forall_mem_cons.mp each
      obtain ⟨back, reread, reads⟩ := here (','.toNat.toUInt8 ::
        (Utf8.encodeChars (Json.charsOfMembers (second :: others)) ++ '\x7d'.toNat.toUInt8 :: rest))
        (by rintro _ ⟨⟩; decide)
      have fresh := fresh_of_nodup distinct
      have apart : (Entries.keys (before ++ [(key, back)] ++ second :: others)).Nodup := by
        simpa [Entries.keys] using distinct
      obtain ⟨values, following, begins, parts⟩ := induction later apart
      obtain ⟨byte, bytes, equal, separated⟩ := begins.exists_dropBlanks
      have text : Utf8.encodeChars (Json.charsOfMembers ((key, value) :: second :: others)) ++
          '\x7d'.toNat.toUInt8 :: rest =
            Utf8.encodeChars (quoted key ++ ':' :: value.chars) ++ ','.toNat.toUInt8 ::
              (Utf8.encodeChars (Json.charsOfMembers (second :: others)) ++
                '\x7d'.toNat.toUInt8 :: rest) := by
        rw [Json.charsOfMembers, ← List.cons_append, ← List.append_assoc, Utf8.encodeChars_append,
          List.append_assoc]
        · rfl
        · exact List.cons_ne_nil _ _
      rw [text]
      refine ⟨(key, back) :: values, by rw [Json.rereadMembers?, reread, following],
        ⟨_, _, rfl, by decide⟩, ?_⟩
      rw [List.append_assoc, List.singleton_append] at parts
      exact .more (memberPut fresh reads) rfl (by decide) separated (equal ▸ parts)

theorem isReadBack_object {members : List (String × Json)}
    (keys : (Entries.keys members).Nodup) (each : ∀ member ∈ members, IsReadBack room member.2) :
    IsReadBack (room + 1) (.object members) := by
  intro rest _
  cases members with
  | nil => exact ⟨.object [], rfl, ⟨_, _, rfl, by decide⟩,
      readValue_of_object rfl (by decide) (.empty rfl (by decide))⟩
  | cons first others =>
      have distinct : (Entries.keys ([] ++ first :: others)).Nodup := keys
      obtain ⟨values, reread, begins, parts⟩ := parts_of_members each distinct rest
      obtain ⟨byte, bytes, equal, spaced⟩ := begins.exists_dropBlanks
      have text : Utf8.encodeChars (Json.object (first :: others)).chars ++ rest =
          '\x7b'.toNat.toUInt8 :: (Utf8.encodeChars (Json.charsOfMembers (first :: others)) ++
            '\x7d'.toNat.toUInt8 :: rest) := by
        rw [Json.chars, Utf8.encodeChars_cons, Utf8.encodeChars_append, List.append_assoc,
          List.append_assoc]
        rfl
      refine ⟨.object values, by rw [Json.reread?, reread, Option.map_some], ?_⟩
      rw [equal] at parts
      have apart : ascii byte ≠ '\x7d' := by
        obtain ⟨_, _, ⟨opens, _, _, _, _, _⟩⟩ := parts.exists_first
        rw [opens]
        decide
      constructor
      · rw [text]
        exact ⟨_, _, rfl, by decide⟩
      · rw [text]
        exact readValue_of_object rfl (by decide) (.filled spaced apart parts)

theorem isReadBack_of_isSpelled {value : Json} (spelled : value.IsSpelled)
    (shallow : value.depth ≤ room) : IsReadBack room value := by
  induction spelled generalizing room with
  | null => exact fun rest _ => ⟨.null, rfl, readsBack_word (.inl rfl) rest room⟩
  | bool value =>
      exact fun rest _ => ⟨.bool value, rfl, readsBack_word (by cases value <;> simp) rest room⟩
  | string value => exact fun rest _ => ⟨.string value, rfl, readsBack_string value rest room⟩
  | @int value word =>
      exact fun rest ends => ⟨.number (.int value), rfl,
        readsBack_number (ascii_integerChars value) (numberOf?_integerChars word) ends room⟩
  | float value =>
      intro rest ends
      by_cases finite : value.isFinite = true
      · obtain ⟨back, read⟩ := numberOf?_text finite
        refine ⟨.number (.float back), by simp [Json.reread?, Number.reread?, finite, read], ?_⟩
        rw [Json.chars, Number.chars, if_pos finite]
        exact readsBack_number (ascii_text value) read ends room
      · refine ⟨.null, by simp [Json.reread?, Number.reread?, finite], ?_⟩
        rw [Json.chars, Number.chars, if_neg finite]
        exact readsBack_word (.inl rfl) rest room
  | array each readBack =>
      obtain ⟨room, rfl⟩ : ∃ less, room = less + 1 :=
        ⟨room - 1, by simp only [Json.depth] at shallow; omega⟩
      exact isReadBack_array fun element member =>
        readBack element member (Json.depth_array_le_iff.mp shallow element member)
  | object keys each readBack =>
      simp only [Json.depth] at shallow
      obtain ⟨room, rfl⟩ : ∃ less, room = less + 1 := ⟨room - 1, by omega⟩
      refine isReadBack_object keys fun member listed => readBack member listed ?_
      exact Json.depthOfMembers_le_iff.mp (Nat.le_of_succ_le_succ shallow) member listed

end Reading

/-- Handing a value on is writing its text and reading that. -/
theorem Json.IsSpelled.readWhole_text {value : Json} (spelled : value.IsSpelled) :
    (Reading.readWhole (Utf8.encode value.text)).toOption = value.handedOn? := by
  have text : Utf8.encode value.text = Utf8.encodeChars value.chars ++ [] := by
    rw [Utf8.encode_eq, Json.text, String.toList_ofList, List.append_nil]
  obtain ⟨back, reread, reads⟩ :=
    Reading.isReadBack_of_isSpelled spelled (Nat.le_refl value.depth) [] nofun
  have written := reads.yields
  rw [← text] at written
  generalize Utf8.encode value.text = bytes at written
  unfold Reading.readWhole
  by_cases deep : outputNesting < value.depth
  · rw [handedOn?, if_pos deep]
    cases read : Reading.readValue Reading.nestingLimit bytes with
    | error fault => rfl
    | ok parsed =>
        have yields :
            (Reading.readValue Reading.nestingLimit bytes).Yields parsed.value parsed.rest :=
          ⟨parsed, read, rfl, rfl⟩
        obtain ⟨equal, _⟩ := (Reading.readValue_more_room yields (Nat.le_of_lt deep)).unique written
        have shallow := Reading.shallow_of_readValue yields
        rw [equal, Json.depth_of_reread? value reread] at shallow
        exact absurd deep (Nat.not_lt.mpr shallow)
  · rw [handedOn?, if_neg deep, reread]
    obtain ⟨⟨value, rest, _⟩, answer, rfl, rfl⟩ :
        (Reading.readValue Reading.nestingLimit bytes).Yields back [] :=
      Reading.readValue_more_room written (Nat.not_lt.mp deep)
    rw [answer]
    rfl

end FilterSynthesis
