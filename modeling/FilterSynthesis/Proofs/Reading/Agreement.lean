import FilterSynthesis.Proofs.Reading.Fields
import FilterSynthesis.Proofs.Reading.Skip
import Mathlib.Data.List.Forall2

/-!
Reading a record and reading a value. Where both can be done with the same bytes, they leave the
same bytes, and decoding the value gives what reading the record gave: unknown members are passed
over as they are read, and no known one comes again, so that a later value never takes the place of
a field. -/

namespace FilterSynthesis.Reading

variable {α β σ τ : Type}

/-! Parts of one text. What two readers of the parts keep in step, they have kept in step in the
end. -/

section

variable {bracket : Bracket} {part : σ → Bytes → σ → Bytes → Prop}
  {other : τ → Bytes → τ → Bytes → Prop} {kept : σ → τ → Prop}
  (each : ∀ left right bytes next rest following behind, kept left right →
    part left bytes next rest → other right bytes following behind →
    rest = behind ∧ kept next following)

include each

theorem PartsRead.agree {bytes rest behind : Bytes} {left final : σ} {right result : τ}
    (start : kept left right) (one : PartsRead bracket part left bytes final rest)
    (two : PartsRead bracket other right bytes result behind) :
    rest = behind ∧ kept final result := by
  have separate : bracket.closer ≠ ',' := by cases bracket <;> decide
  induction one generalizing right with
  | last read spaced closes =>
      cases two with
      | last again there _ =>
          obtain ⟨rfl, here⟩ := each _ _ _ _ _ _ _ start read again
          cases spaced.symm.trans there
          exact ⟨rfl, here⟩
      | more again there separates _ _ =>
          obtain ⟨rfl, _⟩ := each _ _ _ _ _ _ _ start read again
          cases spaced.symm.trans there
          exact absurd (closes.symm.trans separates) separate
  | more read spaced separates separated _ induction =>
      cases two with
      | last again there closes =>
          obtain ⟨rfl, _⟩ := each _ _ _ _ _ _ _ start read again
          cases spaced.symm.trans there
          exact absurd (closes.symm.trans separates) separate
      | more again there _ found others =>
          obtain ⟨rfl, here⟩ := each _ _ _ _ _ _ _ start read again
          cases spaced.symm.trans there
          cases separated.symm.trans found
          exact induction here others

theorem EnclosedRead.agree {bytes rest behind : Bytes} {left final : σ} {right result : τ}
    (start : kept left right) (one : EnclosedRead bracket part left bytes final rest)
    (two : EnclosedRead bracket other right bytes result behind) :
    rest = behind ∧ kept final result := by
  cases one with
  | empty spaced closes =>
      cases two with
      | empty there _ =>
          cases spaced.symm.trans there
          exact ⟨rfl, start⟩
      | filled there apart _ =>
          cases spaced.symm.trans there
          exact absurd closes apart
  | filled spaced apart parts =>
      cases two with
      | empty there closes =>
          cases spaced.symm.trans there
          exact absurd closes apart
      | filled there _ others =>
          cases spaced.symm.trans there
          exact parts.agree each start others

end

theorem arrays_agree {item : Bytes → α → Bytes → Prop} {other : Bytes → β → Bytes → Prop}
    {related : α → β → Prop}
    (each : ∀ part value rest right behind, item part value rest → other part right behind →
      rest = behind ∧ related value right)
    {bytes rest behind : Bytes} {values : List α} {rights : List β}
    (one : ArrayRead item bytes values rest) (two : ArrayRead other bytes rights behind) :
    rest = behind ∧ List.Forall₂ related values rights := by
  refine EnclosedRead.agree ?_ List.Forall₂.nil one two
  rintro before among part _ rest _ behind kept ⟨value, read, rfl⟩ ⟨right, again, rfl⟩
  obtain ⟨rfl, here⟩ := each _ _ _ _ _ read again
  exact ⟨rfl, List.rel_append kept (.cons here .nil)⟩

theorem objects_agree {check : σ → String → Option Cause} {refuse : τ → String → Option Cause}
    {member : σ → String → Bytes → σ → Bytes → Prop} {other : τ → String → Bytes → τ → Bytes → Prop}
    {kept : σ → τ → Prop}
    (each : ∀ left right key part next rest following behind, kept left right →
      check left key = none → member left key part next rest →
      other right key part following behind → rest = behind ∧ kept next following)
    {bytes rest behind : Bytes} {left final : σ} {right result : τ} (start : kept left right)
    (one : ObjectRead check member left bytes final rest)
    (two : ObjectRead refuse other right bytes result behind) :
    rest = behind ∧ kept final result := by
  refine EnclosedRead.agree ?_ start one two
  rintro left right bytes next rest following behind kept
    ⟨_, named, accepted, spaced, _, value⟩ ⟨_, again, _, there, _, others⟩
  obtain ⟨rfl, rfl⟩ := named.unique again
  cases spaced.symm.trans there
  exact each _ _ _ _ _ _ _ _ kept accepted value others

/-- The elements so far are decoded to the fields so far, and the later fields are still to come. -/
structure Lined (decode : σ → String → Json → Except (Fault Unit) σ) (names : List String)
    (start : σ) (gathered : σ × List String) (values : List Json) : Prop where
  decoded : RecordFormat.ofElements decode 0 names start values = .ok gathered.1
  remaining : names.drop values.length = gathered.2
  few : values.length ≤ names.length

theorem Lined.concat {decode : σ → String → Json → Except (Fault Unit) σ}
    {names later : List String}
    {start state next : σ} {name : String} {values : List Json} {value : Json}
    (lined : Lined decode names start (state, name :: later) values)
    (read : decode state name value = .ok next) :
    Lined decode names start (next, later) (values ++ [value]) where
  decoded := RecordFormat.ofElements_concat lined.decoded lined.remaining read
  remaining := by
    rw [List.length_append, List.length_singleton, ← List.tail_drop, lined.remaining,
      List.tail_cons]
  few := by
    have lengths := congrArg List.length lined.remaining
    rw [List.length_drop, List.length_cons] at lengths
    rw [List.length_append, List.length_singleton]
    omega

theorem rows_agree {decode : σ → String → Json → Except (Fault Unit) σ}
    {field : σ → String → Bytes → σ → Bytes → Prop} {item : Bytes → Json → Bytes → Prop}
    (each : ∀ state name part next rest value behind, field state name part next rest →
      item part value behind → rest = behind ∧ decode state name value = .ok next)
    {names : List String} {state final : σ} {bytes rest behind : Bytes} {values : List Json}
    (one : RowRead field names state bytes final rest)
    (two : ArrayRead item bytes values behind) :
    rest = behind ∧ RecordFormat.ofElements decode 0 names state values = .ok final ∧
      values.length ≤ names.length := by
  obtain ⟨later, one⟩ := one
  have start : Lined decode names state (state, names) [] :=
    ⟨RecordFormat.ofElements_nil _ _ _, rfl, Nat.zero_le _⟩
  have step : ∀ gathered values bytes next rest following behind,
      Lined decode names state gathered values → SlotRead field gathered bytes next rest →
      ElementRead item values bytes following behind →
        rest = behind ∧ Lined decode names state next following := by
    rintro _ values part _ rest _ behind lined ⟨read⟩ ⟨value, again, rfl⟩
    obtain ⟨rfl, here⟩ := each _ _ _ _ _ _ _ read again
    exact ⟨rfl, lined.concat here⟩
  obtain ⟨rfl, lined⟩ := one.agree step start two
  exact ⟨rfl, lined.decoded, lined.few⟩

structure Marks (format : RecordFormat σ α) (decode : σ → String → Json → Except (Fault Unit) σ) :
    Prop where
  set : ∀ {state name value next}, name ∈ format.names → decode state name value = .ok next →
    format.isSet next name = true
  kept : ∀ {state name other value next}, name ∈ format.names → other ∈ format.names →
    format.isSet state other = true → decode state name value = .ok next →
    format.isSet next other = true

theorem marks_of_holds {format : RecordFormat σ α}
    {decode : σ → String → Json → Except (Fault Unit) σ}
    (each : ∀ name ∈ format.names, ∃ (γ : Type) (part : Json → Except (Fault Unit) γ)
      (held : σ → Option γ), RecordFormat.Holds format decode name part held ∧
        ∀ state, format.isSet state name = (held state).isSome) : Marks format decode where
  set known read := by
    obtain ⟨_, _, held, holds, marks⟩ := each _ known
    obtain ⟨_, _, found⟩ := holds.here read
    rw [marks, found]
    rfl
  kept := by
    intro state name other value next known listed set read
    obtain ⟨_, _, held, holds, marks⟩ := each other listed
    rw [marks] at set ⊢
    by_cases same : name = other
    · subst same
      obtain ⟨_, _, found⟩ := holds.here read
      rw [found]
      rfl
    · rwa [holds.there known same read]

/-- What has been read of a record is what decoding the members so far gives, and no field among
them goes unnoticed. -/
structure Gathered (format : RecordFormat σ α)
    (decode : σ → String → Json → Except (Fault Unit) σ) (state : σ)
    (members : List (String × Json)) : Prop where
  decoded : format.ofMembers decode format.start members = .ok state
  marked : ∀ name ∈ format.names, name ∈ Entries.keys members → format.isSet state name = true

section

variable {format : RecordFormat σ α} {decode : σ → String → Json → Except (Fault Unit) σ}
  {state next : σ} {members : List (String × Json)} {key : String} {value : Json}

theorem Gathered.start : Gathered format decode format.start [] := ⟨rfl, nofun⟩

theorem Gathered.put_field (gathered : Gathered format decode state members)
    (marks : Marks format decode) (known : key ∈ format.names)
    (fresh : ¬ format.isSet state key = true) (read : decode state key value = .ok next) :
    Gathered format decode next (Entries.put key value members) := by
  have absent : key ∉ Entries.keys members := fun listed => fresh (gathered.marked key known listed)
  constructor
  · rw [Entries.put_of_notMem absent]
    exact RecordFormat.ofMembers_concat gathered.decoded known read
  · intro name listed found
    rw [Entries.keys_put, if_neg absent, List.mem_append, List.mem_singleton] at found
    rcases found with found | rfl
    · exact marks.kept known listed (gathered.marked name listed found) read
    · exact marks.set known read

theorem Gathered.put_other (gathered : Gathered format decode state members)
    (unknown : key ∉ format.names) :
    Gathered format decode state (Entries.put key value members) := by
  constructor
  · rw [RecordFormat.ofMembers_put unknown]
    exact gathered.decoded
  · intro name listed found
    refine gathered.marked name listed ?_
    rw [Entries.keys_put] at found
    split at found
    · exact found
    · rcases List.mem_append.mp found with found | last
      · exact found
      · rw [List.mem_singleton.mp last] at listed
        exact absurd listed unknown

end

theorem expectRecord_agrees {format : RecordFormat σ α}
    {decode : σ → String → Json → Except (Fault Unit) σ} (marks : Marks format decode)
    {field : (room : Nat) → σ → String → (part : Bytes) → Reader σ part} {room : Nat}
    (each : ∀ state name part next rest value behind,
      (field (room - 1) state name part).Yields next rest →
      (readValue (room - 1) part).Yields value behind →
        rest = behind ∧ decode state name value = .ok next)
    {bytes rest behind : Bytes} {result : α} {value : Json}
    (one : (expectRecord format field room bytes).Yields result rest)
    (two : (readValue room bytes).Yields value behind) :
    rest = behind ∧ format.ofJson decode value = .ok result := by
  obtain ⟨first, others, final, spaced, complete, ⟨opens, read⟩ | ⟨opens, read⟩⟩ :=
    row_or_object_of_expectRecord one
  · obtain ⟨elements, rfl, again⟩ := array_of_readValue spaced opens two
    obtain ⟨rfl, decoded, few⟩ := rows_agree each read again
    refine ⟨rfl, ?_⟩
    rw [RecordFormat.ofJson, decoded]
    dsimp only
    rw [complete]
    exact if_neg (Nat.not_lt_of_le few)
  · obtain ⟨members, rfl, again⟩ := object_of_readValue spaced opens two
    have step : ∀ state members key part next rest following behind,
        Gathered format decode state members → refuseAgain format state key = none →
        FieldOrSkipped format (field (room - 1)) state key part next rest →
        (∃ value, (readValue (room - 1) part).Yields value behind ∧
          Entries.put key value members = following) →
        rest = behind ∧ Gathered format decode next following := by
      intro state members key part next rest following behind gathered accepted read again
      obtain ⟨value, again, rfl⟩ := again
      rcases read with ⟨known, read⟩ | ⟨unknown, skipped, rfl⟩
      · obtain ⟨rfl, decoded⟩ := each _ _ _ _ _ _ _ read again
        have fresh : ¬ format.isSet state key = true := by
          intro set
          rw [refuseAgain, if_pos ⟨known, set⟩] at accepted
          cases accepted
        exact ⟨rfl, gathered.put_field marks known fresh decoded⟩
      · have same := (skips_skipValue skipped).unique (skips_readValue again)
        exact ⟨same, gathered.put_other unknown⟩
    obtain ⟨rfl, gathered⟩ := objects_agree step Gathered.start read again
    exact ⟨rfl, RecordFormat.ofJson_object_eq_ok_iff.mpr ⟨final, gathered.decoded, complete⟩⟩

theorem skips_expectList {room : Nat} {expected : String}
    {item : (room : Nat) → (part : Bytes) → Reader α part}
    (each : ∀ part value rest, (item (room - 1) part).Yields value rest → Skips part rest)
    {bytes rest : Bytes} {values : List α}
    (yields : (expectList room expected item bytes).Yields values rest) : Skips bytes rest := by
  obtain ⟨first, others, spaced, opens, read⟩ := array_of_expectList yields
  exact skips_of_array each spaced opens read

theorem skips_expectRecord {format : RecordFormat σ α}
    {field : (room : Nat) → σ → String → (part : Bytes) → Reader σ part} {room : Nat}
    (each : ∀ state name part next rest, (field (room - 1) state name part).Yields next rest →
      Skips part rest)
    {bytes rest : Bytes} {result : α}
    (yields : (expectRecord format field room bytes).Yields result rest) : Skips bytes rest := by
  obtain ⟨first, others, final, spaced, _, ⟨opens, read⟩ | ⟨opens, read⟩⟩ :=
    row_or_object_of_expectRecord yields
  · exact skips_of_row each spaced opens read
  · refine skips_of_object (fun state key part next rest read => ?_) spaced opens read
    rcases read with ⟨_, read⟩ | ⟨_, skipped, _⟩
    · exact each state key part next rest read
    · exact skips_skipValue skipped

end FilterSynthesis.Reading
