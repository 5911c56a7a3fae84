import FilterSynthesis.Filter.Evaluation
import FilterSynthesis.Proofs.Json.WellFormed
import FilterSynthesis.Proofs.Reading.Layout
import FilterSynthesis.Schema.Basic

namespace FilterSynthesis

namespace Json

theorem depth_of_reread?_number {number : Number} {back : Json}
    (reread : number.reread? = some back) : back.depth = 0 := by
  cases number with
  | int value =>
      cases reread
      rfl
  | float value =>
      simp only [Number.reread?] at reread
      split at reread
      · obtain ⟨number, _, rfl⟩ := Option.map_eq_some_iff.mp reread
        rfl
      · cases reread
        rfl
  | numeral digits =>
      obtain ⟨number, _, rfl⟩ := Option.map_eq_some_iff.mp reread
      rfl

mutual

theorem depth_of_reread? {back : Json} :
    (value : Json) → value.reread? = some back → back.depth = value.depth
  | .null, reread | .bool _, reread | .string _, reread => by cases reread; rfl
  | .number _, reread => depth_of_reread?_number reread
  | .array elements, reread => by
      obtain ⟨values, inside, rfl⟩ := Option.map_eq_some_iff.mp reread
      simp only [depth, depthOfElements_of_rereadElements? elements inside]
  | .object members, reread => by
      obtain ⟨values, inside, rfl⟩ := Option.map_eq_some_iff.mp reread
      simp only [depth, depthOfMembers_of_rereadMembers? members inside]

theorem depthOfElements_of_rereadElements? {values : List Json} :
    (elements : List Json) → rereadElements? elements = some values →
      depthOfElements values = depthOfElements elements
  | [], reread => by cases reread; rfl
  | element :: rest, reread => by
      simp only [rereadElements?] at reread
      split at reread
      · rename_i first others here later
        cases reread
        simp only [depthOfElements, depth_of_reread? element here,
          depthOfElements_of_rereadElements? rest later]
      · cases reread

theorem depthOfMembers_of_rereadMembers? {values : List (String × Json)} :
    (members : List (String × Json)) → rereadMembers? members = some values →
      depthOfMembers values = depthOfMembers members
  | [], reread => by cases reread; rfl
  | (key, member) :: rest, reread => by
      simp only [rereadMembers?] at reread
      split at reread
      · rename_i first others here later
        cases reread
        simp only [depthOfMembers, depth_of_reread? member here,
          depthOfMembers_of_rereadMembers? rest later]
      · cases reread

end

def IsReadable (value : Json) : Prop :=
  ∃ back, value.reread? = some back ∧ Schema.of back = Schema.of value

theorem isReadable_float (value : Double) : (Json.number (.float value)).IsReadable := by
  by_cases finite : value.isFinite
  · obtain ⟨back, read⟩ := Reading.numberOf?_text finite
    exact ⟨.number (.float back), by simp [reread?, Number.reread?, finite, read], rfl⟩
  · exact ⟨.null, by simp [reread?, Number.reread?, finite], rfl⟩

theorem exists_rereadElements {elements : List Json}
    (readable : ∀ element ∈ elements, element.IsReadable) :
    ∃ values, rereadElements? elements = some values ∧
      Schema.ofElements values = Schema.ofElements elements := by
  induction elements with
  | nil => exact ⟨[], rfl, rfl⟩
  | cons element rest induction =>
      obtain ⟨first, later⟩ := List.forall_mem_cons.mp readable
      obtain ⟨back, here, shape⟩ := first
      obtain ⟨values, others, shapes⟩ := induction later
      exact ⟨back :: values, by simp [rereadElements?, here, others],
        by simp [Schema.ofElements, shape, shapes]⟩

theorem exists_rereadMembers {members : List (String × Json)}
    (readable : ∀ member ∈ members, member.2.IsReadable) :
    ∃ values, rereadMembers? members = some values ∧
      Schema.ofMembers values = Schema.ofMembers members := by
  induction members with
  | nil => exact ⟨[], rfl, rfl⟩
  | cons member rest induction =>
      obtain ⟨first, later⟩ := List.forall_mem_cons.mp readable
      obtain ⟨back, here, shape⟩ := first
      obtain ⟨values, others, shapes⟩ := induction later
      exact ⟨(member.1, back) :: values, by simp [rereadMembers?, here, others],
        by simp [Schema.ofMembers, shape, shapes]⟩

theorem WellFormed.isReadable {value : Json} (wellFormed : value.WellFormed) :
    value.IsReadable := by
  induction wellFormed with
  | null => exact ⟨_, rfl, rfl⟩
  | bool value => exact ⟨_, rfl, rfl⟩
  | int value => exact ⟨_, rfl, rfl⟩
  | string value => exact ⟨_, rfl, rfl⟩
  | float value => exact isReadable_float value
  | array each induction =>
      obtain ⟨values, reread, shapes⟩ := exists_rereadElements induction
      exact ⟨.array values, by simp [reread?, reread], by simp [Schema.of, shapes]⟩
  | object keys each induction =>
      obtain ⟨values, reread, shapes⟩ := exists_rereadMembers induction
      exact ⟨.object values, by simp [reread?, reread], by simp [Schema.of, shapes]⟩

theorem handedOn?_eq_some_iff {value back : Json} :
    value.handedOn? = some back ↔ value.depth ≤ outputNesting ∧ value.reread? = some back := by
  unfold handedOn?
  split <;> rename_i deep
  · simp [Nat.not_le.mpr deep]
  · simp [Nat.not_lt.mp deep]

theorem depth_of_handedOn? {value back : Json} (handed : value.handedOn? = some back) :
    back.depth = value.depth :=
  depth_of_reread? value (handedOn?_eq_some_iff.mp handed).2

theorem WellFormed.exists_handedOn {value : Json} (wellFormed : value.WellFormed)
    (shallow : value.depth ≤ outputNesting) :
    ∃ back, value.handedOn? = some back ∧ Schema.of back = Schema.of value ∧
      back.depth = value.depth := by
  obtain ⟨back, reread, shape⟩ := wellFormed.isReadable
  exact ⟨back, handedOn?_eq_some_iff.mpr ⟨shallow, reread⟩, shape, depth_of_reread? value reread⟩

end Json

end FilterSynthesis
