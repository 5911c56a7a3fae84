import FilterSynthesis.Proofs.Json.Equality
import FilterSynthesis.Proofs.Json.Handover
import FilterSynthesis.Proofs.Program.Faithfulness
import FilterSynthesis.Verification.Basic

namespace FilterSynthesis

theorem choices_singletons {α : Type} (entries : Entries α) :
    choices (entries.map fun entry => (entry.1, [entry.2])) = [entries] := by
  induction entries with
  | nil => rfl
  | cons entry rest induction => simp [choices, induction]

theorem valuesOfAll_singletons (members : Entries Json) :
    valuesOfAll (members.map fun member => (member.1, some [member.2])) =
      some (members.map fun member => (member.1, [member.2])) := by
  induction members with
  | nil => rfl
  | cons member rest induction => simp [valuesOfAll, induction]

theorem objectsOf_singletons (members : Entries Json) :
    objectsOf (members.map fun member => (member.1, some [member.2])) =
      some [.object members] := by
  have inhabited : (members.map fun member => (member.1, some [member.2])).any
      (fun stream => stream.2.any List.isEmpty) = false := by
    simp [List.any_map]
  rw [objectsOf, inhabited, if_neg Bool.false_ne_true, valuesOfAll_singletons, Option.map_some,
    choices_singletons, List.map_singleton]

theorem mapM_eq_singleton_iff {α β : Type} {change : α → Option β} {values : List α} {result : β} :
    values.mapM change = some [result] ↔
        ∃ value, values = [value] ∧ change value = some result := by
  match values with
  | [] => simp
  | [value] => simp [Option.bind_eq_some_iff]
  | first :: second :: rest => simp [List.mapM_cons, Option.bind_eq_some_iff]

namespace Program

theorem haveDistinctKeys_iff {fields : List (String × Program)} :
    HaveDistinctKeys fields ↔ ∀ field ∈ fields, field.2.HasDistinctKeys := by
  induction fields with
  | nil => simp [HaveDistinctKeys]
  | cons field rest induction => simp [HaveDistinctKeys, induction]

/-- The evaluator answers with one value, equal to the expected one. -/
def Yields (program : Program) (input expected : Json) : Prop :=
  Json.sameElements (Filter.oracle.answer program.text input) [expected] = true

theorem Yields.exists_raw {program : Program} {input expected : Json}
    (yields : program.Yields input expected) (distinct : program.HasDistinctKeys) :
    ∃ raw value, program.meaning input = some [raw] ∧ raw.handedOn? = some value ∧
      value.same expected = true := by
  obtain ⟨value, answer, same⟩ := Json.sameElements_singleton_iff.mp yields
  rw [Oracle.answer, Filter.oracle_program distinct] at answer
  cases means : program.meaning input with
  | none => simp [means] at answer
  | some results =>
      rw [means, Option.bind_some] at answer
      cases handed : results.mapM Json.handedOn? with
      | none => simp [handed] at answer
      | some values =>
          rw [handed, Option.getD_some] at answer
          obtain ⟨raw, rfl, single⟩ := mapM_eq_singleton_iff.mp (answer ▸ handed)
          exact ⟨raw, value, rfl, single, same⟩

theorem exists_members {fields : List (String × Program)} {input : Json} {expected : String → Json}
    (distinct : HaveDistinctKeys fields) (shallow : ∀ key, (expected key).depth < outputNesting)
    (yields : ∀ field ∈ fields, field.2.Yields input (expected field.1)) :
    ∃ raw members, meanings fields input = raw.map (fun member => (member.1, some [member.2])) ∧
      Json.rereadMembers? raw = some members ∧ Json.depthOfMembers raw < outputNesting ∧
        Entries.keys members = Entries.keys fields ∧
          ∀ member ∈ members, member.2.same (expected member.1) = true := by
  induction fields with
  | nil => exact ⟨[], [], rfl, rfl, by decide, rfl, by simp⟩
  | cons field rest induction =>
      obtain ⟨key, program⟩ := field
      obtain ⟨here, there⟩ := List.forall_mem_cons.mp yields
      obtain ⟨raw, members, means, reread, nested, keys, same⟩ := induction distinct.2 there
      obtain ⟨value, member, yielded, handed, equal⟩ := here.exists_raw distinct.1
      have depth := Json.depth_of_handedOn? handed
      have bound := Json.depth_le_of_same member (expected key) equal
      have little := shallow key
      refine ⟨(key, value) :: raw, (key, member) :: members, ?_, ?_, ?_, ?_, ?_⟩
      · simp [meanings, yielded, means]
      · simp [Json.rereadMembers?, (Json.handedOn?_eq_some_iff.mp handed).2, reread]
      · simp only [Json.depthOfMembers]
        omega
      · simp [keys]
      · exact List.forall_mem_cons.mpr ⟨equal, same⟩

theorem oracle_record {fields : List (String × Program)} {input : Json} {expected : String → Json}
    (distinct : (Program.record fields).HasDistinctKeys)
    (shallow : ∀ key, (expected key).depth < outputNesting)
    (yields : ∀ field ∈ fields, field.2.Yields input (expected field.1)) :
    ∃ members, Filter.oracle (Program.record fields).text input = some [.object members] ∧
      Entries.keys members = Entries.keys fields ∧
        ∀ member ∈ members, member.2.same (expected member.1) = true := by
  obtain ⟨raw, members, means, reread, nested, keys, same⟩ :=
    exists_members distinct.2 shallow yields
  have handed : (Json.object raw).handedOn? = some (.object members) := by
    rw [Json.handedOn?_eq_some_iff, Json.depth, Json.reread?, reread]
    exact ⟨nested, rfl⟩
  refine ⟨members, ?_, keys, same⟩
  rw [Filter.oracle_program distinct, meaning, means, objectsOf_singletons, Option.bind_some,
    mapM_eq_singleton_iff]
  exact ⟨_, rfl, handed⟩

end Program

end FilterSynthesis
