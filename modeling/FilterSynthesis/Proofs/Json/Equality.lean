import FilterSynthesis.Proofs.Entries
import FilterSynthesis.Proofs.Json.WellFormed

namespace FilterSynthesis.Json

theorem sameMembers_iff {lefts rights : List (String × Json)} :
    sameMembers lefts rights = true ↔
      ∀ member ∈ lefts, ∃ other, rights.lookup member.1 = some other ∧
        member.2.same other = true := by
  induction lefts with
  | nil => simp [sameMembers]
  | cons member rest induction =>
      obtain ⟨key, value⟩ := member
      simp only [sameMembers, Bool.and_eq_true, induction, List.forall_mem_cons]
      cases rights.lookup key <;> simp

theorem sameElements_singleton_iff {values : List Json} {expected : Json} :
    sameElements values [expected] = true ↔
      ∃ value, values = [value] ∧ value.same expected = true := by
  match values with
  | [] => simp [sameElements]
  | [value] => simp [sameElements]
  | first :: second :: rest => simp [sameElements]

theorem singleton_sameElements_iff {value : Json} {expected : List Json} :
    sameElements [value] expected = true ↔
      ∃ only, expected = [only] ∧ value.same only = true := by
  match expected with
  | [] => simp [sameElements]
  | [only] => simp [sameElements]
  | first :: second :: rest => simp [sameElements]

theorem length_eq_of_sameElements {lefts rights : List Json}
    (same : sameElements lefts rights = true) : lefts.length = rights.length := by
  induction lefts generalizing rights with
  | nil =>
      cases rights with
      | nil => rfl
      | cons right others => simp [sameElements] at same
  | cons left rest induction =>
      cases rights with
      | nil => simp [sameElements] at same
      | cons right others =>
          simp only [sameElements, Bool.and_eq_true] at same
          simp [induction same.2]

mutual

theorem depth_le_of_same :
    (left right : Json) → left.same right = true → left.depth ≤ right.depth
  | .null, _, _ | .bool _, _, _ | .number _, _, _ | .string _, _, _ => Nat.zero_le _
  | .array lefts, right, equal => by
      cases right with
      | array rights =>
          simp only [same] at equal
          exact Nat.succ_le_succ (depthOfElements_le_of_same lefts rights equal)
      | _ => simp [same] at equal
  | .object lefts, right, equal => by
      cases right with
      | object rights =>
          simp only [same, Bool.and_eq_true] at equal
          exact Nat.succ_le_succ (depthOfMembers_le_of_same lefts rights equal.2)
      | _ => simp [same] at equal

theorem depthOfElements_le_of_same :
    (lefts rights : List Json) → sameElements lefts rights = true →
      depthOfElements lefts ≤ depthOfElements rights
  | [], _, _ => Nat.zero_le _
  | left :: lefts, rights, equal => by
      cases rights with
      | nil => simp [sameElements] at equal
      | cons right rights =>
          simp only [sameElements, Bool.and_eq_true] at equal
          have first := depth_le_of_same left right equal.1
          have later := depthOfElements_le_of_same lefts rights equal.2
          simp only [depthOfElements]
          omega

theorem depthOfMembers_le_of_same :
    (lefts rights : List (String × Json)) → sameMembers lefts rights = true →
      depthOfMembers lefts ≤ depthOfMembers rights
  | [], _, _ => Nat.zero_le _
  | (key, left) :: lefts, rights, equal => by
      simp only [sameMembers, Bool.and_eq_true] at equal
      obtain ⟨here, there⟩ := equal
      split at here
      · rename_i right found
        have first := depth_le_of_same left right here
        have held : right.depth ≤ depthOfMembers rights :=
          depthOfMembers_le_iff.mp (Nat.le_refl _) _ (Entries.mem_of_lookup found)
        have later := depthOfMembers_le_of_same lefts rights there
        simp only [depthOfMembers]
        omega
      · cases here

end

theorem same_object_iff {lefts rights : List (String × Json)}
    (distinctLeft : (Entries.keys lefts).Nodup) (distinctRight : (Entries.keys rights).Nodup) :
    (object lefts).same (object rights) = true ↔
      (∀ key, key ∈ Entries.keys lefts ↔ key ∈ Entries.keys rights) ∧
        ∀ member ∈ lefts, ∀ other, rights.lookup member.1 = some other →
          member.2.same other = true := by
  rw [Entries.same_keys_iff distinctLeft distinctRight]
  simp only [same, Bool.and_eq_true, beq_iff_eq, sameMembers_iff]
  constructor
  · intro agree
    obtain ⟨lengths, found⟩ := agree
    refine ⟨⟨lengths, fun member among => ?_⟩, ?_⟩
    · obtain ⟨other, there, _⟩ := found member among
      exact Entries.mem_keys_iff.mpr ⟨other, there⟩
    · intro member among other there
      obtain ⟨equal, found, same⟩ := found member among
      cases there.symm.trans found
      exact same
  · intro agree
    obtain ⟨⟨lengths, keys⟩, equal⟩ := agree
    refine ⟨lengths, fun member among => ?_⟩
    obtain ⟨other, there⟩ := Entries.mem_keys_iff.mp (keys member among)
    exact ⟨other, there, equal member among other there⟩

end FilterSynthesis.Json
