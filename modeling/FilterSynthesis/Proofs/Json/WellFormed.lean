import FilterSynthesis.Json.Basic

namespace FilterSynthesis.Json

inductive WellFormed : Json → Prop
  | null : WellFormed .null
  | bool (value : Bool) : WellFormed (.bool value)
  | int (value : Int) : WellFormed (.number (.int value))
  | float (value : Double) : WellFormed (.number (.float value))
  | string (value : String) : WellFormed (.string value)
  | array {elements : List Json} (each : ∀ element ∈ elements, WellFormed element) :
      WellFormed (.array elements)
  | object {members : List (String × Json)} (keys : (Entries.keys members).Nodup)
      (each : ∀ member ∈ members, WellFormed member.2) : WellFormed (.object members)

theorem WellFormed.of_mem {elements : List Json} (wellFormed : WellFormed (.array elements))
    {element : Json} (member : element ∈ elements) : element.WellFormed := by
  cases wellFormed with
  | array each => exact each element member

theorem WellFormed.of_member {members : List (String × Json)}
    (wellFormed : WellFormed (.object members)) {member : String × Json}
    (listed : member ∈ members) : member.2.WellFormed := by
  cases wellFormed with
  | object keys each => exact each member listed

theorem depthOfElements_le_iff {elements : List Json} {bound : Nat} :
    depthOfElements elements ≤ bound ↔ ∀ element ∈ elements, element.depth ≤ bound := by
  induction elements with
  | nil => simp [depthOfElements]
  | cons element rest induction => rw [depthOfElements, Nat.max_le, induction, List.forall_mem_cons]

theorem depthOfMembers_le_iff {members : List (String × Json)} {bound : Nat} :
    depthOfMembers members ≤ bound ↔ ∀ member ∈ members, member.2.depth ≤ bound := by
  induction members with
  | nil => simp [depthOfMembers]
  | cons member rest induction => rw [depthOfMembers, Nat.max_le, induction, List.forall_mem_cons]

theorem depth_array_le_iff {elements : List Json} {bound : Nat} :
    (array elements).depth ≤ bound + 1 ↔ ∀ element ∈ elements, element.depth ≤ bound := by
  rw [depth, Nat.add_le_add_iff_right, depthOfElements_le_iff]

theorem depth_lt_of_mem {elements : List Json} {element : Json} (member : element ∈ elements) :
    element.depth < (array elements).depth := by
  have bound := depthOfElements_le_iff.mp (Nat.le_refl (depthOfElements elements)) element member
  simp only [depth]
  omega

theorem depth_lt_of_member {members : List (String × Json)} {member : String × Json}
    (listed : member ∈ members) : member.2.depth < (object members).depth := by
  have bound := depthOfMembers_le_iff.mp (Nat.le_refl (depthOfMembers members)) member listed
  simp only [depth]
  omega

end FilterSynthesis.Json
