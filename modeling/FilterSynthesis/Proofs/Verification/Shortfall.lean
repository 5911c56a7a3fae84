import FilterSynthesis.Proofs.Verification.Leaves

namespace FilterSynthesis

open scoped Arithmetic

namespace Json

/-- The same leaves in another order, or in other arrays and objects. Keys do not matter, and what
is no leaf may come and go. Arrays and objects may be opened and closed, so this reaches any
depth. -/
inductive Rearranges : List Json → List Json → Prop
  | perm {lefts rights : List Json} (permuted : lefts.Perm rights) : Rearranges lefts rights
  | append {lefts rights others more : List Json} (first : Rearranges lefts rights)
      (second : Rearranges others more) : Rearranges (lefts ++ others) (rights ++ more)
  | array (elements : List Json) : Rearranges [.array elements] elements
  | object (members : List (String × Json)) :
      Rearranges [.object members] (Entries.values members)
  | null : Rearranges [.null] []
  | number {number : Number} (other : ∀ value, number ≠ .int value) :
      Rearranges [.number number] []
  | symm {lefts rights : List Json} (there : Rearranges lefts rights) : Rearranges rights lefts
  | trans {lefts rights others : List Json} (first : Rearranges lefts rights)
      (second : Rearranges rights others) : Rearranges lefts others

theorem Rearranges.refl (stream : List Json) : Rearranges stream stream := perm (List.Perm.refl _)

end Json

namespace Leaf

@[simp] theorem ofStream_append (first second : List Json) :
    ofStream (first ++ second) = ofStream first ++ ofStream second := by
  simp only [ofStream_eq_flatMap, List.flatMap_append]

@[simp] theorem ofStream_singleton (value : Json) : ofStream [value] = ofJson value := by
  simp only [ofStream_eq_flatMap, List.flatMap_singleton]

theorem ofJson_array (elements : List Json) : ofJson (.array elements) = ofStream elements := by
  rw [ofJson, ofStream]

theorem ofJson_object (members : List (String × Json)) :
    ofJson (.object members) = ofStream (Entries.values members) := by
  rw [ofJson, ofMembers_eq_flatMap, ofStream_eq_flatMap, Entries.values, List.flatMap_map]

theorem ofJson_number {number : Number} (other : ∀ value, number ≠ .int value) :
    ofJson (.number number) = [] := by
  cases number with
  | int value => exact absurd rfl (other value)
  | float value => rw [ofJson]; nofun
  | numeral digits => rw [ofJson]; nofun

theorem perm_of_rearranges {lefts rights : List Json} (there : Json.Rearranges lefts rights) :
    (ofStream lefts).Perm (ofStream rights) := by
  induction there with
  | perm permuted =>
      simp only [ofStream_eq_flatMap]
      exact permuted.flatMap_right _
  | append _ _ first second =>
      simp only [ofStream_append]
      exact first.append second
  | array elements => rw [ofStream_singleton, ofJson_array]
  | object members => rw [ofStream_singleton, ofJson_object]
  | null => exact List.Perm.refl _
  | number other =>
      rw [ofStream_singleton, ofJson_number other]
      exact List.Perm.refl _
  | symm _ induction => exact induction.symm
  | trans _ _ first second => exact first.trans second

/-! Every stream arranges its leaves, so the leaves say how streams may be rearranged. -/

def toJson : Leaf → Json
  | .bool value => .bool value
  | .int value => .number (.int value)
  | .str value => .string value

mutual

theorem rearranges_ofJson : (value : Json) →
    Json.Rearranges [value] ((ofJson value).map toJson)
  | .null => .null
  | .bool _ | .string _ | .number (.int _) => .refl _
  | .number (.float _) | .number (.numeral _) => .number nofun
  | .array elements => (Json.Rearranges.array elements).trans (rearranges_ofElements elements)
  | .object members => (Json.Rearranges.object members).trans (rearranges_ofMembers members)

theorem rearranges_ofElements : (elements : List Json) →
    Json.Rearranges elements ((ofElements elements).map toJson)
  | [] => .refl _
  | element :: rest => by
      rw [ofElements, List.map_append]
      exact (rearranges_ofJson element).append (rearranges_ofElements rest)

theorem rearranges_ofMembers : (members : List (String × Json)) →
    Json.Rearranges (Entries.values members) ((ofMembers members).map toJson)
  | [] => .refl _
  | (_, value) :: rest => by
      rw [ofMembers, List.map_append]
      exact (rearranges_ofJson value).append (rearranges_ofMembers rest)

end

theorem rearranges_iff_perm {lefts rights : List Json} :
    Json.Rearranges lefts rights ↔ (ofStream lefts).Perm (ofStream rights) := by
  refine ⟨perm_of_rearranges, fun permuted => ?_⟩
  have leaves := Json.Rearranges.perm (permuted.map toJson)
  exact ((rearranges_ofElements lefts).trans leaves).trans (rearranges_ofElements rights).symm

end Leaf

namespace LeafBag

def size (bag : LeafBag) : Nat := (bag.map (·.2)).sum

theorem size_ofLeaves (leaves : List Leaf) : (ofLeaves leaves).size = leaves.length := by
  have alone : (ofLeaves leaves).size = (ofLeaves leaves).missingFrom (ofLeaves []) := rfl
  rw [alone, missingFrom_ofLeaves, Multiset.coe_nil, tsub_zero, Multiset.coe_card]

theorem same_ofLeaves_iff {leaves others : List Leaf} :
    (ofLeaves leaves).same (ofLeaves others) = true ↔ leaves.Perm others := by
  have distinct := nodup_leaves_ofLeaves leaves
  simp only [same, Bool.and_eq_true, beq_iff_eq, List.all_eq_true]
  constructor
  · intro agree
    obtain ⟨lengths, counts⟩ := agree
    have occurs : ∀ leaf ∈ leaves, others.count leaf = leaves.count leaf := by
      intro leaf member
      obtain ⟨entry, listed, rfl⟩ := List.mem_map.mp (mem_leaves_ofLeaves.mpr member)
      rw [← count_ofLeaves, ← count_ofLeaves, counts entry listed, count_of_mem distinct listed]
    have within : (ofLeaves leaves).leaves ⊆ (ofLeaves others).leaves := by
      intro leaf member
      have here := mem_leaves_ofLeaves.mp member
      rw [mem_leaves_ofLeaves, ← List.count_pos_iff, occurs leaf here]
      exact List.count_pos_iff.mpr here
    -- as many distinct leaves on either side, so none is on the right alone
    have all : (ofLeaves leaves).leaves.Perm (ofLeaves others).leaves :=
      (distinct.subperm within).perm_of_length_le (by
        simp only [LeafBag.leaves, List.length_map]
        omega)
    refine List.perm_iff_count.mpr fun leaf => ?_
    by_cases member : leaf ∈ leaves
    · exact (occurs leaf member).symm
    · have absent : leaf ∉ others := by
        rwa [← mem_leaves_ofLeaves, ← all.mem_iff, mem_leaves_ofLeaves]
      rw [List.count_eq_zero_of_not_mem member, List.count_eq_zero_of_not_mem absent]
  · intro permuted
    have all : (ofLeaves leaves).leaves.Perm (ofLeaves others).leaves := by
      refine (List.perm_ext_iff_of_nodup distinct (nodup_leaves_ofLeaves others)).mpr fun leaf => ?_
      rw [mem_leaves_ofLeaves, mem_leaves_ofLeaves, permuted.mem_iff]
    refine ⟨by simpa only [LeafBag.leaves, List.length_map] using all.length_eq,
      fun entry listed => ?_⟩
    rw [count_ofLeaves, ← permuted.count_eq, ← count_ofLeaves, count_of_mem distinct listed]

end LeafBag

namespace Leaf

theorem missing_congr {expected wanted actual given : List Json}
    (left : (ofStream expected).Perm (ofStream wanted))
    (right : (ofStream actual).Perm (ofStream given)) :
    missing expected actual = missing wanted given := by
  rw [missing, missing, Multiset.coe_eq_coe.mpr left, Multiset.coe_eq_coe.mpr right]

theorem missing_eq_sum (expected actual : List Json) :
    missing expected actual =
      ∑ leaf ∈ (ofStream expected).toFinset,
        ((ofStream expected).count leaf - (ofStream actual).count leaf) := by
  have within : ∀ leaf ∈ (ofStream expected : Multiset Leaf) - (ofStream actual : Multiset Leaf),
      leaf ∈ (ofStream expected).toFinset := by
    intro leaf member
    have held := Multiset.mem_of_le (Multiset.sub_le_self _ _) member
    exact List.mem_toFinset.mpr (Multiset.mem_coe.mp held)
  rw [missing, ← Multiset.sum_count_eq_card within]
  simp only [Multiset.count_sub, Multiset.coe_count]

/-- What either stream has is had by both, or missing from the other. -/
theorem length_add_missing (expected actual : List Json) :
    (ofStream expected).length + missing actual expected =
      (ofStream actual).length + missing expected actual := by
  have unions : (ofStream expected : Multiset Leaf) + (ofStream actual - ofStream expected) =
      ofStream actual + (ofStream expected - ofStream actual) := by
    rw [add_comm, ← Multiset.union_def, Multiset.union_comm, Multiset.union_def, add_comm]
  simpa only [missing, Multiset.card_add, Multiset.coe_card] using congrArg Multiset.card unions

theorem missing_eq_zero_iff {expected actual : List Json} :
    missing expected actual = 0 ↔
      (ofStream expected : Multiset Leaf) ≤ (ofStream actual : Multiset Leaf) := by
  rw [missing, Multiset.card_eq_zero, tsub_eq_zero_iff_le]

theorem missing_both_eq_zero_iff {expected actual : List Json} :
    missing expected actual = 0 ∧ missing actual expected = 0 ↔
      (ofStream expected).Perm (ofStream actual) := by
  rw [missing_eq_zero_iff, missing_eq_zero_iff, ← le_antisymm_iff, Multiset.coe_eq_coe]

theorem missing_triangle (expected between actual : List Json) :
    missing expected actual ≤ missing expected between + missing between actual := by
  unfold missing
  rw [← Multiset.card_add]
  exact Multiset.card_le_card tsub_le_tsub_add_tsub

theorem missing_append_le (expected actual more : List Json) :
    missing expected (actual ++ more) ≤ missing expected actual := by
  unfold missing
  rw [ofStream_append, ← Multiset.coe_add]
  exact Multiset.card_le_card (tsub_le_tsub_left (Multiset.le_add_right _ _) _)

end Leaf

/-- The shortfall counts, leaf by leaf, how often the actual stream has it less often than the
expected one. Rearranging either stream changes nothing; the shortfalls in both directions balance
the sizes, vanish together just if the bags are equal, and obey the triangle inequality; and what
the actual stream gains, at any depth, never raises the shortfall. -/
theorem shortfall_is_multiset_difference (expected actual other : List Json) :
    shortfall expected actual =
        ∑ leaf ∈ (Leaf.ofStream expected).toFinset,
          ((Leaf.ofStream expected).count leaf - (Leaf.ofStream actual).count leaf) ∧
      (∀ wanted given, Json.Rearranges expected wanted → Json.Rearranges actual given →
        shortfall wanted given = shortfall expected actual) ∧
      (LeafBag.ofStream expected).size + shortfall actual expected =
        (LeafBag.ofStream actual).size + shortfall expected actual ∧
      (shortfall expected actual = 0 ∧ shortfall actual expected = 0 ↔
        (LeafBag.ofStream expected).same (LeafBag.ofStream actual) = true) ∧
      shortfall expected other ≤ shortfall expected actual + shortfall actual other ∧
      ∀ gained more, Json.Rearranges gained (actual ++ more) →
        shortfall expected gained ≤ shortfall expected actual := by
  simp only [shortfall_eq_missing, LeafBag.ofStream_eq_ofLeaves, LeafBag.size_ofLeaves,
    LeafBag.same_ofLeaves_iff]
  refine ⟨Leaf.missing_eq_sum expected actual, ?_, Leaf.length_add_missing expected actual,
    Leaf.missing_both_eq_zero_iff, Leaf.missing_triangle expected actual other, ?_⟩
  · intro wanted given left right
    exact (Leaf.missing_congr (Leaf.perm_of_rearranges left) (Leaf.perm_of_rearranges right)).symm
  · intro gained more arranged
    rw [Leaf.missing_congr (List.Perm.refl _) (Leaf.perm_of_rearranges arranged)]
    exact Leaf.missing_append_le expected actual more

/-- The leaves `1`, `1` and `true` move into an object and out of an array, where a null is left; a
stream that has one `1` lacks two of them, and only one once `true` has come in. -/
theorem regrouped_leaves_count_alike :
    let one : Json := .number (.int 1)
    let expected := [Json.array [one, .bool true, one]]
    let wanted := [.bool true, .object [("a", one), ("b", .array [.null, one])]]
    let gained := [Json.array [.bool true, .object [("c", one)]]]
    Json.Rearranges expected wanted ∧ Json.Rearranges [one] [.array [one]] ∧
      Json.Rearranges gained ([one] ++ [.bool true]) ∧
      shortfall wanted [.array [one]] = shortfall expected [one] ∧ shortfall expected [one] = 2 ∧
      shortfall expected gained ≤ shortfall expected [one] ∧ shortfall expected gained = 1 := by
  intro one expected wanted gained
  have regrouped : Json.Rearranges expected wanted := Leaf.rearranges_iff_perm.mpr (by decide)
  have wrapped : Json.Rearranges [one] [.array [one]] := Leaf.rearranges_iff_perm.mpr (by decide)
  have more : Json.Rearranges gained ([one] ++ [.bool true]) :=
    Leaf.rearranges_iff_perm.mpr (by decide)
  obtain ⟨_, alike, _, _, _, grows⟩ := shortfall_is_multiset_difference expected [one] []
  exact ⟨regrouped, wrapped, more, alike _ _ regrouped wrapped, by decide, grows _ _ more,
    by decide⟩

end FilterSynthesis
