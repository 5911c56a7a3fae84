import FilterSynthesis.Proofs.Json.Equality
import FilterSynthesis.Verification.Basic
import Mathlib.Algebra.BigOperators.Group.Finset.Basic
import Mathlib.Algebra.Order.Sub.Basic
import Mathlib.Data.Multiset.OrderedMonoid

namespace FilterSynthesis

namespace Leaf

mutual

/-- Nulls and numbers other than integers are no leaves. -/
def ofJson : Json → List Leaf
  | .null => []
  | .bool value => [.bool value]
  | .number (.int value) => [.int value]
  | .number _ => []
  | .string value => [.str value]
  | .array elements => ofElements elements
  | .object members => ofMembers members

def ofElements : List Json → List Leaf
  | [] => []
  | element :: rest => ofJson element ++ ofElements rest

def ofMembers : List (String × Json) → List Leaf
  | [] => []
  | (_, value) :: rest => ofJson value ++ ofMembers rest

end

def ofStream (stream : List Json) : List Leaf := ofElements stream

theorem ofStream_eq_flatMap (stream : List Json) : ofStream stream = stream.flatMap ofJson := by
  induction stream with
  | nil => rfl
  | cons value rest induction =>
      simp only [ofStream, ofElements, List.flatMap_cons] at *
      rw [induction]

theorem ofMembers_eq_flatMap (members : List (String × Json)) :
    ofMembers members = members.flatMap fun member => ofJson member.2 := by
  induction members with
  | nil => rfl
  | cons member rest induction => rw [ofMembers, induction, List.flatMap_cons]

theorem ofMembers_middle (before after : List (String × Json)) (key : String) (value : Json) :
    (ofMembers (before ++ (key, value) :: after)).Perm
      (ofJson value ++ ofMembers (before ++ after)) := by
  simp only [ofMembers_eq_flatMap, List.flatMap_append, List.flatMap_cons]
  exact List.perm_append_comm_assoc _ _ _

mutual

theorem perm_of_same : (left right : Json) → left.WellFormed → left.same right = true →
    (ofJson left).Perm (ofJson right)
  | .null, right, _, equal => by cases right <;> simp_all [Json.same, ofJson]
  | .bool _, right, _, equal => by cases right <;> simp_all [Json.same, ofJson]
  | .string _, right, _, equal => by cases right <;> simp_all [Json.same, ofJson]
  | .number left, right, _, equal => by
      cases right with
      | number right =>
          cases left <;> cases right <;> simp_all [Json.same, Number.same, ofJson]
      | _ => simp [Json.same] at equal
  | .array lefts, right, wellFormed, equal => by
      cases right with
      | array rights =>
          rw [Json.same] at equal
          exact perm_of_sameElements lefts rights (fun _ => wellFormed.of_mem) equal
      | _ => simp [Json.same] at equal
  | .object lefts, right, wellFormed, equal => by
      cases right with
      | object rights =>
          simp only [Json.same, Bool.and_eq_true, beq_iff_eq] at equal
          cases wellFormed with
          | object keys each =>
              exact perm_of_sameMembers lefts rights keys each equal.1 equal.2
      | _ => simp [Json.same] at equal

theorem perm_of_sameElements : (lefts rights : List Json) →
    (∀ element ∈ lefts, element.WellFormed) → Json.sameElements lefts rights = true →
      (ofElements lefts).Perm (ofElements rights)
  | [], rights, _, equal => by cases rights <;> simp_all [Json.sameElements]
  | left :: lefts, rights, wellFormed, equal => by
      cases rights with
      | nil => simp [Json.sameElements] at equal
      | cons right rights =>
          simp only [Json.sameElements, Bool.and_eq_true] at equal
          obtain ⟨here, there⟩ := List.forall_mem_cons.mp wellFormed
          exact (perm_of_same left right here equal.1).append
            (perm_of_sameElements lefts rights there equal.2)

theorem perm_of_sameMembers : (lefts rights : List (String × Json)) →
    (Entries.keys lefts).Nodup → (∀ member ∈ lefts, member.2.WellFormed) →
      lefts.length = rights.length → Json.sameMembers lefts rights = true →
        (ofMembers lefts).Perm (ofMembers rights)
  | [], rights, _, _, lengths, _ => by
      obtain rfl := List.length_eq_zero_iff.mp lengths.symm
      exact List.Perm.refl _
  | (key, left) :: lefts, rights, distinct, wellFormed, lengths, equal => by
      obtain ⟨fresh, distinct⟩ := List.nodup_cons.mp distinct
      obtain ⟨here, there⟩ := List.forall_mem_cons.mp wellFormed
      obtain ⟨⟨right, found, same⟩, others⟩ :=
          List.forall_mem_cons.mp (Json.sameMembers_iff.mp equal)
      obtain ⟨before, after, rfl, _⟩ := List.lookup_eq_some_iff.mp found
      -- the members that are left have other keys, so they are found without this one
      have later : Json.sameMembers lefts (before ++ after) = true := by
        refine Json.sameMembers_iff.mpr fun member listed => ?_
        obtain ⟨other, looked, agrees⟩ := others member listed
        have apart : (member.1 == key) = false := by
          rw [beq_eq_false_iff_ne]
          rintro rfl
          exact fresh (List.mem_map.mpr ⟨member, listed, rfl⟩)
        refine ⟨other, ?_, agrees⟩
        simpa [List.lookup_append, List.lookup_cons, apart] using looked
      have rest := perm_of_sameMembers lefts (before ++ after) distinct there
        (by simpa [← Nat.add_assoc] using lengths) later
      exact ((perm_of_same left right here same).append rest).trans
        (ofMembers_middle before after key right).symm

end

end Leaf

namespace LeafBag

def addAll (bag : LeafBag) (leaves : List Leaf) : LeafBag :=
  leaves.foldl (fun bag leaf => bag.add leaf) bag

def ofLeaves (leaves : List Leaf) : LeafBag := addAll [] leaves

@[simp] theorem addAll_append (bag : LeafBag) (leaves others : List Leaf) :
    bag.addAll (leaves ++ others) = (bag.addAll leaves).addAll others := List.foldl_append

mutual

theorem collect_eq_addAll (bag : LeafBag) :
    (value : Json) → bag.collect value = bag.addAll (Leaf.ofJson value)
  | .null | .bool _ | .string _ => rfl
  | .number (.int _) | .number (.float _) | .number (.numeral _) => rfl
  | .array elements => collectElements_eq_addAll bag elements
  | .object members => collectMembers_eq_addAll bag members

theorem collectElements_eq_addAll (bag : LeafBag) :
    (elements : List Json) → bag.collectElements elements = bag.addAll (Leaf.ofElements elements)
  | [] => rfl
  | element :: rest => by
      rw [collectElements, collectElements_eq_addAll _ rest, collect_eq_addAll bag element,
        Leaf.ofElements, addAll_append]

theorem collectMembers_eq_addAll (bag : LeafBag) :
    (members : List (String × Json)) →
      bag.collectMembers members = bag.addAll (Leaf.ofMembers members)
  | [] => rfl
  | (_, value) :: rest => by
      rw [collectMembers, collectMembers_eq_addAll _ rest, collect_eq_addAll bag value,
        Leaf.ofMembers, addAll_append]

end

theorem ofStream_eq_ofLeaves (stream : List Json) :
    ofStream stream = ofLeaves (Leaf.ofStream stream) := collectElements_eq_addAll [] stream

def leaves (bag : LeafBag) : List Leaf := bag.map (·.1)

theorem mem_leaves_add {leaf other : Leaf} {bag : LeafBag} :
    other ∈ (add leaf bag).leaves ↔ other = leaf ∨ other ∈ bag.leaves := by
  induction bag with
  | nil => simp [add, leaves]
  | cons entry rest induction =>
      obtain ⟨first, occurrences⟩ := entry
      unfold leaves at induction ⊢
      by_cases here : first = leaf
      · simp [add, here]
      · simp [add, here, induction, or_left_comm]

theorem nodup_leaves_add {bag : LeafBag} (distinct : bag.leaves.Nodup) (leaf : Leaf) :
    (add leaf bag).leaves.Nodup := by
  induction bag with
  | nil => exact List.nodup_singleton leaf
  | cons entry rest induction =>
      obtain ⟨first, occurrences⟩ := entry
      obtain ⟨fresh, others⟩ := List.nodup_cons.mp distinct
      by_cases here : first = leaf
      · simpa [add, here, leaves] using distinct
      · rw [add, if_neg here]
        refine List.nodup_cons.mpr ⟨fun listed => ?_, induction others⟩
        rcases mem_leaves_add.mp listed with same | within
        · exact here same
        · exact fresh within

theorem count_of_mem {bag : LeafBag} (distinct : bag.leaves.Nodup) {leaf : Leaf} {occurrences : Nat}
    (member : (leaf, occurrences) ∈ bag) : bag.count leaf = occurrences := by
  induction bag with
  | nil => cases member
  | cons first rest induction =>
      obtain ⟨fresh, others⟩ := List.nodup_cons.mp distinct
      rcases List.mem_cons.mp member with rfl | later
      · rw [count, List.lookup_cons_self, Option.getD_some]
      · have apart : (leaf == first.1) = false := by
          rw [beq_eq_false_iff_ne]
          rintro rfl
          exact fresh (List.mem_map.mpr ⟨_, later, rfl⟩)
        rw [count, List.lookup_cons, apart]
        exact induction others later

@[simp] theorem ofLeaves_append_singleton (leaves : List Leaf) (leaf : Leaf) :
    ofLeaves (leaves ++ [leaf]) = add leaf (ofLeaves leaves) := by
  rw [ofLeaves, addAll_append]
  rfl

theorem nodup_leaves_ofLeaves (leaves : List Leaf) : (ofLeaves leaves).leaves.Nodup := by
  induction leaves using List.reverseRecOn with
  | nil => exact List.nodup_nil
  | append_singleton before leaf induction =>
      rw [ofLeaves_append_singleton]
      exact nodup_leaves_add induction leaf

theorem mem_leaves_ofLeaves {leaves : List Leaf} {leaf : Leaf} :
    leaf ∈ (ofLeaves leaves).leaves ↔ leaf ∈ leaves := by
  induction leaves using List.reverseRecOn with
  | nil => rfl
  | append_singleton before last induction =>
      rw [ofLeaves_append_singleton, mem_leaves_add, induction, List.mem_append,
        List.mem_singleton, or_comm]

theorem count_ofLeaves (leaves : List Leaf) (leaf : Leaf) :
    (ofLeaves leaves).count leaf = leaves.count leaf := by
  induction leaves using List.reverseRecOn with
  | nil => rfl
  | append_singleton before last induction =>
      rw [ofLeaves_append_singleton, count_add, induction, List.count_append, List.count_singleton]
      simp only [beq_iff_eq, @eq_comm _ last leaf]

/-- What a bag lacks of another is what is left of its leaves without those of the other. -/
theorem missingFrom_ofLeaves (leaves others : List Leaf) :
    (ofLeaves leaves).missingFrom (ofLeaves others) =
      Multiset.card ((leaves : Multiset Leaf) - (others : Multiset Leaf)) := by
  have distinct := nodup_leaves_ofLeaves leaves
  have entries : (ofLeaves leaves).missingFrom (ofLeaves others) =
      ((ofLeaves leaves).leaves.map fun leaf => leaves.count leaf - others.count leaf).sum := by
    rw [missingFrom, LeafBag.leaves, List.map_map]
    refine congrArg List.sum (List.map_congr_left fun entry member => ?_)
    rw [Function.comp_apply, count_ofLeaves, ← count_ofLeaves leaves, count_of_mem distinct member]
  have within : ∀ leaf ∈ (leaves : Multiset Leaf) - (others : Multiset Leaf),
      leaf ∈ (ofLeaves leaves).leaves.toFinset := by
    intro leaf member
    rw [List.mem_toFinset, mem_leaves_ofLeaves]
    exact Multiset.mem_coe.mp (Multiset.mem_of_le (Multiset.sub_le_self _ _) member)
  rw [entries, ← Multiset.sum_count_eq_card within, List.sum_toFinset _ distinct]
  simp only [Multiset.count_sub, Multiset.coe_count]

end LeafBag

def Leaf.missing (expected actual : List Json) : Nat :=
  Multiset.card ((ofStream expected : Multiset Leaf) - (ofStream actual : Multiset Leaf))

theorem shortfall_eq_missing (expected actual : List Json) :
    shortfall expected actual = Leaf.missing expected actual := by
  rw [shortfall, LeafBag.ofStream_eq_ofLeaves, LeafBag.ofStream_eq_ofLeaves,
    LeafBag.missingFrom_ofLeaves, Leaf.missing]

theorem Leaf.missing_of_sameElements {expected actual : List Json}
    (wellFormed : ∀ value ∈ actual, value.WellFormed)
    (same : Json.sameElements actual expected = true) : missing expected actual = 0 := by
  have leaves : (ofStream actual : Multiset Leaf) = ofStream expected :=
    Multiset.coe_eq_coe.mpr (perm_of_sameElements actual expected wellFormed same)
  rw [missing, leaves, tsub_self, Multiset.card_zero]

end FilterSynthesis
