import FilterSynthesis.Search.Heap

namespace FilterSynthesis

namespace Heap

variable {α : Type} {before : α → α → Bool}

theorem ordered_node_iff {root : α} {left right : Heap α} :
    (Heap.node root left right).Ordered before ↔
      (∀ element ∈ left.toList ++ right.toList, before root element = true) ∧
        left.Ordered before ∧ right.Ordered before := by
  rw [Ordered, List.forall_mem_append, and_assoc]

section

variable (total : ∀ first second, before first second = true ∨ before second first = true)
  (trans : ∀ first second third, before first second = true → before second third = true →
    before first third = true)

include trans

theorem Ordered.before_of_mem {first root : α} {left right : Heap α}
    (ordered : (Heap.node root left right).Ordered before) (least : before first root = true) :
    ∀ element ∈ (Heap.node root left right).toList, before first element = true := by
  refine List.forall_mem_cons.mpr ⟨least, fun element member => ?_⟩
  exact trans first root element least ((ordered_node_iff.mp ordered).1 element member)

include total

theorem Ordered.merge {left right : Heap α} (lefts : left.Ordered before)
    (rights : right.Ordered before) : (merge before left right).Ordered before := by
  fun_induction Heap.merge before left right with
  | case1 heap => exact rights
  | case2 heap _ => exact lefts
  | case3 first inner outer second inner' outer' least induction =>
      obtain ⟨under, inside, outside⟩ := ordered_node_iff.mp lefts
      refine ordered_node_iff.mpr ⟨fun element member => ?_, induction outside rights, inside⟩
      rcases List.mem_append.mp member with merged | within
      · rcases List.mem_append.mp ((toList_merge before _ _).mem_iff.mp merged) with within | other
        · exact under element (List.mem_append_right _ within)
        · exact rights.before_of_mem trans least element other
      · exact under element (List.mem_append_left _ within)
  | case4 first inner outer second inner' outer' greater induction =>
      obtain ⟨under, inside, outside⟩ := ordered_node_iff.mp rights
      have least := (total first second).resolve_left greater
      refine ordered_node_iff.mpr ⟨fun element member => ?_, induction lefts outside, inside⟩
      rcases List.mem_append.mp member with merged | within
      · rcases List.mem_append.mp ((toList_merge before _ _).mem_iff.mp merged) with other | within
        · exact lefts.before_of_mem trans least element other
        · exact under element (List.mem_append_right _ within)
      · exact under element (List.mem_append_left _ within)

theorem Ordered.insert {heap : Heap α} (ordered : heap.Ordered before) (element : α) :
    (heap.insert before element).Ordered before :=
  Ordered.merge total trans ⟨by simp, by simp, trivial, trivial⟩ ordered

theorem Ordered.pop? {heap rest : Heap α} {root : α} (ordered : heap.Ordered before)
    (popped : heap.pop? before = some (root, rest)) :
    (∀ element ∈ rest.toList, before root element = true) ∧ rest.Ordered before := by
  cases heap with
  | empty => cases popped
  | node first left right =>
      obtain ⟨under, lefts, rights⟩ := ordered_node_iff.mp ordered
      cases popped
      refine ⟨fun element member => ?_, lefts.merge total trans rights⟩
      exact under element ((toList_merge before left right).mem_iff.mp member)

end

end Heap

end FilterSynthesis
