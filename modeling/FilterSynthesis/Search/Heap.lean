namespace FilterSynthesis

/-- A mergeable priority queue: a binary tree in which no element comes before its ancestors. -/
inductive Heap (α : Type) where
  | empty
  | node (root : α) (left right : Heap α)
  deriving Repr

namespace Heap

variable {α : Type}

def toList : Heap α → List α
  | .empty => []
  | .node root left right => root :: (left.toList ++ right.toList)

def size : Heap α → Nat
  | .empty => 0
  | .node _ left right => left.size + right.size + 1

@[simp] theorem toList_empty : toList (.empty : Heap α) = [] := rfl

@[simp] theorem toList_node (root : α) (left right : Heap α) :
    toList (.node root left right) = root :: (left.toList ++ right.toList) := rfl

/-- Merge two heaps; the children of every node on the way change sides. -/
def merge (before : α → α → Bool) (left right : Heap α) : Heap α :=
  match left, right with
  | .empty, heap => heap
  | heap, .empty => heap
  | .node first inner outer, .node second inner' outer' =>
      if before first second then
        .node first (merge before outer (.node second inner' outer')) inner
      else
        .node second (merge before (.node first inner outer) outer') inner'
  termination_by left.size + right.size
  decreasing_by all_goals simp only [size]; omega

def insert (before : α → α → Bool) (element : α) (heap : Heap α) : Heap α :=
  merge before (.node element .empty .empty) heap

def pop? (before : α → α → Bool) : Heap α → Option (α × Heap α)
  | .empty => none
  | .node root left right => some (root, merge before left right)

theorem toList_merge (before : α → α → Bool) (left right : Heap α) :
    (merge before left right).toList.Perm (left.toList ++ right.toList) := by
  fun_induction merge before left right with
  | case1 heap => simp
  | case2 heap _ => simp
  | case3 first inner outer second inner' outer' _ induction =>
      simp only [toList_node, List.cons_append]
      refine List.Perm.cons _ ?_
      refine (induction.append_right _).trans ?_
      rw [List.append_assoc inner.toList]
      exact List.perm_append_comm
  | case4 first inner outer second inner' outer' _ induction =>
      simp only [toList_node] at *
      refine (List.Perm.cons second (induction.append_right _)).trans ?_
      rw [List.append_assoc]
      refine List.Perm.trans ?_ List.perm_middle.symm
      exact List.Perm.cons _ (List.Perm.append_left _ List.perm_append_comm)

theorem toList_insert (before : α → α → Bool) (element : α) (heap : Heap α) :
    (insert before element heap).toList.Perm (element :: heap.toList) :=
  toList_merge before _ heap

theorem toList_pop? {before : α → α → Bool} {heap rest : Heap α} {root : α}
    (popped : heap.pop? before = some (root, rest)) :
    heap.toList.Perm (root :: rest.toList) := by
  cases heap with
  | empty => simp [pop?] at popped
  | node first left right =>
      simp only [pop?, Option.some.injEq, Prod.mk.injEq] at popped
      obtain ⟨rfl, rfl⟩ := popped
      exact (toList_merge before left right).symm.cons first

def Ordered (before : α → α → Bool) : Heap α → Prop
  | .empty => True
  | .node root left right =>
      (∀ element ∈ left.toList, before root element = true) ∧
        (∀ element ∈ right.toList, before root element = true) ∧
          left.Ordered before ∧ right.Ordered before

end Heap

end FilterSynthesis
