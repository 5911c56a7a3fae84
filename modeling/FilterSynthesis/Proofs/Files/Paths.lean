import FilterSynthesis.Files.Path

namespace FilterSynthesis

open Std

namespace Sorting

variable {α : Type} {less : α → α → Bool}

def Ascends (less : α → α → Bool) (elements : List α) : Prop :=
  elements.Pairwise fun first second => less second first = false

theorem descends_place (asymmetric : ∀ left right, less left right = true → less right left = false)
    (transitive : ∀ left middle right, less left middle = false → less middle right = false →
      less left right = false)
    (element : α) {sorted : List α}
    (descends : sorted.Pairwise fun first second => less first second = false) :
    (place less element sorted).Pairwise fun first second => less first second = false := by
  induction sorted with
  | nil => exact List.pairwise_singleton _ _
  | cons greatest rest induction =>
      obtain ⟨here, there⟩ := List.pairwise_cons.mp descends
      unfold place
      split
      · rename_i smaller
        refine List.pairwise_cons.mpr ⟨fun other member => ?_, induction there⟩
        rcases List.mem_cons.mp ((place_perm less element rest).mem_iff.mp member) with rfl | later
        · exact asymmetric _ _ smaller
        · exact here other later
      · rename_i atLeast
        have above : less element greatest = false := by simpa using atLeast
        refine List.pairwise_cons.mpr ⟨fun other member => ?_, descends⟩
        rcases List.mem_cons.mp member with rfl | later
        · exact above
        · exact transitive _ _ _ above (here other later)

theorem ascends_stable (asymmetric : ∀ left right, less left right = true → less right left = false)
    (transitive : ∀ left middle right, less left middle = false → less middle right = false →
      less left right = false)
    (elements : List α) : Ascends less (stable less elements) := by
  have general : ∀ sorted : List α,
      sorted.Pairwise (fun first second => less first second = false) →
        (elements.foldl (fun sorted element => place less element sorted) sorted).Pairwise
          fun first second => less first second = false := by
    induction elements with
    | nil => exact fun _ descends => descends
    | cons element rest induction =>
        exact fun sorted descends =>
          induction _ (descends_place asymmetric transitive element descends)
  exact List.pairwise_reverse.mpr (general [] .nil)

end Sorting

theorem lexicographic_eq_compareLex {α : Type} (order : α → α → Ordering) (left right : List α) :
    lexicographic order left right = List.compareLex order left right := by
  induction left generalizing right with
  | nil => cases right <;> rfl
  | cons first rest induction =>
      cases right with
      | nil => rfl
      | cons other others =>
          rw [lexicographic, List.compareLex_cons_cons, induction]

instance {α : Type} (order : α → α → Ordering) [TransCmp order] :
    TransCmp (lexicographic order) := by
  have equal : lexicographic order = List.compareLex order :=
    funext fun left => funext fun right => lexicographic_eq_compareLex order left right
  rw [equal]
  infer_instance

namespace Path

instance : TransCmp orderStep :=
  inferInstanceAs (TransCmp (compareLex (compareOn fun step : Nat × String => step.1)
    (compareOn fun step : Nat × String => step.2)))

theorem less_asymmetric (left right : String) (smaller : less left right = true) :
    less right left = false := by
  have order : lexicographic orderStep (steps right) (steps left) =
      (lexicographic orderStep (steps left) (steps right)).swap := OrientedCmp.eq_swap
  have found : lexicographic orderStep (steps left) (steps right) = .lt := by
    simpa [less] using smaller
  simp [less, order, found]

theorem less_eq_false_iff {left right : String} :
    less left right = false ↔ (lexicographic orderStep (steps left) (steps right)).isGE = true := by
  unfold less
  cases lexicographic orderStep (steps left) (steps right) <;> decide

theorem ascends_stable (paths : List String) :
    Sorting.Ascends less (Sorting.stable less paths) := by
  refine Sorting.ascends_stable less_asymmetric (fun left middle right first second => ?_) paths
  rw [less_eq_false_iff] at *
  exact TransCmp.isGE_trans first second

end Path

end FilterSynthesis
