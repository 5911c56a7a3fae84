namespace FilterSynthesis

/-! Stable sorting by insertion. Every element is compared from the far end of what is sorted so
far, so the result is fixed also for comparisons that are not transitive. -/

namespace Sorting

variable {α : Type}

/-- Insert into a list that runs from the greatest element down, behind no element that is less. -/
def place (less : α → α → Bool) (element : α) : List α → List α
  | [] => [element]
  | greatest :: rest =>
      if less element greatest then greatest :: place less element rest
      else element :: greatest :: rest

def descending (less : α → α → Bool) (elements : List α) : List α :=
  elements.foldl (fun sorted element => place less element sorted) []

def stable (less : α → α → Bool) (elements : List α) : List α :=
  (descending less elements).reverse

theorem place_perm (less : α → α → Bool) (element : α) (sorted : List α) :
    (place less element sorted).Perm (element :: sorted) := by
  induction sorted with
  | nil => exact .refl _
  | cons greatest rest induction =>
      simp only [place]
      split
      · exact (induction.cons greatest).trans (.swap element greatest rest)
      · exact .refl _

theorem stable_perm (less : α → α → Bool) (elements : List α) :
    (stable less elements).Perm elements := by
  have general : ∀ sorted : List α,
      (elements.foldl (fun sorted element => place less element sorted) sorted).Perm
        (elements ++ sorted) := by
    induction elements with
    | nil => exact fun _ => .refl _
    | cons element rest induction =>
        intro sorted
        refine (induction _).trans ?_
        exact ((place_perm less element sorted).append_left rest).trans List.perm_middle
  exact (List.reverse_perm _).trans (by simpa [descending] using general [])

theorem map_place {β : Type} (less : β → β → Bool) (image : α → β) (element : α)
    (sorted : List α) :
    place less (image element) (sorted.map image) =
      (place (fun left right => less (image left) (image right)) element sorted).map image := by
  induction sorted with
  | nil => rfl
  | cons greatest rest induction =>
      simp only [List.map_cons, place, induction]
      split <;> simp

theorem stable_map {β : Type} (less : β → β → Bool) (image : α → β) (elements : List α) :
    stable less (elements.map image) =
      (stable (fun left right => less (image left) (image right)) elements).map image := by
  have general : ∀ sorted : List α,
      (elements.map image).foldl (fun sorted element => place less element sorted)
          (sorted.map image) =
        (elements.foldl (fun sorted element =>
          place (fun left right => less (image left) (image right)) element sorted) sorted).map
            image := by
    induction elements with
    | nil => exact fun _ => rfl
    | cons element rest induction =>
        intro sorted
        simp only [List.map_cons, List.foldl_cons, map_place, induction]
  simpa [stable, descending] using general []

end Sorting

def lexicographic {α : Type} (order : α → α → Ordering) : List α → List α → Ordering
  | [], [] => .eq
  | [], _ :: _ => .lt
  | _ :: _, [] => .gt
  | left :: lefts, right :: rights => (order left right).then (lexicographic order lefts rights)

end FilterSynthesis
