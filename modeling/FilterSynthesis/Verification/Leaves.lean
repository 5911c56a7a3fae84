import FilterSynthesis.Json.Basic

/-!
The leaves of values: all booleans, integers and strings in them, without keys. As a multiset they
tell how much of an expected stream is missing from another one, whatever its structure.
-/

namespace FilterSynthesis

open scoped Arithmetic

inductive Leaf where
  | bool (value : Bool)
  | int (value : Int)
  | str (value : String)
  deriving DecidableEq, Repr

/-- A multiset of leaves: each leaf once, with the number of its occurrences. -/
abbrev LeafBag := List (Leaf × Nat)

namespace LeafBag

def count (bag : LeafBag) (leaf : Leaf) : Nat := (bag.lookup leaf).getD 0

def add (leaf : Leaf) : LeafBag → LeafBag
  | [] => [(leaf, 1)]
  | (other, occurrences) :: rest =>
      if other = leaf then (other, occurrences + 1) :: rest
      else (other, occurrences) :: add leaf rest

mutual

/-- Nulls and numbers other than integers are no leaves. -/
def collect (bag : LeafBag) : Json → LeafBag
  | .null => bag
  | .bool value => bag.add (.bool value)
  | .number (.int value) => bag.add (.int value)
  | .number _ => bag
  | .string value => bag.add (.str value)
  | .array elements => bag.collectElements elements
  | .object members => bag.collectMembers members

def collectElements (bag : LeafBag) : List Json → LeafBag
  | [] => bag
  | element :: rest => (bag.collect element).collectElements rest

def collectMembers (bag : LeafBag) : List (String × Json) → LeafBag
  | [] => bag
  | (_, value) :: rest => (bag.collect value).collectMembers rest

end

def ofStream (stream : List Json) : LeafBag := collectElements [] stream

def missingFrom (bag other : LeafBag) : Nat :=
  (bag.map fun entry => entry.2 - other.count entry.1).sum

def same (bag other : LeafBag) : Bool :=
  bag.length == other.length && bag.all fun entry => other.count entry.1 == entry.2

theorem count_add (leaf other : Leaf) (bag : LeafBag) :
    count (add leaf bag) other = count bag other + if other = leaf then 1 else 0 := by
  induction bag with
  | nil =>
      by_cases equal : other = leaf
      · simp [add, count, equal]
      · have differs : (other == leaf) = false := by simpa using equal
        simp [add, count, List.lookup_cons, equal, differs]
  | cons entry rest induction =>
      obtain ⟨first, occurrences⟩ := entry
      by_cases here : first = leaf
      · subst here
        by_cases equal : other = first
        · simp [add, count, equal]
        · have differs : (other == first) = false := by simpa using equal
          simp [add, count, List.lookup_cons, equal, differs]
      · by_cases equal : other = first
        · subst equal
          simp [add, count, here]
        · have differs : (other == first) = false := by simpa using equal
          simp only [count] at induction
          simp [add, count, here, List.lookup_cons, differs, induction]

end LeafBag

end FilterSynthesis
