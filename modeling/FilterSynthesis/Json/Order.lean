import FilterSynthesis.Json.Basic
import FilterSynthesis.Order

/-!
The order of JSON values in which filters sort: null, false, true, numbers, strings, arrays,
objects. Strings go by code point and arrays element by element. Of two objects the empty one comes
first; then their sorted keys decide, then their values in the order of the sorted keys.
-/

namespace FilterSynthesis.Json

def sortedKeys (members : List (String × Json)) : List String :=
  Sorting.stable (fun left right => decide (left < right)) (members.map (·.1))

def decisive (comparisons : List (String × Ordering)) : Ordering :=
  (Sorting.stable (fun left right => decide (left.1 < right.1)) comparisons).foldr
    (fun comparison rest => comparison.2.then rest) .eq

def kindRank : Json → Nat
  | .null => 0
  | .bool false => 1
  | .bool true => 2
  | .number _ => 3
  | .string _ => 4
  | .array _ => 5
  | .object _ => 6

mutual

def order : Json → Json → Ordering
  | .number left, .number right => left.order right
  | .string left, .string right => compare left right
  | .array left, .array right => orderElements left right
  | .object left, .object right =>
      match left, right with
      | [], [] => .eq
      | [], _ :: _ => .lt
      | _ :: _, [] => .gt
      | _, _ =>
          (lexicographic compare (sortedKeys left) (sortedKeys right)).then
            (decisive (orderMembers left right))
  | left, right => compare left.kindRank right.kindRank

def orderElements : List Json → List Json → Ordering
  | [], [] => .eq
  | [], _ :: _ => .lt
  | _ :: _, [] => .gt
  | left :: lefts, right :: rights => (left.order right).then (orderElements lefts rights)

def orderMembers : List (String × Json) → List (String × Json) → List (String × Ordering)
  | [], _ => []
  | (key, left) :: lefts, rights =>
      (key, match rights.lookup key with
        | some right => left.order right
        | none => .gt) :: orderMembers lefts rights

end

def less (left right : Json) : Bool := left.order right == .lt

def sort (elements : List Json) : List Json := Sorting.stable less elements

end FilterSynthesis.Json
