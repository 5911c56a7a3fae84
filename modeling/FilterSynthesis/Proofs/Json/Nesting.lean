import FilterSynthesis.Proofs.Json.WellFormed
import Mathlib.Algebra.Order.Ring.Nat

namespace FilterSynthesis.Json

mutual

def nesting : Json → Nat
  | .object members => nestingOfMembers members + 1
  | _ => 0

def nestingOfMembers : List (String × Json) → Nat
  | [] => 0
  | (_, value) :: rest => max value.nesting (nestingOfMembers rest)

end

mutual

def entries : Json → Nat
  | .object members => entriesOfMembers members
  | _ => 0

def entriesOfMembers : List (String × Json) → Nat
  | [] => 0
  | (_, value) :: rest => 1 + value.entries + entriesOfMembers rest

end

theorem nestingOfMembers_le_iff {members : List (String × Json)} {bound : Nat} :
    nestingOfMembers members ≤ bound ↔ ∀ member ∈ members, member.2.nesting ≤ bound := by
  induction members with
  | nil => simp [nestingOfMembers]
  | cons member rest induction => rw [nestingOfMembers, Nat.max_le, induction, List.forall_mem_cons]

theorem nesting_lt_of_lookup {value held : Json} {key : String}
    (found : value.lookup? key = some held) : held.nesting < value.nesting := by
  cases value with
  | object members =>
      have listed := Entries.mem_of_lookup found
      have bound := nestingOfMembers_le_iff.mp (Nat.le_refl (nestingOfMembers members)) _ listed
      rw [nesting]
      exact Nat.lt_succ_of_le bound
  | _ => cases found

theorem entries_object (members : List (String × Json)) :
    (object members).entries = (members.map fun member => 1 + member.2.entries).sum := by
  rw [entries]
  induction members with
  | nil => rfl
  | cons member rest induction =>
      rw [entriesOfMembers, induction, List.map_cons, List.sum_cons]

end FilterSynthesis.Json
