namespace FilterSynthesis

/-- Items that are left of some items, possibly all. -/
abbrev Rest {α : Type} (items : List α) := {rest : List α // rest.length ≤ items.length}

namespace Rest

variable {α : Type}

def all (items : List α) : Rest items := ⟨items, Nat.le_refl _⟩

def behind {first : α} {items : List α} (rest : Rest items) : Rest (first :: items) :=
  ⟨rest.1, Nat.le_succ_of_le rest.2⟩

end Rest

end FilterSynthesis
