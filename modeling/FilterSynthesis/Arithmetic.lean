/-!
Powers and sums of natural numbers. Mathlib has instances of its own for both. Definitions here do
without Mathlib and theorems use it, so the core instances go first where a power or a sum is
written: the term is then one and the same under either set of imports.
-/

namespace FilterSynthesis.Arithmetic

attribute [scoped instance (high)] instPowNat Zero.ofOfNat0

end FilterSynthesis.Arithmetic
