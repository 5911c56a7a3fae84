import Mathlib

/-!
For modules that evaluate runs on closed inputs with `cbv`. It rewrites with the equations of every
function that a run calls, and Lean keeps the equations of a core function where they were first
asked for. For characters, look-ups and comparisons these places are spread over Mathlib, so it is
imported as a whole here and nowhere else.
-/
