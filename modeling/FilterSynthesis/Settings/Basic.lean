import FilterSynthesis.Verification.Basic

namespace FilterSynthesis

structure Settings where
  depth : Nat := 3
  wanted : Nat := 1
  policy : ScorePolicy := .firstMismatch
  /-- Review what is assembled field by field against the examples as a whole. -/
  verifyAssembled : Bool := true
  deriving DecidableEq, Repr, Inhabited

namespace Settings

def withDepth (settings : Settings) (depth : Nat) : Settings := { settings with depth }

def withWanted (settings : Settings) (wanted : Nat) : Settings :=
  { settings with wanted := max wanted 1 }

end Settings

end FilterSynthesis
