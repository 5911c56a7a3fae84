import FilterSynthesis.Program.Literal

namespace FilterSynthesis

inductive Operator where
  | all
  | any
  /-- Each element of an array or value of an object, one after the other. -/
  | forEach
  | keys
  | sort
  | index (key : String)
  | groupBy (key : String)
  | sortBy (key : String)
  /-- The value itself if its entry under the key equals the literal, else nothing. -/
  | select (key : String) (literal : Literal)
  deriving DecidableEq, Repr

/-- Operators from left to right; none of them is the identity. -/
abbrev Pipeline := List Operator

namespace Pipeline

def identity : Pipeline := []

def extend (pipeline : Pipeline) (operator : Operator) : Pipeline := pipeline ++ [operator]

@[simp] theorem length_extend (pipeline : Pipeline) (operator : Operator) :
    (extend pipeline operator).length = pipeline.length + 1 := by
  simp [extend]

end Pipeline

/-- What synthesis answers: a pipeline, or a record built field by field. -/
inductive Program where
  | pipeline (operators : Pipeline)
  | record (fields : List (String × Program))
  deriving Repr, Inhabited

end FilterSynthesis
