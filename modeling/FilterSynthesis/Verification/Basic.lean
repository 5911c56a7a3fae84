import FilterSynthesis.Filter.Evaluation
import FilterSynthesis.Program.Literal
import FilterSynthesis.Verification.Leaves

namespace FilterSynthesis

/-- An input and the stream that a filter has to yield for it. -/
structure Example where
  input : Json
  output : List Json
  deriving Repr, Inhabited

inductive ScorePolicy where
  /-- Only the first failing example counts, and the ones after it are not tried. -/
  | firstMismatch
  | aggregate
  deriving DecidableEq, Repr, Inhabited

/-- The text of a candidate that fits all examples, or how many leaves the candidate misses. -/
structure Verdict where
  matched : Option String
  score : Nat
  deriving DecidableEq, Repr

namespace Verdict

def isMatch (verdict : Verdict) : Bool := verdict.matched.isSome

@[simp] theorem isMatch_some (text : String) (score : Nat) :
    isMatch ⟨some text, score⟩ = true := rfl

@[simp] theorem isMatch_none (score : Nat) : isMatch ⟨none, score⟩ = false := rfl

end Verdict

structure Review where
  verdict : Verdict
  tried : Nat
  deriving DecidableEq, Repr

/-- The number of leaves of the expected stream that the actual one lacks. -/
def shortfall (expected actual : List Json) : Nat :=
  (LeafBag.ofStream expected).missingFrom (.ofStream actual)

/-- What an oracle answers; a failure counts as an empty stream. -/
def Oracle.answer (oracle : Oracle) (text : String) (input : Json) : List Json :=
  (oracle text input).getD []

def review (oracle : Oracle) (policy : ScorePolicy) (text : String) : List Example → Review
  | [] => ⟨⟨some text, 0⟩, 0⟩
  | first :: rest =>
      let actual := oracle.answer text first.input
      if Json.sameElements actual first.output then
        let later := review oracle policy text rest
        ⟨later.verdict, later.tried + 1⟩
      else
        match policy with
        | .firstMismatch => ⟨⟨none, shortfall first.output actual⟩, 1⟩
        | .aggregate =>
            let later := review oracle policy text rest
            ⟨⟨none, shortfall first.output actual + later.verdict.score⟩, later.tried + 1⟩

structure Call where
  text : String
  input : Json

def Review.calls (review : Review) (text : String) (examples : List Example) : List Call :=
  (examples.take review.tried).map fun tried => ⟨text, tried.input⟩

structure Spec where
  examples : List Example
  constants : Constants
  policy : ScorePolicy

def Spec.review (spec : Spec) (oracle : Oracle) (text : String) : Review :=
  FilterSynthesis.review oracle spec.policy text spec.examples

end FilterSynthesis
