namespace FilterSynthesis.CommandLine

/-- Why a command fails: what was being done, and the causes, each the cause of the one before. -/
structure Failure where
  summary : String
  causes : List String := []
  deriving DecidableEq, Repr

namespace Failure

def causeChars (first others cause : List Char) : List Char :=
  '\n' :: (first ++ cause.flatMap fun char => if char = '\n' then char :: others else [char])

def numbered (index : Nat) : List String → List Char
  | [] => []
  | cause :: rest =>
      let digits := Nat.toDigits 10 index
      let first := List.replicate (5 - digits.length) ' ' ++ digits ++ [':', ' ']
      causeChars first (List.replicate 7 ' ') cause.toList ++ numbered (index + 1) rest

def text (failure : Failure) : String :=
  let causes := match failure.causes with
    | [] => []
    | [cause] => causeChars (List.replicate 4 ' ') (List.replicate 4 ' ') cause.toList
    | causes => numbered 0 causes
  "Error: " ++ failure.summary ++
    (if causes.isEmpty then "" else "\n\nCaused by:" ++ String.ofList causes) ++ "\n"

end Failure

structure Finish where
  output : String
  errors : String
  code : Nat
  deriving DecidableEq, Repr, Inhabited

namespace Finish

def success (output : String) : Finish := ⟨output, "", 0⟩

def failure (output : String) (failure : Failure) : Finish := ⟨output, failure.text, 1⟩

end Finish

end FilterSynthesis.CommandLine
