import FilterSynthesis.CommandLine.Inputs
import FilterSynthesis.Json.Printer
import FilterSynthesis.Schema.Text
import FilterSynthesis.Synthesis.Basic

/-!
The three commands: `synth` reports the filters that fit each document, `schema` prints what the
inputs and the outputs of each document have in common, and `check` tries a given filter.
-/

namespace FilterSynthesis.CommandLine

structure SynthesisReport where
  file : String
  outcome : Except SynthesisError (List String)
  reference : Option String

namespace SynthesisReport

def ofSource (settings : Settings) (source : Source) : SynthesisReport :=
  let result :=
    (Synthesis.run Filter.oracle settings source.document.examples source.document.constants).result
  { file := source.path
    outcome := result.map fun programs => programs.map Program.text
    reference := source.document.expression }

def isFailure (report : SynthesisReport) : Bool :=
  match report.outcome with
  | .ok _ => false
  | .error _ => true

def text (report : SynthesisReport) (elapsed : Nat) : String :=
  match report.outcome with
  | .ok texts =>
      s!"✔ {report.file} ({elapsed} ms)\n" ++ String.join (texts.map fun text => s!"    {text}\n")
  | .error error => s!"✘ {report.file} ({elapsed} ms)\n    {error.message}\n"

def toJson (report : SynthesisReport) (elapsed : Nat) : Json :=
  let texts := match report.outcome with
    | .ok texts => texts
    | .error _ => []
  let error := match report.outcome with
    | .ok _ => []
    | .error error => [("error", Json.string error.message)]
  let reference := match report.reference with
    | some text => [("reference", Json.string text)]
    | none => []
  .object ([("file", .string report.file), ("expressions", .array (texts.map .string))] ++ error ++
    reference ++ [("elapsed_ms", .number (.int elapsed))])

def failure? (reports : List SynthesisReport) : Option Failure :=
  let failed := reports.countP isFailure
  if failed = 0 then none
  else some ⟨s!"{failed} of {reports.length} documents could not be synthesized", []⟩

end SynthesisReport

def timedReport (settings : Settings) (source : Source) : Access (SynthesisReport × Nat) := do
  let start ← Access.now
  let report := SynthesisReport.ofSource settings source
  let stop ← Access.now
  return (report, stop - start)

def writeText (path text : String) : ExceptT Failure Access Unit := do
  match ← (Access.createDirectories (Path.parent path) : Access _) with
  | .error error => throw ⟨error.message, []⟩
  | .ok () =>
      match ← (Access.writeFile path text : Access _) with
      | .error error => throw ⟨s!"writing {path}", [error.message]⟩
      | .ok () => return

def schemaView (source : Source) : Json :=
  let examples := source.document.examples
  .object [("file", .string source.path),
    ("input", (Schema.common (examples.map (·.input))).toJson),
    ("output", (Schema.common (examples.flatMap (·.output))).toJson)]

def checkSource (expression : String) (policy : ScorePolicy) (source : Source) : Verdict :=
  (review Filter.oracle policy expression source.document.examples).verdict

def verdictText (path : String) (verdict : Verdict) : String :=
  if verdict.isMatch then s!"✔ {path}\n" else s!"✘ {path} (score {verdict.score})\n"

def mismatch? (expression : String) (verdicts : List Verdict) : Option Failure :=
  let failed := verdicts.countP fun verdict => !verdict.isMatch
  if failed = 0 then none else some ⟨s!"`{expression}` does not satisfy {failed} document(s)", []⟩

inductive Command where
  | synth (inputs : List String) (settings : Settings) (out : Option String)
  | schema (inputs : List String)
  | check (inputs : List String) (expression : String) (policy : ScorePolicy)
  deriving Repr

namespace Command

def finish (output : String) : Option Failure → Finish
  | none => .success output
  | some failure => .failure output failure

/-- Run a command as far as nothing fails that keeps it from printing. -/
def steps : Command → ExceptT Failure Access Finish
  | .synth inputs settings out => do
      let sources ← loadInputs inputs
      let reports ← (sources.mapM (timedReport settings) : Access _)
      let failure := SynthesisReport.failure? (reports.map (·.1))
      match out with
      | some path => do
          writeText path (Json.array (reports.map fun (report, elapsed) =>
            report.toJson elapsed)).pretty
          return finish "" failure
      | none =>
          return finish (String.join (reports.map fun (report, elapsed) => report.text elapsed))
            failure
  | .schema inputs => do
      let sources ← loadInputs inputs
      return .success (String.join (sources.map fun source => (schemaView source).pretty ++ "\n"))
  | .check inputs expression policy => do
      let sources ← loadInputs inputs
      let verdicts := sources.map (checkSource expression policy)
      return finish
        (String.join (List.zipWith (fun source verdict => verdictText source.path verdict)
          sources verdicts))
        (mismatch? expression verdicts)

def run (command : Command) : Access Finish := do
  match ← command.steps.run with
  | .ok finish => return finish
  | .error failure => return .failure "" failure

end Command

end FilterSynthesis.CommandLine
