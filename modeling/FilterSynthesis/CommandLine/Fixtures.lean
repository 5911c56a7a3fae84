import FilterSynthesis.CommandLine.Usage
import FilterSynthesis.Regex.Text

/-!
The fixture runner: synthesize a filter for every document in a directory, and try it on the
examples of the document.
-/

namespace FilterSynthesis.CommandLine

inductive Finding where
  | passed (text : String)
  | unsound (text : String)
  | failed (error : SynthesisError)
  deriving DecidableEq, Repr

namespace Finding

def reproduces (text : String) (examples : List Example) : Bool :=
  examples.all fun tried =>
    match Filter.run text tried.input with
    | .ok outputs => Json.sameElements outputs tried.output
    | .error _ => false

def ofDocument (settings : Settings) (document : Document) : Finding :=
  match (Synthesis.run Filter.oracle settings document.examples document.constants).result with
  | .error error => .failed error
  | .ok programs =>
      let text := (programs.head?.map Program.text).getD ""
      if reproduces text document.examples then .passed text else .unsound text

def isPassed : Finding → Bool
  | .passed _ => true
  | _ => false

def line (name : String) (reference : Option String) : Finding → String
  | .passed text =>
      let note := match reference with
        | some known => if known = text then "" else s!" (reference: {known})"
        | none => ""
      s!"✔ {name}: {text}{note}\n"
  | .unsound text => s!"✘ {name}: `{text}` does not reproduce the examples\n"
  | .failed error => s!"✘ {name}: {error.message}\n"

end Finding

structure FixtureRun where
  directory : String
  depth : Nat
  /-- What the stems of the files have to match. -/
  filter : Option Regex
  deriving Repr

namespace FixtureRun

def formats : List OptionFormat := [.depth, .dir]

def ofWords (words : List String) : Except ArgumentError FixtureRun := do
  let arguments ← readArguments formats 1 words
  let depth ← arguments.read "depth" size? ({} : Settings).depth
  let directory ← arguments.read "dir" path? "fixtures"
  match arguments.words with
  | [] => return ⟨directory, depth, none⟩
  | text :: _ =>
      match Regex.ofText? text with
      | some filter => return ⟨directory, depth, some filter⟩
      | none => throw (.badValue "filter" text)

def selects (fixtures : FixtureRun) (name : String) : Bool :=
  fixtures.filter.all (·.matchesIn name)

def runFixture (fixtures : FixtureRun) (path : String) : Access (Bool × String) := do
  let name := Path.stem path
  match ← Document.load path with
  | .error error => return (false, s!"✘ {name}: {error.message}\n")
  | .ok document =>
      let finding := Finding.ofDocument (({} : Settings).withDepth fixtures.depth) document
      return (finding.isPassed, finding.line name document.expression)

def run (fixtures : FixtureRun) : Access Finish := do
  let pattern := Path.join fixtures.directory "*.json"
  match ← (PathPattern.expand pattern).run with
  | .error (.malformed error) =>
      return .failure "" ⟨s!"invalid fixture pattern {pattern}", [error.message]⟩
  | .error error => return .failure "" ⟨error.message, []⟩
  | .ok paths =>
      let results ← (paths.filter fun path => fixtures.selects (Path.stem path)).mapM
        fixtures.runFixture
      let passed := results.countP (·.1)
      let failed := results.length - passed
      return {
        output := String.join (results.map (·.2)) ++ s!"\n{passed} passed, {failed} failed\n"
        errors := ""
        code := if failed = 0 then 0 else 1 }

def usage : String := "Usage: [NAME_REGEX] [--depth N] [--dir PATH]\n"

end FixtureRun

def runFixtures (words : List String) : Access Finish :=
  match FixtureRun.ofWords words with
  | .ok fixtures => fixtures.run
  | .error error => pure (error.finish FixtureRun.usage)

end FilterSynthesis.CommandLine
