import FilterSynthesis.CommandLine.Arguments
import FilterSynthesis.CommandLine.Command
import FilterSynthesis.Settings.Format

namespace FilterSynthesis.CommandLine

open scoped Arithmetic

/-- A number of at most 64 bits in decimal digits, with a plus sign in front or not. -/
def size? (text : String) : Option Nat :=
  let digits := match text.toList with
    | '+' :: rest => rest
    | chars => chars
  let value := digits.foldl (fun value char => value * 10 + (char.toNat - 48)) 0
  if digits.isEmpty || !digits.all Char.isDigit || 2 ^ (64 : Nat) ≤ value then none else some value

def Arguments.read {α : Type} (arguments : Arguments) (name : String) (read? : String → Option α)
    (absent : α) : Except ArgumentError α :=
  match arguments.value? name with
  | none => .ok absent
  | some text =>
      match read? text with
      | some value => .ok value
      | none => .error (.badValue name text)

def path? (text : String) : Option String := if text = "" then none else some text

namespace OptionFormat

/-- Accepted everywhere; progress is not reported. -/
def verbose : OptionFormat := ⟨"verbose", some 'v', .switch⟩

def input : OptionFormat := ⟨"input", some 'i', .list⟩

def depth : OptionFormat := ⟨"depth", none, .single⟩

def maxResults : OptionFormat := ⟨"max-results", none, .single⟩

def scorePolicy : OptionFormat := ⟨"score-policy", none, .single⟩

def noVerifyUnion : OptionFormat := ⟨"no-verify-union", none, .switch⟩

def out : OptionFormat := ⟨"out", some 'o', .single⟩

def expr : OptionFormat := ⟨"expr", some 'e', .single⟩

def dir : OptionFormat := ⟨"dir", none, .single⟩

end OptionFormat

def synthFormats : List OptionFormat :=
  [.verbose, .input, .depth, .maxResults, .scorePolicy, .noVerifyUnion, .out]

def schemaFormats : List OptionFormat := [.verbose, .input]

def checkFormats : List OptionFormat := [.verbose, .input, .expr, .scorePolicy]

def Arguments.inputs (arguments : Arguments) : Except ArgumentError (List String) :=
  match arguments.values "input" with
  | [] => .error (.missingOption "input")
  | inputs => .ok inputs

def Arguments.policy (arguments : Arguments) : Except ArgumentError ScorePolicy :=
  arguments.read "score-policy" ScorePolicy.ofName? ({} : Settings).policy

def Arguments.settings (arguments : Arguments) : Except ArgumentError Settings := do
  let settings : Settings := {}
  let depth ← arguments.read "depth" size? settings.depth
  let wanted ← arguments.read "max-results" size? settings.wanted
  let policy ← arguments.policy
  let verifyAssembled := !arguments.has "no-verify-union"
  return ({ settings with policy, verifyAssembled }.withDepth depth).withWanted wanted

namespace Command

def synthOf (words : List String) : Except ArgumentError Command := do
  let arguments ← readArguments synthFormats 0 words
  let settings ← arguments.settings
  let out ← arguments.read "out" (fun text => (path? text).map some) none
  return .synth (← arguments.inputs) settings out

def schemaOf (words : List String) : Except ArgumentError Command := do
  let arguments ← readArguments schemaFormats 0 words
  return .schema (← arguments.inputs)

def checkOf (words : List String) : Except ArgumentError Command := do
  let arguments ← readArguments checkFormats 0 words
  let policy ← arguments.policy
  match arguments.value? "expr" with
  | none => throw (.missingOption "expr")
  | some expression => return .check (← arguments.inputs) expression policy

def ofName (name : String) (words : List String) : Except ArgumentError Command :=
  match name with
  | "synth" => synthOf words
  | "schema" => schemaOf words
  | "check" => checkOf words
  | "help" =>
      if words = [] ∨ words = ["synth"] ∨ words = ["schema"] ∨ words = ["check"] ∨
          words = ["help"] then
        .error .helpWanted
      else .error (.unexpectedWord (words.headD ""))
  | name => .error (.unexpectedWord name)

def ofWords (words : List String) : Except ArgumentError Command :=
  (({} : Scan).run [.verbose] 0 words).bind fun
    | (scan, name :: rest) => scan.close.bind fun _ => ofName name rest
    | (_, []) => .error .missingCommand

end Command

def ArgumentError.finish (usage : String) : ArgumentError → Finish
  | .helpWanted => .success usage
  | error => ⟨"", s!"error: {error.message}\n\n" ++ usage, 2⟩

def usage : String :=
  String.join [
    "Usage: [-v] COMMAND -i INPUT... [OPTION...]\n\nCommands:\n",
    "  synth   find filters for the examples of each document\n",
    "          [--depth N] [--max-results N] [--score-policy POLICY] [--no-verify-union] [-o FILE]\n",
    "  schema  print what the inputs and the outputs of each document have in common\n",
    "  check   try a filter on each document\n",
    "          -e FILTER [--score-policy POLICY]\n"]

def runWords (words : List String) : Access Finish :=
  match Command.ofWords words with
  | .ok command => command.run
  | .error error => pure (error.finish usage)

end FilterSynthesis.CommandLine
