/-!
The words of a command line: options with a long name and possibly a letter, and plain words.
`--name=value`, `-l=value` and `-lvalue` attach a value; letters of switches may be run together;
after `--` every word is plain.
-/

namespace FilterSynthesis.CommandLine

inductive Arity where
  | switch
  | single
  /-- At least one, and as many as follow; the option may be given several times. -/
  | list
  deriving DecidableEq, Repr

structure OptionFormat where
  name : String
  letter : Option Char
  arity : Arity
  deriving DecidableEq, Repr

inductive ArgumentError where
  | helpWanted
  | unknownOption (word : String)
  | unexpectedWord (word : String)
  | unwantedValue (name : String)
  | missingValue (name : String)
  | repeatedOption (name : String)
  | missingOption (name : String)
  | missingCommand
  | badValue (name value : String)
  deriving DecidableEq, Repr

def ArgumentError.message : ArgumentError → String
  | .helpWanted => "help is wanted"
  | .unknownOption word => s!"there is no option '{word}'"
  | .unexpectedWord word => s!"nothing is expected at '{word}'"
  | .unwantedValue name => s!"the option '--{name}' takes no value"
  | .missingValue name => s!"the option '--{name}' needs a value"
  | .repeatedOption name => s!"the option '--{name}' is given twice"
  | .missingOption name => s!"the option '--{name}' is needed"
  | .missingCommand => "a command is needed"
  | .badValue name value => s!"'{value}' is no value for '{name}'"

structure Arguments where
  options : List (String × List String)
  words : List String
  deriving Repr, Inhabited

namespace Arguments

def has (arguments : Arguments) (name : String) : Bool :=
  arguments.options.any (·.1 = name)

def values (arguments : Arguments) (name : String) : List String :=
  (arguments.options.filter (·.1 = name)).flatMap (·.2)

def value? (arguments : Arguments) (name : String) : Option String :=
  (arguments.values name).head?

end Arguments

structure Scan where
  options : List (String × List String) := []
  words : List String := []
  pending : Option (OptionFormat × List String) := none

namespace Scan

def note (scan : Scan) (format : OptionFormat) (values : List String) :
    Except ArgumentError Scan :=
  if format.arity != .list && scan.options.any (·.1 = format.name) then
    .error (.repeatedOption format.name)
  else .ok { scan with options := scan.options ++ [(format.name, values)] }

def close (scan : Scan) : Except ArgumentError Scan :=
  match scan.pending with
  | none => .ok scan
  | some (format, []) => .error (.missingValue format.name)
  | some (format, values) => { scan with pending := none }.note format values

/-- A plain word that stands for a value or for itself. -/
def word (scan : Scan) (room : Nat) (word : String) : Except ArgumentError Scan :=
  match scan.pending with
  | some (format, values) =>
      let next := { scan with pending := some (format, values ++ [word]) }
      if format.arity = .single then next.close else .ok next
  | none =>
      if scan.words.length < room then .ok { scan with words := scan.words ++ [word] }
      else .error (.unexpectedWord word)

def option (scan : Scan) (format : OptionFormat) (attached : Option String) :
    Except ArgumentError Scan :=
  match scan.close with
  | .error error => .error error
  | .ok scan =>
      match format.arity, attached with
      | .switch, none => scan.note format []
      | .switch, some _ => .error (.unwantedValue format.name)
      | _, some value => scan.note format [value]
      | _, none => .ok { scan with pending := some (format, []) }

def long (scan : Scan) (formats : List OptionFormat) (chars : List Char) :
    Except ArgumentError Scan :=
  let name := String.ofList (chars.takeWhile (· ≠ '='))
  let attached := match chars.dropWhile (· ≠ '=') with
    | [] => none
    | _ :: value => some (String.ofList value)
  match formats.find? (·.name = name) with
  | some format => scan.option format attached
  | none =>
      if name = "help" ∧ attached = none then
        scan.close.bind fun _ => .error .helpWanted
      else .error (.unknownOption ("--" ++ name))

def letters (scan : Scan) (formats : List OptionFormat) :
    List Char → Except ArgumentError Scan
  | [] => .ok scan
  | letter :: rest =>
      match formats.find? (·.letter = some letter) with
      | none =>
          if letter = 'h' then scan.close.bind fun _ => .error .helpWanted
          else .error (.unknownOption (String.ofList ['-', letter]))
      | some format =>
          if format.arity = .switch then
            match scan.option format none with
            | .ok next => next.letters formats rest
            | .error error => .error error
          else
            scan.option format (match rest with
              | [] => none
              | '=' :: value => some (String.ofList value)
              | value => some (String.ofList value))

def arguments (scan : Scan) : Except ArgumentError Arguments :=
  scan.close.map fun scan => ⟨scan.options, scan.words⟩

def plain (scan : Scan) (room : Nat) : List String → Except ArgumentError Scan
  | [] => .ok scan
  | word :: rest => (scan.word room word).bind fun next => next.plain room rest

/-- Read words up to the first plain one, for which there is no room, or to the end. -/
def run (scan : Scan) (formats : List OptionFormat) (room : Nat) :
    List String → Except ArgumentError (Scan × List String)
  | [] => .ok (scan, [])
  | word :: rest =>
      match word.toList with
      | ['-', '-'] =>
          (scan.close.bind fun next => next.plain room rest).map (·, [])
      | '-' :: '-' :: chars => (scan.long formats chars).bind fun next => next.run formats room rest
      | '-' :: letter :: others =>
          (scan.letters formats (letter :: others)).bind fun next => next.run formats room rest
      | _ =>
          if scan.pending.isNone ∧ room ≤ scan.words.length then .ok (scan, word :: rest)
          else (scan.word room word).bind fun next => next.run formats room rest

end Scan

def readArguments (formats : List OptionFormat) (room : Nat) (words : List String) :
    Except ArgumentError Arguments :=
  (({} : Scan).run formats room words).bind fun
    | (scan, []) => scan.arguments
    | (_, word :: _) => .error (.unexpectedWord word)

end FilterSynthesis.CommandLine
