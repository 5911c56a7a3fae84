import FilterSynthesis.Filter.Parser
import FilterSynthesis.Filter.Stages
import FilterSynthesis.Reading.Reread

namespace FilterSynthesis

namespace Filter

mutual

def eval : Filter → Json → Outputs
  | .identity, value => .single value
  | .index key, value => value.entry key
  | .iterate, value => value.iterate
  | .literal result, _ => .single result
  | .all, value => value.allTrue
  | .any, value => value.anyTrue
  | .keys, value => value.keys
  | .sort, value => value.sorted
  | .select condition, value => value.selected (eval condition)
  | .sortBy key, value => value.sortedBy (eval key)
  | .groupBy key, value => value.groupedBy (eval key)
  | .equals filter other, value =>
      (eval filter value).bind fun result => .single (result.ranksWith other)
  | .pipe first second, value => (eval first value).bind (eval second)
  | .record entries, value => .records (evalEntries entries value)
  | .unknown name _, _ => .failed (.unknownName name)

def evalEntries : List (String × Filter) → Json → List (String × Outputs)
  | [], _ => []
  | (key, filter) :: rest, value => (key, eval filter value) :: evalEntries rest value

end

end Filter

inductive RunError where
  | malformed
  | undefined (names : List (String × Nat))
  | failed (misfit : Misfit)
  | unreadable
  deriving DecidableEq, Repr

/-- How deep an output may be nested. -/
def outputNesting : Nat := 127

/-- An output as it is handed on: written and read back. -/
def Json.handedOn? (value : Json) : Option Json :=
  if outputNesting < value.depth then none else value.reread?

/-- All outputs as they are handed on, if neither the filter fails nor one of them cannot be; of two
such faults the first in the stream counts. -/
def Outputs.collect : Outputs → Except RunError (List Json)
  | .done => .ok []
  | .failed misfit => .error (.failed misfit)
  | .emit value rest =>
      match value.handedOn? with
      | none => .error .unreadable
      | some value =>
          match rest.collect with
          | .ok values => .ok (value :: values)
          | .error error => .error error

namespace Filter

def run (text : String) (value : Json) : Except RunError (List Json) :=
  match parse text.toList with
  | none => .error .malformed
  | some filter =>
      match filter.unknownNames with
      | [] => (filter.eval value).collect
      | names => .error (.undefined names)

end Filter

/-- What is said about a text with undefined names; the other errors have no text. -/
def RunError.message? (text : String) : RunError → Option String
  | .undefined names =>
      some (s!"`{text}`: " ++ "; ".intercalate
        (names.map fun entry => s!"undefined `{entry.1}`: Filter({entry.2})"))
  | _ => none

/-- Whatever runs filter texts: the stream it answers, or nothing if it fails. -/
abbrev Oracle := String → Json → Option (List Json)

def Filter.oracle : Oracle := fun text value => (run text value).toOption

end FilterSynthesis
