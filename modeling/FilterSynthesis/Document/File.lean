import FilterSynthesis.Document.Text
import FilterSynthesis.Files.Access

namespace FilterSynthesis

inductive LoadError where
  | unreadable (path : String) (error : FileError)
  | invalid (error : DocumentError Position)

namespace LoadError

def message : LoadError → String
  | .unreadable path error => s!"failed to read {path}: {error.message}"
  | .invalid error => error.message

def chain (error : LoadError) : List String :=
  error.message :: match error with
    | .unreadable _ error => [error.message]
    | .invalid _ => []

end LoadError

def Document.ofContent (path : String) : Except FileError Bytes → Except LoadError Document
  | .error error => .error (.unreadable path error)
  | .ok bytes =>
      match ofBytes bytes with
      | .ok document => .ok document
      | .error error => .error (.invalid error)

def Document.load (path : String) : Access (Except LoadError Document) := do
  return ofContent path (← Access.readFile path)

end FilterSynthesis
