import FilterSynthesis.CommandLine.Failure
import FilterSynthesis.Document.File
import FilterSynthesis.Files.Expansion

namespace FilterSynthesis.CommandLine

structure Source where
  path : String
  document : Document

def isPattern (input : String) : Bool :=
  input.toList.any fun char => char == '*' || char == '?' || char == '[' || char == '\x7b'

def unresolved (cause : String) : Failure := ⟨"failed to resolve input file paths", [cause]⟩

def resolve (input : String) : ExceptT Failure Access (List String) :=
  if isPattern input then do
    match ← ((PathPattern.expand input).run : Access _) with
    | .error error => throw (unresolved error.message)
    | .ok [] => throw (unresolved s!"glob pattern matched no files: {input}")
    | .ok paths => return paths
  else return [input]

def loadSource (path : String) : ExceptT Failure Access Source := do
  match ← (Document.load path : Access _) with
  | .error error => throw ⟨s!"loading {path}", error.chain⟩
  | .ok document => return ⟨path, document⟩

def loadInputs (inputs : List String) : ExceptT Failure Access (List Source) := do
  let paths ← inputs.mapM resolve
  paths.flatten.mapM loadSource

end FilterSynthesis.CommandLine
