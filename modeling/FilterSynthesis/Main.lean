import FilterSynthesis.CommandLine.Fixtures

namespace FilterSynthesis

namespace FileError

def ofSystem : IO.Error → FileError
  | .alreadyExists _ number reason => ⟨reason, number.toNat⟩
  | .inappropriateType _ number reason => ⟨reason, number.toNat⟩
  | .noFileOrDirectory _ number reason => ⟨reason, number.toNat⟩
  | .permissionDenied _ number reason => ⟨reason, number.toNat⟩
  | .invalidArgument _ number reason => ⟨reason, number.toNat⟩
  | .resourceExhausted _ number reason => ⟨reason, number.toNat⟩
  | .otherError number reason => ⟨reason, number.toNat⟩
  | error => ⟨error.toString, 0⟩

end FileError

def attempt {α : Type} (action : IO α) : IO (Except FileError α) := do
  match ← action.toBaseIO with
  | .ok result => return .ok result
  | .error error => return .error (.ofSystem error)

def kindInSystem (path : String) : IO (Option FileKind) := do
  match ← (IO.FS.realPath path).toBaseIO with
  | .error _ => return none
  | .ok found => return some (if ← found.isDir then .directory else .file)

def entriesInSystem (path : String) : IO (List (String × FileKind)) := do
  let directory ← IO.FS.realPath path
  let entries ← directory.readDir
  entries.toList.mapM fun entry => do
    return (entry.fileName, if ← entry.path.isDir then .directory else .file)

def Access.perform {α : Type} : Access α → IO α
  | .done result => return result
  | .read path next => do
      (next ((← attempt (IO.FS.readBinFile path)).map ByteArray.toList)).perform
  | .kind path next => do (next (← kindInSystem path)).perform
  | .list path next => do (next (← attempt (entriesInSystem path))).perform
  | .makeDirectories path next => do
      let answer ← if path = "" then pure (.ok ()) else attempt (IO.FS.createDirAll path)
      (next answer).perform
  | .write path text next => do (next (← attempt (IO.FS.writeFile path text))).perform
  | .clock next => do (next (← IO.monoMsNow)).perform

/-- The first word `fixtures` selects the fixture runner. -/
def program : (words : List String) → Access CommandLine.Finish
  | "fixtures" :: words => CommandLine.runFixtures words
  | words => CommandLine.runWords words

end FilterSynthesis

def main (words : List String) : IO UInt32 := do
  let finish ← (FilterSynthesis.program words).perform
  IO.print finish.output
  IO.eprint finish.errors
  return finish.code.toUInt32
