import FilterSynthesis.Entries
import FilterSynthesis.Files.Access
import FilterSynthesis.Files.Path

namespace FilterSynthesis

inductive FileTree where
  | file (content : Bytes)
  | directory (entries : List (String × FileTree))
  deriving Inhabited

namespace FileTree

def empty : FileTree := .directory []

def kind : FileTree → FileKind
  | .file _ => .file
  | .directory _ => .directory

def find : FileTree → List String → Option FileTree
  | tree, [] => some tree
  | .directory entries, name :: rest => (entries.lookup name).bind fun entry => entry.find rest
  | .file _, _ :: _ => none

def insert : (tree : FileTree) → (names : List String) → (new : FileTree) → FileTree
  | _, [], new => new
  | .directory entries, name :: rest, new =>
      let entry := (entries.lookup name).getD empty
      .directory (Entries.put name (entry.insert rest new) entries)
  | .file content, _ :: _, _ => .file content

def isLongName (name : String) : Bool := 255 < name.utf8ByteSize

/-- The names under which the steps lead, from the given names on. The outermost directory is its
own parent. -/
def follow (tree : FileTree) : (names : List String) → (steps : List String) →
    Except FileError (List String)
  | names, [] => .ok names
  | names, step :: rest =>
      match tree.find names with
      | none => .error .notFound
      | some (.file _) => .error .notADirectory
      | some (.directory entries) =>
          if Path.stays step then follow tree names rest
          else if step = ".." then follow tree names.dropLast rest
          else if isLongName step then .error .nameTooLong
          else if (entries.lookup step).isSome then follow tree (names ++ [step]) rest
          else .error .notFound

def makeSteps : (tree : FileTree) → (names : List String) → (steps : List String) →
    Except FileError FileTree
  | tree, names, [] =>
      match tree.find names with
      | some (.file _) => .error .alreadyExists
      | _ => .ok tree
  | tree, names, step :: rest =>
      match tree.find names with
      | none => .error .notFound
      | some (.file _) => .error .notADirectory
      | some (.directory entries) =>
          if Path.stays step then makeSteps tree names rest
          else if step = ".." then makeSteps tree names.dropLast rest
          else if isLongName step then .error .nameTooLong
          else if (entries.lookup step).isSome then makeSteps tree (names ++ [step]) rest
          else makeSteps (tree.insert (names ++ [step]) empty) (names ++ [step]) rest

end FileTree

structure FileSystem where
  root : FileTree
  working : List String
  deriving Inhabited

namespace FileSystem

/-- A working directory and little else. No path spells its name, which has a slash; `..` leads out
of it to directories without anything else in them. -/
def ofWorking (tree : FileTree) : FileSystem :=
  let working := ["tmp", "working/directory"]
  ⟨(FileTree.empty.insert ["dev", "null"] (.file [])).insert working tree, working⟩

/-- A path has some bytes, and at most 4095. -/
def checkPath (path : String) : Except FileError Unit :=
  if path = "" then .error .notFound
  else if 4095 < path.utf8ByteSize then .error .nameTooLong
  else .ok ()

def start (system : FileSystem) (path : String) : List String :=
  if Path.isAbsolute path then [] else system.working

def at? (system : FileSystem) (path : String) : Except FileError FileTree := do
  checkPath path
  let names ← system.root.follow (system.start path) (Path.pieces path)
  match system.root.find names with
  | some found => return found
  | none => throw .notFound

def read (system : FileSystem) (path : String) : Except FileError Bytes :=
  match system.at? path with
  | .error error => .error error
  | .ok (.file content) => .ok content
  | .ok (.directory _) => .error .isADirectory

def kind? (system : FileSystem) (path : String) : Option FileKind :=
  match system.at? path with
  | .error _ => none
  | .ok found => some found.kind

def list (system : FileSystem) (path : String) : Except FileError (List (String × FileKind)) :=
  match system.at? path with
  | .error error => .error error
  | .ok (.file _) => .error .notADirectory
  | .ok (.directory entries) => .ok (entries.map fun entry => (entry.1, entry.2.kind))

/-- The empty path names the working directory here. -/
def makeDirectories (system : FileSystem) (path : String) : Except FileError FileSystem := do
  if path = "" then return system
  checkPath path
  return { system with root := ← system.root.makeSteps (system.start path) (Path.pieces path) }

/-- A path that ends in a slash names a directory, which cannot be written. -/
def write (system : FileSystem) (path : String) (content : Bytes) :
    Except FileError FileSystem := do
  checkPath path
  let steps := ((Path.pieces path).reverse.dropWhile (· = "")).reverse
  let last := steps.getLastD ""
  let names ← system.root.follow (system.start path) steps.dropLast
  match system.root.find names with
  | some (.directory entries) =>
      if path.endsWith "/" || Path.stays last || last == ".." then throw .isADirectory
      else if FileTree.isLongName last then throw .nameTooLong
      else
        match entries.lookup last with
        | some (.directory _) => throw .isADirectory
        | _ => return { system with root := system.root.insert (names ++ [last]) (.file content) }
  | _ => throw .notADirectory

def changed (system : FileSystem) :
    Except FileError FileSystem → Except FileError Unit × FileSystem
  | .ok next => (.ok (), next)
  | .error error => (.error error, system)

end FileSystem

namespace Access

variable {α β : Type}

/-- What a program comes to on a file system, and the file system that it leaves. No time passes. -/
def run : Access α → FileSystem → α × FileSystem
  | .done result, system => (result, system)
  | .read path next, system => (next (system.read path)).run system
  | .kind path next, system => (next (system.kind? path)).run system
  | .list path next, system => (next (system.list path)).run system
  | .makeDirectories path next, system =>
      let (answer, left) := system.changed (system.makeDirectories path)
      (next answer).run left
  | .write path text next, system =>
      let (answer, left) := system.changed (system.write path text.toUTF8.toList)
      (next answer).run left
  | .clock next, system => (next 0).run system

end Access

end FilterSynthesis
