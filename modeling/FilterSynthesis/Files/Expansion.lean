import FilterSynthesis.Files.Access
import FilterSynthesis.Files.Path
import FilterSynthesis.Files.Wildcard

/-!
The paths that a pattern stands for. A pattern is matched piece by piece: pieces without wildcards
are looked up, the others are compared with the entries of a directory.
-/

namespace FilterSynthesis

inductive ExpansionError where
  | malformed (error : PatternError)
  | unreadable (path : String) (error : FileError)

def ExpansionError.message : ExpansionError → String
  | .malformed error => error.message
  | .unreadable path error =>
      s!"attempting to read `{path}` resulted in an error: {error.message}"

structure PathPattern where
  pieces : List (List Wildcard)
  /-- Only directories fit, because the pattern ends in a slash. -/
  directoriesOnly : Bool

namespace PathPattern

/-- The pieces of a text; a slash at the end opens none. -/
def piecesOf (text : String) : List String :=
  match Path.pieces text with
  | [""] => []
  | pieces => if pieces.getLast? = some "" then pieces.dropLast else pieces

def parse (text : String) : Except PatternError PathPattern := do
  discard (Wildcard.parse text)
  return ⟨← (piecesOf text).mapM Wildcard.parse, text.endsWith "/"⟩

def below (directory name : String) : String :=
  if Path.isHere directory then name else Path.join directory name

/-- The paths found by matching, or the first directory that could not be read. -/
abbrev Lookup := ExceptT ExpansionError Access

/-- How deep directories can be nested: a path of the system is shorter than twice this. -/
def nestingLimit : Nat := 2048

/-- Two pieces that stand for any directories are the same as one. -/
def afterDirectories (pieces : List (List Wildcard)) : List (List Wildcard) :=
  pieces.dropWhile (· = [.anyDirectories])

theorem length_afterDirectories_le (pieces : List (List Wildcard)) :
    (afterDirectories pieces).length ≤ pieces.length :=
  (List.dropWhile_suffix (l := pieces) (· = [.anyDirectories])).length_le

variable (directoriesOnly : Bool)

def fitting (path : String) (kind : FileKind) : List String :=
  if directoriesOnly && kind == .file then [] else [path]

mutual

/-- What the pieces stand for in a directory. -/
def inside (room : Nat) (pieces : List (List Wildcard)) (path : String) (kind : FileKind) :
    Lookup (List String) :=
  match pieces with
  | [] => return []
  | piece :: rest =>
      match Wildcard.fixed? piece with
      | some name => do
          let next := below path (String.ofList name)
          let isSpecial := name == ['.'] || name == ['.', '.']
          match ← (Access.kindOf next : Access _), isSpecial && kind == .file with
          | some found, false =>
              if rest.isEmpty then return fitting directoriesOnly next found
              else inside room rest next found
          | _, _ => return []
      | none =>
          if kind == .file then return []
          else do
            match ← (Access.listDirectory path : Access _) with
            | .error error => throw (.unreadable path error)
            | .ok entries =>
                let special ←
                  (if piece.head? = some (.exactly '.') then ["..", "."] else []).mapM fun name =>
                    if Wildcard.covers piece name.toList then
                      if rest.isEmpty then
                        return fitting directoriesOnly (Path.join path name) .directory
                      else inside room rest (Path.join path name) .directory
                    else return []
                let found ← entries.mapM fun entry =>
                  fits room piece rest (below path entry.1) entry.1 entry.2
                return special.flatten ++ found.flatten
  termination_by (room, pieces.length, 2)

def fits (room : Nat) (piece : List Wildcard) (rest : List (List Wildcard))
    (path name : String) (kind : FileKind) : Lookup (List String) :=
  if piece = [.anyDirectories] then
    have := length_afterDirectories_le rest
    do
      let deeper ← match room, kind with
        | room + 1, .directory => inside room (piece :: afterDirectories rest) path kind
        | _, _ => pure []
      match remaining : afterDirectories rest with
      | [] => return (if kind == .directory then [path] else []) ++ deeper
      | next :: others =>
          have : others.length < rest.length := by
            simp only [remaining, List.length_cons] at this
            omega
          return (← named room next others path name kind) ++ deeper
  else named room piece rest path name kind
  termination_by (room, rest.length + 1, 1)

def named (room : Nat) (piece : List Wildcard) (rest : List (List Wildcard))
    (path name : String) (kind : FileKind) : Lookup (List String) :=
  if Wildcard.covers piece name.toList then
    if rest.isEmpty then return fitting directoriesOnly path kind
    else inside room rest path kind
  else return []
  termination_by (room, rest.length + 1, 0)

end

/-- All paths that a pattern stands for, in the order of paths. Absolute patterns start at the root,
all others in the working directory. -/
def expand (text : String) : Lookup (List String) :=
  match parse text with
  | .error error => throw (.malformed error)
  | .ok pattern => do
      let found ←
        if Path.isAbsolute text then
          inside pattern.directoriesOnly nestingLimit (pattern.pieces.dropWhile List.isEmpty) "/"
            .directory
        else inside pattern.directoriesOnly nestingLimit pattern.pieces "." .directory
      return Sorting.stable Path.less found

end PathPattern

end FilterSynthesis
