import FilterSynthesis.Order

/-!
Paths as texts. The pieces of a path stand between its slashes; an empty piece and a point stay in
the directory reached so far, two points leave it.
-/

namespace FilterSynthesis.Path

def pieces (path : String) : List String := path.splitOn "/"

def stays (piece : String) : Bool := piece == "" || piece == "."

def isAbsolute (path : String) : Bool := path.startsWith "/"

def join (directory name : String) : String :=
  if name.startsWith "/" || directory == "" then name
  else if directory.endsWith "/" then directory ++ name
  else directory ++ "/" ++ name

def trimmed (pieces : List String) : List String := (pieces.reverse.dropWhile stays).reverse

/-- The path of the directory of an entry; empty if that is not named. -/
def parent (path : String) : String := "/".intercalate (trimmed (trimmed (pieces path)).dropLast)

/-- The last piece of a path, unless that leaves its directory. -/
def name? (path : String) : Option String :=
  match (trimmed (pieces path)).getLast? with
  | some ".." => none
  | last => last

/-- A name up to its last point; a point in front belongs to the name. -/
def stemChars (name : List Char) : List Char :=
  let before := (name.reverse.dropWhile (· ≠ '.')).drop 1
  if before.isEmpty then name else before.reverse

def stem (path : String) : String :=
  match name? path with
  | some name => String.ofList (stemChars name.toList)
  | none => ""

def ranked (piece : String) : Nat × String :=
  if piece = "." then (1, "") else if piece = ".." then (2, "") else (3, piece)

/-- The steps of a path. A point counts only where a relative path starts with it. -/
def steps (path : String) : List (Nat × String) :=
  match pieces path with
  | [] => []
  | first :: rest =>
      let later := (rest.filter fun piece => !stays piece).map ranked
      if first = "" then (if rest.isEmpty then later else (0, "") :: later)
      else ranked first :: later

def isHere (path : String) : Bool := steps path == steps "."

def orderStep (left right : Nat × String) : Ordering :=
  (compare left.1 right.1).then (compare left.2 right.2)

def less (left right : String) : Bool :=
  lexicographic orderStep (steps left) (steps right) == .lt

end FilterSynthesis.Path
