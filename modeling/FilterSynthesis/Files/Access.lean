import FilterSynthesis.Text.Utf8

/-!
What a program does to files, as a value: the program asks for one thing at a time and goes on with
the answer. Who answers, a real file system or a directory tree in memory, is left open.
-/

namespace FilterSynthesis

structure FileError where
  reason : String
  number : Nat
  deriving DecidableEq, Repr

namespace FileError

def notFound : FileError := ⟨"No such file or directory", 2⟩

def alreadyExists : FileError := ⟨"File exists", 17⟩

def notADirectory : FileError := ⟨"Not a directory", 20⟩

def isADirectory : FileError := ⟨"Is a directory", 21⟩

def nameTooLong : FileError := ⟨"File name too long", 36⟩

def message (error : FileError) : String := s!"{error.reason} (os error {error.number})"

end FileError

inductive FileKind where
  | file
  | directory
  deriving DecidableEq, Repr

inductive Access (α : Type) where
  | done (result : α)
  | read (path : String) (next : Except FileError Bytes → Access α)
  | kind (path : String) (next : Option FileKind → Access α)
  | list (path : String) (next : Except FileError (List (String × FileKind)) → Access α)
  | makeDirectories (path : String) (next : Except FileError Unit → Access α)
  | write (path text : String) (next : Except FileError Unit → Access α)
  /-- The time in milliseconds, from an arbitrary moment on. -/
  | clock (next : Nat → Access α)

namespace Access

variable {α β : Type}

def bind : Access α → (α → Access β) → Access β
  | .done result, later => later result
  | .read path next, later => .read path fun answer => (next answer).bind later
  | .kind path next, later => .kind path fun answer => (next answer).bind later
  | .list path next, later => .list path fun answer => (next answer).bind later
  | .makeDirectories path next, later =>
      .makeDirectories path fun answer => (next answer).bind later
  | .write path text next, later => .write path text fun answer => (next answer).bind later
  | .clock next, later => .clock fun answer => (next answer).bind later

instance : Monad Access where
  pure := .done
  bind := bind

def readFile (path : String) : Access (Except FileError Bytes) := .read path .done

def kindOf (path : String) : Access (Option FileKind) := .kind path .done

def listDirectory (path : String) : Access (Except FileError (List (String × FileKind))) :=
  .list path .done

def createDirectories (path : String) : Access (Except FileError Unit) :=
  .makeDirectories path .done

def writeFile (path text : String) : Access (Except FileError Unit) := .write path text .done

def now : Access Nat := .clock .done

theorem bind_done (access : Access α) : access.bind .done = access := by
  induction access with
  | done result => rfl
  | _ => simp_all [bind]

theorem bind_assoc {γ : Type} (access : Access α) (first : α → Access β) (second : β → Access γ) :
    (access.bind first).bind second = access.bind fun result => (first result).bind second := by
  induction access with
  | done result => rfl
  | _ => simp_all [bind]

end Access

end FilterSynthesis
