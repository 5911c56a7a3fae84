import FilterSynthesis.Reading.Fault
import FilterSynthesis.Text.Rest

/-!
Reading JSON text byte by byte, from the front. What is read comes with the bytes after it, which
are fewer than before, so readers may call each other freely. A fault is placed by the number of
bytes that follow the place where reading stopped.
-/

namespace FilterSynthesis.Reading

structure Parsed (α : Type) (bytes : Bytes) where
  value : α
  rest : Bytes
  shorter : rest.length < bytes.length

abbrev Reader (α : Type) (bytes : Bytes) := Except (Fault Nat) (Parsed α bytes)

def faultBefore (cause : Cause) (rest : Bytes) : Fault Nat := ⟨cause, [], rest.length⟩

/-- A fault at the first of the given bytes, or at the end if there is none. -/
def faultAt (cause : Cause) (rest : Bytes) : Fault Nat := ⟨cause, [], rest.length - 1⟩

def locate (bytes : Bytes) (fault : Fault Nat) : Fault Position :=
  { fault with place := .after (bytes.length - fault.place) bytes }

namespace Parsed

variable {α β : Type} {bytes : Bytes}

def map (change : α → β) (parsed : Parsed α bytes) : Parsed β bytes :=
  ⟨change parsed.value, parsed.rest, parsed.shorter⟩

def widen {fewer : Bytes} (parsed : Parsed α fewer) (bound : fewer.length ≤ bytes.length) :
    Parsed α bytes :=
  ⟨parsed.value, parsed.rest, Nat.lt_of_lt_of_le parsed.shorter bound⟩

end Parsed

def Reader.map {α β : Type} {bytes : Bytes} (change : α → β) :
    Reader α bytes → Reader β bytes
  | .ok parsed => .ok (parsed.map change)
  | .error fault => .error fault

def Reader.within {α : Type} {bytes : Bytes} (step : PathStep) :
    Reader α bytes → Reader α bytes
  | .ok parsed => .ok parsed
  | .error fault => .error (fault.within step)

def Reader.widen {α : Type} {fewer bytes : Bytes} (bound : fewer.length ≤ bytes.length) :
    Reader α fewer → Reader α bytes
  | .ok parsed => .ok (parsed.widen bound)
  | .error fault => .error fault

def Reader.later {α : Type} {part bytes : Bytes} (fewer : part.length < bytes.length)
    (read : Reader α part) : Reader α bytes :=
  read.widen (Nat.le_of_lt fewer)

def Reader.behind {α : Type} {byte : UInt8} {bytes : Bytes} (read : Reader α bytes) :
    Reader α (byte :: bytes) :=
  read.widen (Nat.le_succ _)

def ascii (byte : UInt8) : Char := Char.ofNat byte.toNat

def isBlank (byte : UInt8) : Bool :=
  ascii byte == ' ' || ascii byte == '\n' || ascii byte == '\t' || ascii byte == '\r'

def dropBlanks (bytes : Bytes) : Bytes := bytes.dropWhile isBlank

theorem length_dropBlanks_le (bytes : Bytes) : (dropBlanks bytes).length ≤ bytes.length :=
  (List.dropWhile_suffix isBlank).length_le

theorem length_lt_of_dropBlanks {bytes rest : Bytes} {byte : UInt8}
    (spaced : dropBlanks bytes = byte :: rest) : rest.length < bytes.length := by
  have bound := length_dropBlanks_le bytes
  rw [spaced] at bound
  exact bound

theorem length_le_of_dropBlanks {bytes rest : Bytes} {byte : UInt8}
    (spaced : dropBlanks bytes = byte :: rest) : (byte :: rest).length ≤ bytes.length :=
  length_lt_of_dropBlanks spaced

theorem length_lt_of_dropBlanks_of_lt {bytes part rest : Bytes} {byte : UInt8}
    (spaced : dropBlanks part = byte :: rest) (shorter : part.length < bytes.length) :
    (byte :: rest).length < bytes.length :=
  Nat.lt_of_le_of_lt (length_le_of_dropBlanks spaced) shorter

theorem length_rest_lt_of_dropBlanks {bytes part rest : Bytes} {byte : UInt8}
    (spaced : dropBlanks part = byte :: rest) (shorter : part.length < bytes.length) :
    rest.length < bytes.length :=
  Nat.lt_of_succ_lt (length_lt_of_dropBlanks_of_lt spaced shorter)

def digit? (byte : UInt8) : Option Nat :=
  if (ascii byte).isDigit then some ((ascii byte).toNat - 48) else none

def readLetters : List Char → (bytes : Bytes) → Except (Fault Nat) (Rest bytes)
  | [], bytes => .ok (.all bytes)
  | _ :: _, [] => .error (faultBefore .endInValue [])
  | letter :: letters, byte :: rest =>
      if ascii byte = letter then
        match readLetters letters rest with
        | .ok after => .ok after.behind
        | .error fault => .error fault
      else .error (faultBefore .misspeltWord rest)

def readWord {α : Type} (value : α) (letters : List Char) :
    (bytes : Bytes) → Reader α bytes
  | [] => .error (faultBefore .endInValue [])
  | _ :: rest =>
      match readLetters letters rest with
      | .ok ⟨after, bound⟩ => .ok ⟨value, after, Nat.lt_succ_of_le bound⟩
      | .error fault => .error fault

end FilterSynthesis.Reading
