import FilterSynthesis.Reading.Basic

/-!
Strings. Control characters may not stand in a string, escapes are those of JSON, and a pair of
surrogate escapes is one character. Ill-formed UTF-8 is reported only when the string ends without
another fault, as many bytes before that end as the decoded text has from its first ill-formed byte
on. Where no escape follows, that is the place of this byte.
-/

namespace FilterSynthesis.Reading

def hexValue? (byte : UInt8) : Option Nat :=
  let char := ascii byte
  if char.isDigit then some (char.toNat - '0'.toNat)
  else if 'a' ≤ char ∧ char ≤ 'f' then some (char.toNat - 'a'.toNat + 10)
  else if 'A' ≤ char ∧ char ≤ 'F' then some (char.toNat - 'A'.toNat + 10)
  else none

def readHex : (bytes : Bytes) → Except (Fault Nat) (Nat × Rest bytes)
  | first :: second :: third :: fourth :: rest =>
      match hexValue? first, hexValue? second, hexValue? third, hexValue? fourth with
      | some a, some b, some c, some d =>
          .ok (((a * 16 + b) * 16 + c) * 16 + d, ⟨rest, by simp only [List.length_cons]; omega⟩)
      | _, _, _, _ => .error (faultBefore .invalidEscape rest)
  | _ => .error (faultBefore .endInString [])

def isHighSurrogate (code : Nat) : Bool := 0xD800 ≤ code && code < 0xDC00

def isLowSurrogate (code : Nat) : Bool := 0xDC00 ≤ code && code < 0xE000

def joinSurrogates (high low : Nat) : Char :=
  Char.ofNat (0x10000 + (high - 0xD800) * 0x400 + (low - 0xDC00))

def readLowSurrogate (high : Nat) : (bytes : Bytes) → Except (Fault Nat) (Char × Rest bytes)
  | [] => .error (faultBefore .endInString [])
  | first :: rest =>
      if ascii first ≠ '\\' then .error (faultBefore .endOfEscape rest)
      else
        match rest with
        | [] => .error (faultBefore .endInString [])
        | second :: rest =>
            if ascii second ≠ 'u' then .error (faultBefore .endOfEscape rest)
            else
              match readHex rest with
              | .error fault => .error fault
              | .ok (low, after) =>
                  if isLowSurrogate low then
                    .ok (joinSurrogates high low, after.behind.behind)
                  else .error (faultBefore .loneSurrogate after.1)

def readCode (bytes : Bytes) : Except (Fault Nat) (Char × Rest bytes) :=
  match readHex bytes with
  | .error fault => .error fault
  | .ok (code, ⟨after, bound⟩) =>
      if isLowSurrogate code then .error (faultBefore .loneSurrogate after)
      else if isHighSurrogate code then
        match readLowSurrogate code after with
        | .ok (char, ⟨rest, fewer⟩) => .ok (char, ⟨rest, Nat.le_trans fewer bound⟩)
        | .error fault => .error fault
      else .ok (Char.ofNat code, ⟨after, bound⟩)

/-- An escape after its backslash. The solidus may be escaped, though it never has to be. -/
def readEscape (bytes : Bytes) : Except (Fault Nat) (Char × Rest bytes) :=
  match bytes with
  | [] => .error (faultBefore .endInString [])
  | byte :: rest =>
      if ascii byte = 'u' then
        match readCode rest with
        | .ok (char, after) => .ok (char, after.behind)
        | .error fault => .error fault
      else
        match (('/', '/') :: shortEscapes).find? (·.1 = ascii byte) with
        | some (_, char) => .ok (char, (Rest.all rest).behind)
        | none => .error (faultBefore .invalidEscape rest)

/-- Read up to and over the closing quotation mark. `read` holds the characters so far, the last one
first, and `illFormed` the number of decoded bytes from the first that is not UTF-8 on. -/
def readChars (read : List Char) (illFormed : Option Nat) (bytes : Bytes) :
    Reader String bytes :=
  match bytes with
  | [] => .error (faultBefore .endInString [])
  | byte :: rest =>
      if ascii byte = '"' then
        match illFormed with
        | some count => .error ⟨.invalidCodePoint, [], rest.length + count⟩
        | none => .ok ⟨String.ofList read.reverse, rest, Nat.lt_succ_self _⟩
      else if ascii byte = '\\' then
        match readEscape rest with
        | .error fault => .error fault
        | .ok (char, ⟨after, bound⟩) =>
            ((readChars (char :: read) (illFormed.map (· + char.utf8Size)) after).widen
                bound).behind
      else if byte < 0x20 then .error (faultBefore .controlCharacter rest)
      else
        match decoded : Utf8.head? (byte :: rest) with
        | some (char, after) =>
            have fewer : after.length < (byte :: rest).length := Utf8.length_of_head? decoded
            (readChars (char :: read) (illFormed.map (· + char.utf8Size)) after).later fewer
        | none => (readChars read (some (illFormed.getD 0 + 1)) rest).behind
  termination_by bytes.length
  decreasing_by all_goals simp only [List.length_cons] at *; omega

def readString (bytes : Bytes) : Reader String bytes :=
  match bytes with
  | [] => .error (faultBefore .endInString [])
  | _ :: rest => (readChars [] none rest).behind

end FilterSynthesis.Reading
