import FilterSynthesis.Reading.Quoted

/-!
Passing over values that nobody asks for. They must be shaped like JSON, but their strings are not
decoded, their numbers have no range, and they may be nested to any depth. The open brackets are
kept in a list, the innermost first.
-/

namespace FilterSynthesis.Reading

inductive Bracket where
  | square
  | curly
  deriving DecidableEq

namespace Bracket

def closer : Bracket → Char
  | .square => ']'
  | .curly => '\x7d'

def endCause : Bracket → Cause
  | .square => .endInList
  | .curly => .endInObject

def separatorCause : Bracket → Cause
  | .square => .commaOrBracketExpected
  | .curly => .commaOrBraceExpected

end Bracket

abbrev Skipped (bytes : Bytes) := Except (Fault Nat) (Rest bytes)

def Skipped.widen {fewer bytes : Bytes} (bound : fewer.length ≤ bytes.length) :
    Skipped fewer → Skipped bytes
  | .ok rest => .ok ⟨rest.1, Nat.le_trans rest.2 bound⟩
  | .error fault => .error fault

def Skipped.behind {byte : UInt8} {bytes : Bytes} : Skipped bytes → Skipped (byte :: bytes)
  | .ok rest => .ok rest.behind
  | .error fault => .error fault

def skipEscape : (bytes : Bytes) → Skipped bytes
  | [] => .error (faultBefore .endInString [])
  | byte :: rest =>
      if ascii byte = 'u' then
        match readHex rest with
        | .ok (_, after) => .ok after.behind
        | .error fault => .error fault
      else if (('/', '/') :: shortEscapes).any (·.1 = ascii byte) then .ok (Rest.all rest).behind
      else .error (faultBefore .invalidEscape rest)

def skipChars (bytes : Bytes) : Skipped bytes :=
  match bytes with
  | [] => .error (faultBefore .endInString [])
  | byte :: rest =>
      if ascii byte = '"' then .ok (Rest.all rest).behind
      else if ascii byte = '\\' then
        match skipEscape rest with
        | .error fault => .error fault
        | .ok ⟨after, bound⟩ => ((skipChars after).widen bound).behind
      else if byte < 0x20 then .error (faultBefore .controlCharacter (byte :: rest))
      else (skipChars rest).behind
  termination_by bytes.length
  decreasing_by all_goals simp only [List.length_cons] at *; omega

def isDigit (byte : UInt8) : Bool := (ascii byte).isDigit

def skipDigits (bytes : Bytes) : Rest bytes :=
  ⟨bytes.dropWhile isDigit, (List.dropWhile_suffix isDigit).length_le⟩

/-- An exponent after its mark. A byte where a digit is missing is passed before it is reported. -/
def skipExponent (bytes : Bytes) : Skipped bytes :=
  let unsigned : Rest bytes := match bytes with
    | [] => .all []
    | sign :: rest =>
        if ascii sign = '+' ∨ ascii sign = '-' then (Rest.all rest).behind
        else .all (sign :: rest)
  match unsigned with
  | ⟨[], _⟩ => .error (faultBefore .invalidNumber [])
  | ⟨byte :: rest, bound⟩ =>
      if isDigit byte then
        let after := skipDigits rest
        .ok ⟨after.1, Nat.le_trans (Nat.le_succ_of_le after.2) bound⟩
      else .error (faultBefore .invalidNumber rest)

def skipPower (bytes : Bytes) : Skipped bytes :=
  match bytes with
  | [] => .ok (.all [])
  | mark :: rest =>
      if ascii mark = 'e' ∨ ascii mark = 'E' then (skipExponent rest).behind
      else .ok (.all (mark :: rest))

def skipFraction (bytes : Bytes) : Skipped bytes :=
  match bytes with
  | point :: digit :: rest =>
      if ascii point ≠ '.' then skipPower (point :: digit :: rest)
      else if isDigit digit then
        let after := skipDigits rest
        ((skipPower after.1).widen after.2).behind.behind
      else .error (faultAt .invalidNumber (digit :: rest))
  | [point] =>
      if ascii point = '.' then .error (faultAt .invalidNumber []) else skipPower [point]
  | [] => .ok (.all [])

def skipAfterDigit (digit : UInt8) (bytes : Bytes) : Skipped bytes :=
  if ascii digit = '0' then
    match bytes with
    | [] => .ok (.all [])
    | next :: rest =>
        if isDigit next then .error (faultAt .invalidNumber (next :: rest))
        else skipFraction (next :: rest)
  else
    let after := skipDigits bytes
    (skipFraction after.1).widen after.2

def skipUnsigned (bytes : Bytes) : Skipped bytes :=
  match bytes with
  | [] => .error (faultBefore .invalidNumber [])
  | byte :: rest =>
      if isDigit byte then (skipAfterDigit byte rest).behind
      else .error (faultBefore .invalidNumber rest)

/-- What a value begins with: a scalar to its end, or an open bracket. -/
def skipStart (first : UInt8) (rest : Bytes) :
    Except (Fault Nat) (Option Bracket × Rest rest) :=
  let scalar : Skipped rest → Except (Fault Nat) (Option Bracket × Rest rest)
    | .ok after => .ok (none, after)
    | .error fault => .error fault
  match ascii first with
  | 'n' => scalar (readLetters ['u', 'l', 'l'] rest)
  | 't' => scalar (readLetters ['r', 'u', 'e'] rest)
  | 'f' => scalar (readLetters ['a', 'l', 's', 'e'] rest)
  | '-' => scalar (skipUnsigned rest)
  | '"' => scalar (skipChars rest)
  | '[' => .ok (some .square, .all rest)
  | '\x7b' => .ok (some .curly, .all rest)
  | _ =>
      if isDigit first then scalar (skipAfterDigit first rest)
      else .error (faultAt .valueExpected (first :: rest))

/-! Values. All functions below share the bound on what is left, so that each call is a last call.
-/

abbrev Fewer (bound : Nat) := {rest : Bytes // rest.length < bound}

def skipKey (bytes : Bytes) : Skipped bytes :=
  match bytes with
  | [] => .error (faultAt .endInObject [])
  | byte :: rest =>
      if ascii byte ≠ '"' then .error (faultAt .keyNotString (byte :: rest))
      else
        match skipChars rest with
        | .error fault => .error fault
        | .ok ⟨after, bound⟩ =>
            match spaced : dropBlanks after with
            | [] => .error (faultAt .endInObject [])
            | colon :: others =>
                if ascii colon = ':' then
                  have shorter := length_lt_of_dropBlanks spaced
                  .ok ⟨others, by simp only [List.length_cons]; omega⟩
                else .error (faultAt .colonExpected (colon :: others))

mutual

def skipValueIn (bound : Nat) (brackets : List Bracket) (bytes : Bytes)
    (fewer : bytes.length ≤ bound) : Except (Fault Nat) (Fewer bound) :=
  match spaced : dropBlanks bytes with
  | [] => .error (faultAt .endInValue [])
  | first :: rest =>
      have shorter := length_lt_of_dropBlanks spaced
      match skipStart first rest with
      | .error fault => .error fault
      | .ok (none, ⟨after, less⟩) => skipRest bound brackets after (by omega)
      | .ok (some bracket, ⟨after, less⟩) =>
          match opened : dropBlanks after with
          | [] => .error (faultAt bracket.endCause [])
          | next :: others =>
              have total := length_le_of_dropBlanks opened
              if ascii next = bracket.closer then
                skipRest bound brackets others (by simp only [List.length_cons] at total; omega)
              else skipItem bound bracket brackets (next :: others) (by omega)
  termination_by (bytes.length, 1)
  decreasing_by
    all_goals simp_wf
    all_goals first
      | (apply Prod.Lex.left; simp only [List.length_cons] at *; omega)
      | (apply Prod.Lex.left; omega)

def skipItem (bound : Nat) (bracket : Bracket) (brackets : List Bracket) (bytes : Bytes)
    (fewer : bytes.length ≤ bound) : Except (Fault Nat) (Fewer bound) :=
  match bracket with
  | .square => skipValueIn bound (bracket :: brackets) bytes fewer
  | .curly =>
      match skipKey bytes with
      | .error fault => .error fault
      | .ok ⟨after, less⟩ => skipValueIn bound (bracket :: brackets) after (by omega)
  termination_by (bytes.length, 2)
  decreasing_by
    · exact Prod.Lex.right _ (by omega)
    · apply Prod.Lex.right' <;> omega

def skipRest (bound : Nat) (brackets : List Bracket) (bytes : Bytes)
    (fewer : bytes.length < bound) : Except (Fault Nat) (Fewer bound) :=
  match brackets with
  | [] => .ok ⟨bytes, fewer⟩
  | bracket :: outer =>
      match spaced : dropBlanks bytes with
      | [] => .error (faultAt bracket.endCause [])
      | byte :: rest =>
          have shorter := length_lt_of_dropBlanks spaced
          if ascii byte = ',' then
            match separated : dropBlanks rest with
            | [] => .error (faultAt (if bracket = .square then .endInValue else .endInObject) [])
            | next :: others =>
                have total := length_le_of_dropBlanks separated
                skipItem bound bracket outer (next :: others) (by omega)
          else if ascii byte = bracket.closer then skipRest bound outer rest (by omega)
          else .error (faultAt bracket.separatorCause (byte :: rest))
  termination_by (bytes.length, 0)
  decreasing_by
    all_goals simp_wf
    all_goals first
      | (apply Prod.Lex.left; simp only [List.length_cons] at *; omega)
      | (apply Prod.Lex.left; omega)

end

def skipValue (bytes : Bytes) : Reader Unit bytes :=
  match skipValueIn bytes.length [] bytes (Rest.all bytes).2 with
  | .ok ⟨rest, shorter⟩ => .ok ⟨(), rest, shorter⟩
  | .error fault => .error fault

end FilterSynthesis.Reading
