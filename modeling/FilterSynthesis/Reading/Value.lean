import FilterSynthesis.Reading.Numeral
import FilterSynthesis.Reading.Quoted

/-!
Arrays, objects and values. The elements of an array and the members of an object are read by a
function that the caller gives; it is only ever called on parts shorter than `limit`, so it may call
back the reader that called it.
-/

namespace FilterSynthesis.Reading

section

variable {α σ : Type} (limit : Nat)

/-- The elements of an array from one that starts here, up to and over the closing bracket. -/
def readItemsFrom
    (item : (index : Nat) → (part : Bytes) → part.length < limit → Reader α part)
    (index : Nat) (bytes : Bytes) (fits : bytes.length < limit) : Reader (List α) bytes :=
  match (item index bytes fits).within (.index index) with
  | .error fault => .error fault
  | .ok ⟨value, after, shorter⟩ =>
      match spaced : dropBlanks after with
      | [] => .error (faultAt .endInList [])
      | next :: rest =>
          have fewer := length_rest_lt_of_dropBlanks spaced shorter
          if ascii next = ']' then .ok ⟨[value], rest, fewer⟩
          else if ascii next = ',' then
            match separated : dropBlanks rest with
            | [] => .error (faultAt .endInValue [])
            | first :: others =>
                have total := length_lt_of_dropBlanks_of_lt separated fewer
                if ascii first = ']' then .error (faultAt .trailingComma (first :: others))
                else
                  ((readItemsFrom item (index + 1) (first :: others)
                    (Nat.lt_trans total fits)).map (value :: ·)).later total
          else .error (faultAt .commaOrBracketExpected (next :: rest))
  termination_by bytes.length

def readItems
    (item : (index : Nat) → (part : Bytes) → part.length < limit → Reader α part)
    (bytes : Bytes) (fits : bytes.length < limit) : Reader (List α) bytes :=
  match spaced : dropBlanks bytes with
  | [] => .error (faultAt .endInList [])
  | first :: rest =>
      have bound := length_le_of_dropBlanks spaced
      if ascii first = ']' then .ok ⟨[], rest, bound⟩
      else
        (readItemsFrom limit item 0 (first :: rest) (Nat.lt_of_le_of_lt bound fits)).widen bound

/-- The bytes before which a fault of a whole object is reported: those after the blanks, and after
the closing brace if it is next. -/
def afterBrace (bytes : Bytes) : Bytes :=
  match dropBlanks bytes with
  | [] => []
  | byte :: rest => if ascii byte = '\x7d' then rest else byte :: rest

/-- The value of a member, after its key; the colon belongs to the object. -/
def readMember (member : (part : Bytes) → part.length < limit → Reader σ part)
    (bytes : Bytes) (fits : bytes.length < limit) : Reader σ bytes :=
  match spaced : dropBlanks bytes with
  | [] => .error (faultAt .endInObject [])
  | colon :: rest =>
      if ascii colon = ':' then
        (member rest (Nat.lt_trans (length_lt_of_dropBlanks spaced) fits)).later
          (length_lt_of_dropBlanks spaced)
      else .error (faultAt .colonExpected (colon :: rest))

/-- The members of an object from a key that starts here, up to and over the closing brace. A state
is carried from member to member; `check` may refuse a key before its value is read. -/
def readMembersFrom (check : σ → String → Option Cause)
    (member : σ → String → (part : Bytes) → part.length < limit → Reader σ part)
    (state : σ) (bytes : Bytes) (fits : bytes.length < limit) : Reader σ bytes :=
  match (readString bytes).within .between with
  | .error fault => .error fault
  | .ok ⟨key, afterKey, keyShorter⟩ =>
      match check state key with
      | some cause => .error (faultBefore cause (afterBrace afterKey))
      | none =>
          match readMember limit (member state key) afterKey (Nat.lt_trans keyShorter fits) with
          | .error fault => .error fault
          | .ok ⟨next, after, shorter⟩ =>
              match spaced : dropBlanks after with
              | [] => .error ((faultAt .endInObject []).within .between)
              | byte :: rest =>
                  have fewer := length_rest_lt_of_dropBlanks spaced
                    (Nat.lt_trans shorter keyShorter)
                  if ascii byte = '\x7d' then .ok ⟨next, rest, fewer⟩
                  else if ascii byte = ',' then
                    match separated : dropBlanks rest with
                    | [] => .error ((faultAt .endInValue []).within .between)
                    | first :: others =>
                        have total := length_lt_of_dropBlanks_of_lt separated fewer
                        if ascii first = '"' then
                          (readMembersFrom check member next (first :: others)
                            (Nat.lt_trans total fits)).later total
                        else
                          .error ((faultAt
                            (if ascii first = '\x7d' then .trailingComma else .keyNotString)
                            (first :: others)).within .between)
                  else
                    .error ((faultAt .commaOrBraceExpected (byte :: rest)).within .between)
  termination_by bytes.length

def readMembers (check : σ → String → Option Cause)
    (member : σ → String → (part : Bytes) → part.length < limit → Reader σ part)
    (state : σ) (bytes : Bytes) (fits : bytes.length < limit) : Reader σ bytes :=
  match spaced : dropBlanks bytes with
  | [] => .error ((faultAt .endInObject []).within .between)
  | first :: rest =>
      have bound := length_le_of_dropBlanks spaced
      if ascii first = '\x7d' then .ok ⟨state, rest, bound⟩
      else if ascii first = '"' then
        (readMembersFrom limit check member state (first :: rest)
          (Nat.lt_of_le_of_lt bound fits)).widen bound
      else .error ((faultAt .keyNotString (first :: rest)).within .between)

end

/-- Read a value in which arrays and objects are nested at most `room` levels deep. A key that comes
again keeps its place and takes the new value. -/
def readValue (room : Nat) (bytes : Bytes) : Reader Json bytes :=
  match spaced : dropBlanks bytes with
  | [] => .error (faultAt .endInValue [])
  | first :: rest =>
      have bound := length_le_of_dropBlanks spaced
      Reader.widen bound
        (match ascii first with
        | 'n' => readWord .null ['u', 'l', 'l'] (first :: rest)
        | 't' => readWord (.bool true) ['r', 'u', 'e'] (first :: rest)
        | 'f' => readWord (.bool false) ['a', 'l', 's', 'e'] (first :: rest)
        | '"' => (readString (first :: rest)).map .string
        | '[' =>
            if room = 0 then .error (faultAt .nestedTooDeep (first :: rest))
            else
              ((readItems (first :: rest).length
                (fun _ part _ => readValue (room - 1) part)
                rest (Nat.lt_succ_self _)).map Json.array).widen (Nat.le_succ _)
        | '\x7b' =>
            if room = 0 then .error (faultAt .nestedTooDeep (first :: rest))
            else
              ((readMembers (first :: rest).length (fun _ _ => none)
                (fun members key part _ =>
                  ((readValue (room - 1) part).within (.key key)).map fun value =>
                    Entries.put key value members)
                [] rest (Nat.lt_succ_self _)).map Json.object).widen (Nat.le_succ _)
        | char =>
            if char = '-' ∨ char.isDigit then (readNumber (first :: rest)).map .number
            else .error (faultAt .valueExpected (first :: rest)))
  termination_by bytes.length

def nestingLimit : Nat := 127

/-! A value of another type than the one expected. A scalar is read first, and a fault in it comes
before the mismatch; an array or object is not entered. -/

def mismatch (expected : String) (bytes : Bytes) : Fault Nat :=
  let told {part : Bytes} (read : Reader Found part) : Fault Nat :=
    match read with
    | .ok ⟨found, rest, _⟩ => faultBefore (.wrongType found expected) rest
    | .error fault => fault
  match bytes with
  | [] => faultAt .valueExpected []
  | first :: rest =>
      match ascii first with
      | 'n' => told (readWord .null ['u', 'l', 'l'] (first :: rest))
      | 't' => told (readWord (.bool true) ['r', 'u', 'e'] (first :: rest))
      | 'f' => told (readWord (.bool false) ['a', 'l', 's', 'e'] (first :: rest))
      | '"' => told ((readString (first :: rest)).map .string)
      | '[' => faultBefore (.wrongType .sequence expected) (first :: rest)
      | '\x7b' => faultBefore (.wrongType .map expected) (first :: rest)
      | char =>
          if char = '-' ∨ char.isDigit then
            told ((readNumber (first :: rest)).map .ofNumber)
          else faultAt .valueExpected (first :: rest)

def expectString (expected : String) (bytes : Bytes) : Reader String bytes :=
  match spaced : dropBlanks bytes with
  | [] => .error (faultAt .endInValue [])
  | first :: rest =>
      have bound := length_le_of_dropBlanks spaced
      if ascii first = '"' then (readString (first :: rest)).widen bound
      else .error (mismatch expected (first :: rest))

def expectList {α : Type} (room : Nat) (expected : String)
    (item : (room : Nat) → (part : Bytes) → Reader α part) (bytes : Bytes) :
    Reader (List α) bytes :=
  match spaced : dropBlanks bytes with
  | [] => .error (faultAt .endInValue [])
  | first :: rest =>
      have bound := length_lt_of_dropBlanks spaced
      if ascii first = '[' then
        if room = 0 then .error (faultAt .nestedTooDeep (first :: rest))
        else
          (readItems bytes.length (fun _ part _ => item (room - 1) part) rest bound).later bound
      else .error (mismatch expected (first :: rest))

def readWhole (bytes : Bytes) : Except (Fault Position) Json :=
  match readValue nestingLimit bytes with
  | .error fault => .error (locate bytes fault)
  | .ok ⟨value, rest, _⟩ =>
      match dropBlanks rest with
      | [] => .ok value
      | extra => .error (locate bytes (faultAt .trailingCharacters extra))

end FilterSynthesis.Reading
