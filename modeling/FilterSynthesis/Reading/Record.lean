import FilterSynthesis.Reading.Skip
import FilterSynthesis.Reading.Value

/-!
Records with named fields, read from a text or taken from a value. A record is an object, in which
unknown keys are passed over, or an array that gives the fields in order and may stop early. Fields
are gathered in a state that knows which of them it has.
-/

namespace FilterSynthesis

def Found.ofJson : Json → Found
  | .null => .null
  | .bool value => .bool value
  | .number number => .ofNumber number
  | .string value => .string value
  | .array _ => .sequence
  | .object _ => .map

/-- A record that is gathered in a state `σ` and completed to an `α`. -/
structure RecordFormat (σ α : Type) where
  expected : String
  names : List String
  start : σ
  isSet : σ → String → Bool
  complete : σ → Except String α

namespace RecordFormat

variable {σ α : Type} (format : RecordFormat σ α)

def tooFew (name : String) : Cause :=
  .tooFewElements (format.names.idxOf name)
    s!"{format.expected} with {format.names.length} elements"

def ofMembers (field : σ → String → Json → Except (Fault Unit) σ) :
    σ → List (String × Json) → Except (Fault Unit) σ
  | state, [] => .ok state
  | state, (key, value) :: rest =>
      if key ∈ format.names then
        match field state key value with
        | .ok next => ofMembers field next rest
        | .error fault => .error (fault.within (.key key))
      else ofMembers field state rest

def ofElements (field : σ → String → Json → Except (Fault Unit) σ) :
    (index : Nat) → List String → σ → List Json → Except (Fault Unit) σ
  | index, name :: names, state, value :: rest =>
      match field state name value with
      | .ok next => ofElements field (index + 1) names next rest
      | .error fault => .error (fault.within (.index index))
  | _, _, state, _ => .ok state

def ofJson (field : σ → String → Json → Except (Fault Unit) σ) :
    Json → Except (Fault Unit) α
  | .object members =>
      match format.ofMembers field format.start members with
      | .error fault => .error fault
      | .ok state =>
          match format.complete state with
          | .ok result => .ok result
          | .error name => .error ⟨.missingField name, [], ()⟩
  | .array elements =>
      match ofElements field 0 format.names format.start elements with
      | .error fault => .error fault
      | .ok state =>
          match format.complete state with
          | .error name => .error ⟨format.tooFew name, [], ()⟩
          | .ok result =>
              if format.names.length < elements.length then
                .error ⟨.tooManyElements elements.length, [], ()⟩
              else .ok result
  | value => .error ⟨.wrongType (.ofJson value) format.expected, [], ()⟩

end RecordFormat

namespace Reading

section

variable {σ α : Type}

def readClosing (bytes : Bytes) : Reader Unit bytes :=
  match spaced : dropBlanks bytes with
  | [] => .error (faultAt .endInList [])
  | next :: rest =>
      if ascii next = ']' then
        .ok ⟨(), rest, length_lt_of_dropBlanks spaced⟩
      else if ascii next = ',' then
        match dropBlanks rest with
        | [] => .error (faultAt .trailingCharacters [])
        | first :: others =>
            .error (faultAt
              (if ascii first = ']' then .trailingComma else .trailingCharacters)
              (first :: others))
      else .error (faultAt .trailingCharacters (next :: rest))

/-- The fields of an array from the one with the given index, which starts here. -/
def readSlotsFrom (field : σ → String → (part : Bytes) → Reader σ part)
    (index : Nat) (name : String) (names : List String) (state : σ) (bytes : Bytes) :
    Reader σ bytes :=
  match (field state name bytes).within (.index index) with
  | .error fault => .error fault
  | .ok ⟨next, after, shorter⟩ =>
      match names with
      | [] => ((readClosing after).map fun _ => next).later shorter
      | second :: names =>
          match spaced : dropBlanks after with
          | [] => .error (faultAt .endInList [])
          | byte :: rest =>
              have fewer := length_rest_lt_of_dropBlanks spaced shorter
              if ascii byte = ']' then .ok ⟨next, rest, fewer⟩
              else if ascii byte = ',' then
                match separated : dropBlanks rest with
                | [] => .error (faultAt .endInValue [])
                | first :: others =>
                    have total := length_lt_of_dropBlanks_of_lt separated fewer
                    if ascii first = ']' then .error (faultAt .trailingComma (first :: others))
                    else
                      (readSlotsFrom field (index + 1) second names next
                        (first :: others)).later total
              else .error (faultAt .commaOrBracketExpected (byte :: rest))

def readSlots (field : σ → String → (part : Bytes) → Reader σ part) (names : List String)
    (state : σ) (bytes : Bytes) : Reader σ bytes :=
  match spaced : dropBlanks bytes with
  | [] => .error (faultAt .endInList [])
  | first :: rest =>
      have bound := length_le_of_dropBlanks spaced
      match names with
      | [] => ((readClosing (first :: rest)).map fun _ => state).widen bound
      | name :: names =>
          if ascii first = ']' then .ok ⟨state, rest, bound⟩
          else (readSlotsFrom field 0 name names state (first :: rest)).widen bound

/-- Complete what was read; a missing field is told behind the closing bracket. -/
def completed (format : RecordFormat σ α) (missing : String → Cause) {bytes : Bytes} :
    Reader σ bytes → Reader α bytes
  | .error fault => .error fault
  | .ok ⟨state, rest, shorter⟩ =>
      match format.complete state with
      | .ok result => .ok ⟨result, rest, shorter⟩
      | .error name => .error (faultBefore (missing name) rest)

def expectRecord (format : RecordFormat σ α)
    (field : (room : Nat) → σ → String → (part : Bytes) → Reader σ part)
    (room : Nat) (bytes : Bytes) : Reader α bytes :=
  match spaced : dropBlanks bytes with
  | [] => .error (faultAt .endInValue [])
  | first :: rest =>
      have bound := length_lt_of_dropBlanks spaced
      if ascii first = '[' ∨ ascii first = '\x7b' then
        if room = 0 then .error (faultAt .nestedTooDeep (first :: rest))
        else if ascii first = '[' then
          (completed format format.tooFew
            (readSlots (field (room - 1)) format.names format.start rest)).later bound
        else
          (completed format .missingField
            (readMembers bytes.length
              (fun state key =>
                if key ∈ format.names ∧ format.isSet state key then some (.duplicateField key)
                else none)
              (fun state key part _ =>
                Reader.within (.key key)
                  (if key ∈ format.names then field (room - 1) state key part
                  else (skipValue part).map fun _ => state))
              format.start rest bound)).later bound
      else .error (mismatch format.expected (first :: rest))

end

end Reading

end FilterSynthesis
