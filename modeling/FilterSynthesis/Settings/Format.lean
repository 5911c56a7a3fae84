import FilterSynthesis.Reading.Record
import FilterSynthesis.Settings.Basic

/-!
Settings as a value or a text. All fields have defaults. A policy is named by a string, or by the
only key of an object whose value is null.
-/

namespace FilterSynthesis

def ScorePolicy.name : ScorePolicy → String
  | .firstMismatch => "first-mismatch"
  | .aggregate => "aggregate"

def ScorePolicy.ofName? (name : String) : Option ScorePolicy :=
  [ScorePolicy.firstMismatch, .aggregate].find? (·.name = name)

def ScorePolicy.ofName (name : String) : Except Cause ScorePolicy :=
  match ofName? name with
  | some policy => .ok policy
  | none => .error (.unknownVariant name "`first-mismatch` or `aggregate`")

namespace Settings

structure Draft where
  depth : Option Nat := none
  wanted : Option Nat := none
  policy : Option ScorePolicy := none
  verifyAssembled : Option Bool := none

def format : RecordFormat Draft Settings where
  expected := "struct SynthConfig"
  names := ["depth", "max_results", "score_policy", "verify_union"]
  start := {}
  isSet draft name :=
    if name = "depth" then draft.depth.isSome
    else if name = "max_results" then draft.wanted.isSome
    else if name = "score_policy" then draft.policy.isSome
    else draft.verifyAssembled.isSome
  complete draft :=
    let settings : Settings := {}
    .ok {
      depth := draft.depth.getD settings.depth
      wanted := draft.wanted.getD settings.wanted
      policy := draft.policy.getD settings.policy
      verifyAssembled := draft.verifyAssembled.getD settings.verifyAssembled }

def sizeOf (number : Number) : Except Cause Nat :=
  match number with
  | .int value =>
      if value < 0 then .error (.wrongValue (.integer value) "usize") else .ok value.toNat
  | number => .error (.wrongType (.ofNumber number) "usize")

def placeless {α : Type} : Except Cause α → Except (Fault Unit) α
  | .ok value => .ok value
  | .error cause => .error ⟨cause, [], ()⟩

def decodeSize : Json → Except (Fault Unit) Nat
  | .number number => placeless (sizeOf number)
  | value => .error ⟨.wrongType (.ofJson value) "usize", [], ()⟩

def decodePolicy : Json → Except (Fault Unit) ScorePolicy
  | .string name => placeless (ScorePolicy.ofName name)
  | .object [(name, value)] =>
      match ScorePolicy.ofName name, value with
      | .error cause, _ => .error ⟨cause, [], ()⟩
      | .ok policy, .null => .ok policy
      | _, value => .error ⟨.wrongType (.ofJson value) "unit", [], ()⟩
  | .object _ => .error ⟨.wrongValue .map "map with a single key", [], ()⟩
  | value => .error ⟨.wrongType (.ofJson value) "string or map", [], ()⟩

def decodeFlag : Json → Except (Fault Unit) Bool
  | .bool value => .ok value
  | value => .error ⟨.wrongType (.ofJson value) "a boolean", [], ()⟩

def decode : Json → Except (Fault Unit) Settings :=
  format.ofJson fun draft name value =>
    if name = "depth" then (decodeSize value).map fun depth => { draft with depth }
    else if name = "max_results" then (decodeSize value).map fun wanted => { draft with wanted }
    else if name = "score_policy" then
      (decodePolicy value).map fun policy => { draft with policy }
    else (decodeFlag value).map fun verifyAssembled => { draft with verifyAssembled }

end Settings

namespace Reading

def judged {α β : Type} {bytes : Bytes} (judge : α → Except Cause β) :
    Reader α bytes → Reader β bytes
  | .error fault => .error fault
  | .ok ⟨value, rest, shorter⟩ =>
      match judge value with
      | .ok result => .ok ⟨result, rest, shorter⟩
      | .error cause => .error (faultBefore cause rest)

def afterBlanks {α : Type} (read : (first : UInt8) → (rest : Bytes) → Reader α (first :: rest))
    (bytes : Bytes) : Reader α bytes :=
  match spaced : dropBlanks bytes with
  | [] => .error (faultAt .endInValue [])
  | first :: rest =>
      (read first rest).widen (length_le_of_dropBlanks spaced)

def readSize : (bytes : Bytes) → Reader Nat bytes :=
  afterBlanks fun first rest =>
    if ascii first = '-' ∨ (ascii first).isDigit then
      judged Settings.sizeOf (readNumber (first :: rest))
    else .error (mismatch "usize" (first :: rest))

def readFlag : (bytes : Bytes) → Reader Bool bytes :=
  afterBlanks fun first rest =>
    if ascii first = 't' then readWord true ['r', 'u', 'e'] (first :: rest)
    else if ascii first = 'f' then readWord false ['a', 'l', 's', 'e'] (first :: rest)
    else .error (mismatch "a boolean" (first :: rest))

def readNull : (bytes : Bytes) → Reader Unit bytes :=
  afterBlanks fun first rest =>
    if ascii first = 'n' then readWord () ['u', 'l', 'l'] (first :: rest)
    else .error (mismatch "unit" (first :: rest))

def readOnlyNull {α : Type} (value : α) (bytes : Bytes) : Reader α bytes :=
  match readMember (bytes.length + 1) (fun part _ => readNull part) bytes (Nat.lt_succ_self _) with
  | .error fault => .error fault
  | .ok ⟨_, after, shorter⟩ =>
      match spaced : dropBlanks after with
      | [] => .error (faultBefore .endInObject [])
      | byte :: rest =>
          if ascii byte = '\x7d' then
            .ok ⟨value, rest, length_rest_lt_of_dropBlanks spaced shorter⟩
          else .error (faultBefore .valueExpected (byte :: rest))

def readVariant (bytes : Bytes) : Reader String bytes :=
  match spaced : dropBlanks bytes with
  | [] => .error (faultAt .endInObject [])
  | first :: rest =>
      if ascii first = '"' then
        (readString (first :: rest)).widen (length_le_of_dropBlanks spaced)
      else
        .error (faultAt (if ascii first = '\x7d' then .valueExpected else .keyNotString)
          (first :: rest))

def readPolicy (room : Nat) : (bytes : Bytes) → Reader ScorePolicy bytes :=
  afterBlanks fun first rest =>
    if ascii first = '"' then judged ScorePolicy.ofName (readString (first :: rest))
    else if ascii first = '\x7b' then
      if room = 0 then .error (faultAt .nestedTooDeep (first :: rest))
      else
        match judged ScorePolicy.ofName (readVariant rest) with
        | .error fault => .error fault
        | .ok ⟨policy, after, shorter⟩ =>
            ((readOnlyNull policy after).later shorter).behind
    else .error (faultAt .valueExpected (first :: rest))

def readSettings : (room : Nat) → (bytes : Bytes) → Reader Settings bytes :=
  expectRecord Settings.format fun room draft name part =>
    if name = "depth" then
      (readSize part).map fun depth => { draft with depth := some depth }
    else if name = "max_results" then
      (readSize part).map fun wanted => { draft with wanted := some wanted }
    else if name = "score_policy" then
      (readPolicy room part).map fun policy => { draft with policy := some policy }
    else
      (readFlag part).map fun flag => { draft with verifyAssembled := some flag }

end Reading

def Settings.ofBytes (bytes : Bytes) : Except (Fault Position) Settings :=
  match Reading.readSettings Reading.nestingLimit bytes with
  | .error fault => .error (Reading.locate bytes fault)
  | .ok ⟨settings, rest, _⟩ =>
      match Reading.dropBlanks rest with
      | [] => .ok settings
      | extra => .error (Reading.locate bytes (Reading.faultAt .trailingCharacters extra))

end FilterSynthesis
