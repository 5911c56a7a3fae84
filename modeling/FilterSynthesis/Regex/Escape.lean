import FilterSynthesis.Regex.Phrase
import FilterSynthesis.Text.Rest
import FilterSynthesis.Text.Word

/-!
Escapes in regular expressions. A mark that is no letter and no digit stands for itself; letters
stand for characters by code, for classes of characters or for conditions. Where blanks count for
nothing, they may also stand within an escape.
-/

namespace FilterSynthesis.Regex

abbrev Parse (α : Type) (chars : List Char) :=
  Option (α × {rest : List Char // rest.length < chars.length})

namespace Parse

variable {α β : Type} {chars : List Char}

def map (change : α → β) (parse : Parse α chars) : Parse β chars :=
  Option.map (fun found => (change found.1, found.2)) parse

def filterMap (change : α → Option β) (parse : Parse α chars) : Parse β chars :=
  Option.bind parse fun found => (change found.1).map (·, found.2)

def one {char : Char} (value : α) : Parse α (char :: chars) :=
  some (value, ⟨chars, Nat.lt_succ_self _⟩)

def within {fewer : List Char} (bound : fewer.length ≤ chars.length) (parse : Parse α fewer) :
    Parse α chars :=
  Option.map (fun found => (found.1, ⟨found.2.1, Nat.lt_of_lt_of_le found.2.2 bound⟩)) parse

def behind {char : Char} (parse : Parse α chars) : Parse α (char :: chars) :=
  parse.within (Nat.le_succ _)

end Parse

def skipFrom : (inComment : Bool) → List Char → List Char
  | _, [] => []
  | true, char :: rest => skipFrom (char != '\n') rest
  | false, char :: rest =>
      if char = '#' then skipFrom true rest
      else if Text.blankChars.contains char then skipFrom false rest
      else char :: rest

def skip (spaced : Bool) (chars : List Char) : List Char :=
  if spaced then skipFrom false chars else chars

theorem length_skipFrom_le (inComment : Bool) (chars : List Char) :
    (skipFrom inComment chars).length ≤ chars.length := by
  induction chars generalizing inComment with
  | nil => cases inComment <;> exact Nat.le_refl _
  | cons char rest induction =>
      cases inComment with
      | true => exact Nat.le_succ_of_le (induction _)
      | false =>
          simp only [skipFrom]
          split
          · exact Nat.le_succ_of_le (induction _)
          · split
            · exact Nat.le_succ_of_le (induction _)
            · exact Nat.le_refl _

theorem length_skip_le (spaced : Bool) (chars : List Char) :
    (skip spaced chars).length ≤ chars.length := by
  unfold skip
  split
  · exact length_skipFrom_le _ _
  · exact Nat.le_refl _

theorem length_lt_of_skip {spaced : Bool} {chars rest : List Char} {char : Char}
    (skipped : skip spaced chars = char :: rest) : rest.length < chars.length := by
  have bound := length_skip_le spaced chars
  rw [skipped] at bound
  exact bound

theorem length_le_of_skip {spaced : Bool} {chars rest : List Char}
    (skipped : skip spaced chars = rest) : rest.length ≤ chars.length :=
  skipped ▸ length_skip_le spaced chars

def braced (spaced : Bool) (fits : Char → Bool) (chars : List Char) : Parse (List Char) chars :=
  match next : skip spaced chars with
  | [] => none
  | char :: rest =>
      have shorter := length_lt_of_skip next
      if char = '\x7d' then some ([], ⟨rest, shorter⟩)
      else if fits char then
        ((braced spaced fits rest).map (char :: ·)).within (Nat.le_of_lt shorter)
      else none
  termination_by chars.length

def hexValue? (char : Char) : Option Nat :=
  if char.isDigit then some (char.toNat - 48)
  else if 'a' ≤ char ∧ char ≤ 'f' then some (char.toNat - 87)
  else if 'A' ≤ char ∧ char ≤ 'F' then some (char.toNat - 55)
  else none

def hexNumber? (digits : List Char) : Option Nat :=
  if digits.isEmpty then none
  else digits.foldlM (fun value char => (hexValue? char).map (value * 16 + ·)) 0

def charOf? (code : Nat) : Option Char :=
  if code.isValidChar then some (Char.ofNat code) else none

def hexDigits (spaced : Bool) (more : Nat) (chars : List Char) : Parse (List Char) chars :=
  match next : skip spaced chars with
  | [] => none
  | char :: rest =>
      have shorter := length_lt_of_skip next
      if (hexValue? char).isNone then none
      else
        match more with
        | 0 => some ([char], ⟨rest, shorter⟩)
        | more + 1 =>
            ((hexDigits spaced more rest).map (char :: ·)).within (Nat.le_of_lt shorter)

/-- The code of a character: so many digits, or any number of them in braces. -/
def codeChar (spaced : Bool) (count : Nat) (chars : List Char) : Parse Member chars :=
  match next : skip spaced chars with
  | '\x7b' :: rest =>
      ((braced spaced (fun char => (hexValue? char).isSome) rest).filterMap fun digits =>
        ((hexNumber? digits).bind charOf?).map (Member.char · false)).within
          (Nat.le_of_lt (length_lt_of_skip next))
  | _ =>
      (hexDigits spaced (count - 1) chars).filterMap fun digits =>
        ((hexNumber? digits).bind charOf?).map (Member.char · (count == 2))

def splitAtMark (mark : List Char) : List Char → Option (List Char × List Char)
  | [] => none
  | char :: rest =>
      if mark.isPrefixOf (char :: rest) then some ([], (char :: rest).drop mark.length)
      else (splitAtMark mark rest).map fun (before, after) => (char :: before, after)

/-- A name, or a name and a value with one of three marks between them. They all mean the same. -/
def queryOf (text : List Char) : Unicode.Query :=
  match ((splitAtMark ['!', '='] text).or ((splitAtMark [':'] text).or (splitAtMark ['='] text)))
      with
  | some (name, value) => ⟨String.ofList name, some (String.ofList value)⟩
  | none => ⟨String.ofList text, none⟩

def className (spaced negated : Bool) (chars : List Char) : Parse Member chars :=
  match next : skip spaced chars with
  | [] => none
  | letter :: rest =>
      have shorter := length_lt_of_skip next
      if letter = '\\' then none
      else if letter = '\x7b' then
        ((braced spaced (fun _ => true) rest).map fun name =>
          Member.named (queryOf name) negated).within (Nat.le_of_lt shorter)
      else some (.named (queryOf [letter]) negated, ⟨rest, shorter⟩)

inductive Escape where
  | member (member : Member)
  | mark (mark : Mark)
  deriving DecidableEq, Repr

def isEdgeNameChar (char : Char) : Bool := char.isAlpha || char == '-'

def WordEdge.named? : String → Option WordEdge
  | "start" => some .start
  | "end" => some .stop
  | "start-half" => some .startHalf
  | "end-half" => some .stopHalf
  | _ => none

/-- What `\b` stands for, which a name in braces can change. Braces with something else in front are
left: they may be a repetition. -/
def wordEdge (spaced : Bool) (chars : List Char) : Option (WordEdge × Rest chars) :=
  match chars with
  | '\x7b' :: rest =>
      match skip spaced rest with
      | [] => none
      | first :: _ =>
          if isEdgeNameChar first then
            match (braced spaced isEdgeNameChar rest).filterMap fun name =>
                WordEdge.named? (String.ofList name) with
            | some (edge, ⟨after, shorter⟩) =>
                some (edge, Rest.behind ⟨after, Nat.le_of_lt shorter⟩)
            | none => none
          else some (.border, .all ('\x7b' :: rest))
  | chars => some (.border, .all chars)

def letter? : Char → Option Escape
  | 'a' => some (.member (.char '\x07' false))
  | 'f' => some (.member (.char '\x0c' false))
  | 't' => some (.member (.char '\t' false))
  | 'n' => some (.member (.char '\n' false))
  | 'r' => some (.member (.char '\r' false))
  | 'v' => some (.member (.char '\x0b' false))
  | 'd' => some (.member (.kind .digit false))
  | 'D' => some (.member (.kind .digit true))
  | 's' => some (.member (.kind .blank false))
  | 'S' => some (.member (.kind .blank true))
  | 'w' => some (.member (.kind .word false))
  | 'W' => some (.member (.kind .word true))
  | 'A' => some (.mark .textStart)
  | 'z' => some (.mark .textEnd)
  | 'B' => some (.mark (.word .noBorder))
  | '<' => some (.mark (.word .start))
  | '>' => some (.mark (.word .stop))
  | char =>
      if char.toNat < 0x80 ∧ ¬char.isAlphanum then some (.member (.char char false)) else none

def parseEscape (spaced : Bool) : (chars : List Char) → Parse Escape chars
  | [] => none
  | letter :: rest =>
      match letter with
      | 'x' => ((codeChar spaced 2 rest).map .member).behind
      | 'u' => ((codeChar spaced 4 rest).map .member).behind
      | 'U' => ((codeChar spaced 8 rest).map .member).behind
      | 'p' => ((className spaced false rest).map .member).behind
      | 'P' => ((className spaced true rest).map .member).behind
      | 'b' =>
          (wordEdge spaced rest).map fun found =>
            (.mark (.word found.1), ⟨found.2.1, Nat.lt_succ_of_le found.2.2⟩)
      | letter => (letter? letter).bind Parse.one

end FilterSynthesis.Regex
