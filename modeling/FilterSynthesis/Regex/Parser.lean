import FilterSynthesis.Arithmetic
import FilterSynthesis.Regex.Class

/-!
The grammar of regular expressions:

    regex := branch ('|' branch)*
    branch := (atom repetition* | '(' '?' switches ')')*
    atom := char | '.' | '^' | '$' | escape | class | '(' ['?' switches ':' | '?' name] regex ')'
    repetition := ('*' | '+' | '?' | '{' count [',' [count]] '}') ['?']

Blanks and comments between these count for nothing where the switches say so. Whether a repetition
is lazy or greedy does not change what matches.
-/

namespace FilterSynthesis.Regex

open scoped Arithmetic

def nameStarts : CharSet := Unicode.Property.alphabetic ∪ .single '_'

def nameChars : CharSet :=
  nameStarts ∪ Unicode.Category.charsOf Unicode.Category.numbers ∪ .ofTable "2E 5B 5D"

def groupName : (chars : List Char) → Parse (List Char) chars
  | [] => none
  | first :: rest =>
      if nameStarts.contains first then
        match dropped : rest.dropWhile nameChars.contains with
        | '>' :: after => some (first :: rest.takeWhile nameChars.contains, ⟨after, by
            have bound := (List.dropWhile_suffix (l := rest) nameChars.contains).length_le
            simp only [dropped, List.length_cons] at *
            omega⟩)
        | _ => none
      else none

def Switch.named? : Char → Option Switch
  | 'i' => some .ignoreCase
  | 'm' => some .byLine
  | 's' => some .pointIsAll
  | 'U' => some .fewest
  | 'u' => some .wide
  | 'R' => some .returns
  | 'x' => some .spaced
  | _ => none

inductive SwitchEnd where
  | colon
  | paren
  deriving DecidableEq

/-- Letters that switch on and, after a hyphen, off. None occurs twice, a hyphen stands before a
letter, and a closing parenthesis needs something before it. `seen` is what stands in front, the
last first. -/
def parseSwitches (change : ModeChange) (seen : List Char) :
    (chars : List Char) → Parse (ModeChange × SwitchEnd) chars
  | [] => none
  | ':' :: _ =>
      if seen.head? = some '-' then none else .one (change, .colon)
  | ')' :: _ =>
      if seen.head? = some '-' ∨ seen.isEmpty then none
      else .one (change, .paren)
  | letter :: rest =>
      if letter ∈ seen then none
      else if letter = '-' then (parseSwitches change ('-' :: seen) rest).behind
      else
        match Switch.named? letter with
        | some switch =>
            let next := if '-' ∈ seen then { change with off := switch :: change.off }
              else { change with on := switch :: change.on }
            (parseSwitches next (letter :: seen) rest).behind
        | none => none

def countDigits (spaced : Bool) : (chars : List Char) → List Char × Rest chars
  | [] => ([], .all [])
  | char :: rest =>
      if char.isDigit then
        have bound := length_skip_le spaced rest
        match countDigits spaced (skip spaced rest) with
        | (digits, ⟨after, fewer⟩) =>
            (char :: digits, Rest.behind ⟨after, Nat.le_trans fewer bound⟩)
      else ([], .all (char :: rest))
  termination_by chars => chars.length
  decreasing_by simp only [List.length_cons]; omega

def skipBlanks (spaced : Bool) : (chars : List Char) → Rest chars
  | [] => .all []
  | char :: rest =>
      if Text.blankChars.contains char then
        have bound := length_skip_le spaced rest
        match skipBlanks spaced (skip spaced rest) with
        | ⟨after, fewer⟩ => Rest.behind ⟨after, Nat.le_trans fewer bound⟩
      else .all (char :: rest)
  termination_by chars => chars.length
  decreasing_by simp only [List.length_cons]; omega

/-- A decimal number of at most 32 bits, with blanks around it. -/
def parseCount (spaced : Bool) (chars : List Char) : Option (Nat × Rest chars) :=
  let start := (skip spaced chars).dropWhile Text.blankChars.contains
  match countDigits spaced start with
  | (digits, ⟨after, bound⟩) =>
      let value := digits.foldl (fun value char => value * 10 + (char.toNat - 48)) 0
      if digits.isEmpty ∨ 2 ^ (32 : Nat) ≤ value then none
      else
        match skipBlanks spaced after with
        | ⟨behind, fewer⟩ => some (value, ⟨behind, by
            have first := length_skip_le spaced chars
            have second :=
              (List.dropWhile_suffix (l := skip spaced chars) Text.blankChars.contains).length_le
            exact Nat.le_trans fewer (Nat.le_trans bound (Nat.le_trans second first))⟩)

def parseBounds (spaced : Bool) (chars : List Char) : Parse (Nat × Option Nat) chars :=
  match parseCount spaced chars with
  | some (least, ⟨'\x7d' :: rest, bound⟩) => some ((least, some least), ⟨rest, bound⟩)
  | some (least, ⟨',' :: rest, bound⟩) =>
      match next : skip spaced rest with
      | '\x7d' :: after =>
          have := length_lt_of_skip next
          some ((least, none), ⟨after, by simp only [List.length_cons] at bound; omega⟩)
      | _ =>
          match parseCount spaced rest with
          | some (most, ⟨'\x7d' :: after, fewer⟩) =>
              if least ≤ most then
                some ((least, some most), ⟨after, by simp only [List.length_cons] at *; omega⟩)
              else none
          | _ => none
  | _ => none

def skipLazy : (chars : List Char) → Rest chars
  | '?' :: rest => (Rest.all rest).behind
  | chars => .all chars

/-- A repetition with its lazy mark, which may stand off from counts only. -/
def parseRepetition (spaced : Bool) : (chars : List Char) → Parse (Nat × Option Nat) chars
  | '*' :: rest => some ((0, none), ⟨(skipLazy rest).1, Nat.lt_succ_of_le (skipLazy rest).2⟩)
  | '+' :: rest => some ((1, none), ⟨(skipLazy rest).1, Nat.lt_succ_of_le (skipLazy rest).2⟩)
  | '?' :: rest => some ((0, some 1), ⟨(skipLazy rest).1, Nat.lt_succ_of_le (skipLazy rest).2⟩)
  | '\x7b' :: rest =>
      match parseBounds spaced rest with
      | some (bounds, ⟨after, shorter⟩) =>
          have := length_skip_le spaced after
          match skipLazy (skip spaced after) with
          | ⟨behind, bound⟩ =>
              some (bounds, ⟨behind, by simp only [List.length_cons]; omega⟩)
      | none => none
  | _ => none

def isRepetitionStart (char : Char) : Bool :=
  char == '*' || char == '+' || char == '?' || char == '\x7b'

def parseRepetitions (spaced : Bool) (body : Phrase) (chars : List Char) :
    Option (Phrase × Rest chars) :=
  have skipped := length_skip_le spaced chars
  match next : skip spaced chars with
  | [] => some (body, ⟨[], Nat.zero_le _⟩)
  | first :: rest =>
      if isRepetitionStart first then
        match parseRepetition spaced (first :: rest) with
        | none => none
        | some ((least, most), ⟨after, shorter⟩) =>
            have fewer : after.length < chars.length := by
              simp only [next] at skipped
              omega
            match parseRepetitions spaced (.repeated body least most) after with
            | some (result, ⟨others, less⟩) => some (result, ⟨others, by omega⟩)
            | none => none
      else some (body, ⟨first :: rest, by simp only [next] at skipped; omega⟩)
  termination_by chars.length

def phraseOf : Escape → Phrase
  | .member member => .member member
  | .mark mark => .mark mark

def parseAtom (spaced : Bool) : (chars : List Char) → Parse Phrase chars
  | [] => none
  | '.' :: _ => .one .point
  | '^' :: _ => .one (.mark .lineStart)
  | '$' :: _ => .one (.mark .lineEnd)
  | '\\' :: rest => ((parseEscape spaced rest).map phraseOf).behind
  | '[' :: rest =>
      ((parseClass spaced rest).map fun (negated, body) => .bracketed negated body).behind
  | char :: _ => if isRepetitionStart char then none else .one (.member (.char char false))

inductive GroupStart where
  | group (kind : GroupKind)
  /-- New modes from here on, without a group. -/
  | modes (change : ModeChange)

def GroupStart.ofSwitches : ModeChange × SwitchEnd → GroupStart
  | (change, .colon) => .group (.plain change)
  | (change, .paren) => .modes change

def parseGroupStart (spaced : Bool) (chars : List Char) : Option (GroupStart × Rest chars) :=
  have bound := length_skip_le spaced chars
  let named (rest : List Char) (fewer : rest.length < chars.length) :
      Option (GroupStart × Rest chars) :=
    match groupName rest with
    | some (name, ⟨after, shorter⟩) =>
        some (.group (.captured (some name)), ⟨after, by omega⟩)
    | none => none
  match next : skip spaced chars with
  | '?' :: 'P' :: '<' :: rest =>
      named rest (by simp only [next, List.length_cons] at bound; omega)
  | '?' :: '<' :: rest => named rest (by simp only [next, List.length_cons] at bound; omega)
  | '?' :: rest =>
      match parseSwitches .none [] rest with
      | some (switches, ⟨after, shorter⟩) =>
          some (.ofSwitches switches,
            ⟨after, by simp only [next, List.length_cons] at bound; omega⟩)
      | none => none
  | others =>
      some (.group (.captured none), ⟨others, length_le_of_skip next⟩)

def GroupKind.spaced (kind : GroupKind) (before : Bool) : Bool :=
  match kind with
  | .plain change => change.apply .spaced before
  | .captured _ => before

mutual

def parseBranches (spaced : Bool) (chars : List Char) : Option (Phrase × Rest chars) :=
  match parseBranch spaced chars with
  | none => none
  | some (first, _, ⟨[], bound⟩) => some (first, ⟨[], bound⟩)
  | some (first, later, ⟨mark :: others, bound⟩) =>
      if mark = '|' then
        have : others.length < chars.length := bound
        match parseBranches later others with
        | some (second, ⟨after, fewer⟩) =>
            some (.either first second, ⟨after, by omega⟩)
        | none => none
      else some (first, ⟨mark :: others, bound⟩)
  termination_by (chars.length, 1)

/-- One branch, and whether blanks count for nothing at its end. -/
def parseBranch (spaced : Bool) (chars : List Char) : Option (Phrase × Bool × Rest chars) :=
  match next : skip spaced chars with
  | [] => some (.empty, spaced, ⟨[], Nat.zero_le _⟩)
  | first :: rest =>
      have fewer : rest.length < chars.length := length_lt_of_skip next
      if first = '|' ∨ first = ')' then
        some (.empty, spaced, ⟨first :: rest, fewer⟩)
      else if first = '(' then
        match parseGroupStart spaced rest with
        | none => none
        | some (.modes change, ⟨after, bound⟩) =>
            match parseBranch (change.apply .spaced spaced) after with
            | some (phrase, last, ⟨others, less⟩) =>
                some (.before (.change change) phrase, last, ⟨others, by omega⟩)
            | none => none
        | some (.group kind, ⟨after, bound⟩) =>
            match parseBranches (kind.spaced spaced) after with
            | some (body, ⟨mark :: behind, inside⟩) =>
                if mark ≠ ')' then none
                else
                  have : behind.length < chars.length := by
                    simp only [List.length_cons] at inside
                    omega
                  match parseRepetitions spaced (.group kind body) behind with
                  | none => none
                  | some (item, ⟨others, less⟩) =>
                      match parseBranch spaced others with
                      | some (phrase, last, ⟨remaining, least⟩) =>
                          some (.before item phrase, last, ⟨remaining, by omega⟩)
                      | none => none
            | _ => none
      else
        match parseAtom spaced (first :: rest) with
        | none => none
        | some (atom, ⟨after, shorter⟩) =>
            have : after.length < chars.length := by
              simp only [List.length_cons] at shorter
              omega
            match parseRepetitions spaced atom after with
            | none => none
            | some (item, ⟨others, less⟩) =>
                match parseBranch spaced others with
                | some (phrase, last, ⟨remaining, least⟩) =>
                    some (.before item phrase, last, ⟨remaining, by omega⟩)
                | none => none
  termination_by (chars.length, 0)

end

def Phrase.ofText? (text : String) : Option Phrase :=
  match parseBranches false text.toList with
  | some (phrase, ⟨[], _⟩) => some phrase
  | _ => none

end FilterSynthesis.Regex
