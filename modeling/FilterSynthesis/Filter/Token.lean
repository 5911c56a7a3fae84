import FilterSynthesis.Program.Rendering
import FilterSynthesis.Text.Rest

/-!
The tokens of a filter text. Blanks separate tokens and are otherwise free; a point and the name
after it are one token.
-/

namespace FilterSynthesis

inductive Token where
  | point
  | field (name : String)
  | word (name : String)
  | digits (chars : List Char)
  | string (text : String)
  | minus
  | bar
  | equality
  | comma
  | colon
  | semicolon
  | openParen
  | closeParen
  | openBracket
  | closeBracket
  | openBrace
  | closeBrace
  deriving DecidableEq, Repr

namespace Token

def isBlank (char : Char) : Bool :=
  char == ' ' || char == '\t' || char == '\n' || char == '\r'

def hexDigit? (char : Char) : Option Nat :=
  if char.isDigit then some (char.toNat - '0'.toNat)
  else if 'a' ≤ char ∧ char ≤ 'f' then some (char.toNat - 'a'.toNat + 10)
  else if 'A' ≤ char ∧ char ≤ 'F' then some (char.toNat - 'A'.toNat + 10)
  else none

/-- The character that four hexadecimal digits stand for; a surrogate is none. -/
def codePoint? (first second third fourth : Char) : Option Char := do
  let a ← hexDigit? first
  let b ← hexDigit? second
  let c ← hexDigit? third
  let d ← hexDigit? fourth
  let code := ((a * 16 + b) * 16 + c) * 16 + d
  if code.isValidChar then some (Char.ofNat code) else none

def escaped? (letter : Char) : Option Char :=
  (('/', '/') :: shortEscapes).lookup letter

def unquote : List Char → Option (List Char × List Char)
  | [] => none
  | char :: rest =>
      if char = '"' then some ([], rest)
      else if char = '\\' then
        match rest with
        | [] => none
        | letter :: rest =>
            if letter = 'u' then
              match rest with
              | first :: second :: third :: fourth :: rest =>
                  match codePoint? first second third fourth, unquote rest with
                  | some char, some (chars, after) => some (char :: chars, after)
                  | _, _ => none
              | _ => none
            else
              match escaped? letter, unquote rest with
              | some char, some (chars, after) => some (char :: chars, after)
              | _, _ => none
      else
        match unquote rest with
        | some (chars, after) => some (char :: chars, after)
        | none => none

theorem length_of_unquote {text chars rest : List Char}
    (read : unquote text = some (chars, rest)) : rest.length < text.length := by
  induction length : text.length using Nat.strongRecOn generalizing text chars rest with
  | ind bound induction =>
      have shorter : ∀ {others chars rest : List Char}, others.length < bound →
          unquote others = some (chars, rest) → rest.length < bound :=
        fun less read => Nat.lt_trans (induction _ less read rfl) less
      subst length
      unfold unquote at read
      split at read
      · cases read
      · simp only [List.length_cons] at shorter ⊢
        repeat' split at read
        all_goals cases read
        · exact Nat.lt_succ_self _
        · rename_i found
          refine shorter ?_ found
          simp only [List.length_cons]
          omega
        · rename_i found
          refine shorter ?_ found
          simp only [List.length_cons]
          omega
        · rename_i found
          exact shorter (Nat.lt_succ_self _) found

def drop (keep : Char → Bool) (chars : List Char) : Rest chars :=
  ⟨chars.dropWhile keep, (List.dropWhile_suffix keep).length_le⟩

/-- The token that begins with a character, and what follows it; a blank is no token. -/
def next? (char : Char) (rest : List Char) : Option (Option Token × Rest rest) :=
  let single (token : Token) : Option (Option Token × Rest rest) :=
    some (some token, .all rest)
  if isBlank char then some (none, .all rest)
  else if char = '.' then
    match rest with
    | [] => some (some .point, .all [])
    | second :: others =>
        if second = '.' then none
        else if isIdentifierStart second then
          some (some (.field (String.ofList ((second :: others).takeWhile isIdentifierPart))),
            drop isIdentifierPart (second :: others))
        else some (some .point, .all (second :: others))
  else if isIdentifierStart char then
    some (some (.word (String.ofList (char :: rest.takeWhile isIdentifierPart))),
      drop isIdentifierPart rest)
  else if char.isDigit then
    some (some (.digits (char :: rest.takeWhile Char.isDigit)),
      drop Char.isDigit rest)
  else if char = '"' then
    match read : unquote rest with
    | some (chars, after) =>
        some (some (.string (String.ofList chars)),
          ⟨after, Nat.le_of_lt (length_of_unquote read)⟩)
    | none => none
  else if char = '=' then
    match rest with
    | second :: others =>
        if second = '=' then some (some .equality, (Rest.all others).behind) else none
    | [] => none
  else
    match char with
    | '-' => single .minus
    | '|' => single .bar
    | ',' => single .comma
    | ':' => single .colon
    | ';' => single .semicolon
    | '(' => single .openParen
    | ')' => single .closeParen
    | '[' => single .openBracket
    | ']' => single .closeBracket
    | '\x7b' => single .openBrace
    | '\x7d' => single .closeBrace
    | _ => none

def ofChars (chars : List Char) : Option (List Token) :=
  match chars with
  | [] => some []
  | char :: rest =>
      match next? char rest with
      | none => none
      | some (token, ⟨after, bound⟩) =>
          have : after.length < (char :: rest).length := Nat.lt_succ_of_le bound
          match ofChars after with
          | none => none
          | some tokens => some (token.toList ++ tokens)
  termination_by chars.length
  decreasing_by exact this

end Token

end FilterSynthesis
