import FilterSynthesis.Filter.Basic
import FilterSynthesis.Filter.Token

/-!
The grammar of filters:

    pipe  := stage ('|' stage)*
    stage := term ['==' literal]
    term  := ('.' | field | '.' string | name ['(' pipe (';' pipe)* ')'] | '(' pipe ')' | literal
             | '{' [entry (',' entry)* [',']] '}') part*
    part  := field | '.' string | '[' ']'
    entry := (name | string) ':' pipe
-/

namespace FilterSynthesis.Filter

open scoped Arithmetic

/-- The words that begin a construct of their own and so call nothing. -/
def reserved : List String := ["def", "foreach", "if", "label", "reduce", "try"]

def leading : List String := ["import", "include", "module"]

abbrev Parse (α : Type) (tokens : List Token) :=
  Option (α × {rest : List Token // rest.length < tokens.length})

/-- Digits are an integer up to the greatest signed word and are kept as they stand beyond. -/
def numeral (digits : List Char) : Number :=
  if Number.decimal digits < 2 ^ (63 : Nat) then .int (Number.decimal digits) else .numeral digits

/-- The negation of what the digits stand for: beyond the signed words a binary64 number, which may
be infinite. -/
def negatedNumeral (digits : List Char) : Number :=
  match numeral digits with
  | .int value => .int (-value)
  | number => .float number.toDouble.negate

def word? : String → Option Json
  | "true" => some (.bool true)
  | "false" => some (.bool false)
  | "null" => some .null
  | _ => none

def parseLiteral : (tokens : List Token) → Parse Json tokens
  | .digits digits :: rest => some (.number (numeral digits), ⟨rest, Nat.lt_succ_self _⟩)
  | .minus :: .digits digits :: rest =>
      some (.number (negatedNumeral digits), ⟨rest, Nat.lt_succ_of_lt (Nat.lt_succ_self _)⟩)
  | .string text :: rest => some (.string text, ⟨rest, Nat.lt_succ_self _⟩)
  | .word name :: rest => (word? name).map (·, ⟨rest, Nat.lt_succ_self _⟩)
  | _ => none

def parseParts : (tokens : List Token) → List Filter × Rest tokens
  | .field name :: rest =>
      let (parts, after) := parseParts rest
      (.index name :: parts, after.behind)
  | .point :: .string key :: rest =>
      let (parts, after) := parseParts rest
      (.index key :: parts, after.behind.behind)
  | .openBracket :: .closeBracket :: rest =>
      let (parts, after) := parseParts rest
      (.iterate :: parts, after.behind.behind)
  | tokens => ([], .all tokens)

def parseKey : (tokens : List Token) → Parse String tokens
  | .word name :: .colon :: rest =>
      some (name, ⟨rest, Nat.lt_succ_of_lt (Nat.lt_succ_self _)⟩)
  | .string text :: .colon :: rest =>
      some (text, ⟨rest, Nat.lt_succ_of_lt (Nat.lt_succ_self _)⟩)
  | _ => none

mutual

def parsePipe (tokens : List Token) : Parse Filter tokens :=
  match parseStage tokens with
  | none => none
  | some (first, ⟨rest, shorter⟩) =>
      match rest with
      | .bar :: others =>
          have : others.length < tokens.length := by
            simp only [List.length_cons] at shorter
            omega
          match parsePipe others with
          | some (second, ⟨after, fewer⟩) =>
              some (.pipe first second, ⟨after, Nat.lt_trans fewer this⟩)
          | none => none
      | others => some (first, ⟨others, shorter⟩)
  termination_by (tokens.length, 3)

def parseStage (tokens : List Token) : Parse Filter tokens :=
  match parseTerm tokens with
  | none => none
  | some (term, ⟨rest, shorter⟩) =>
      match rest with
      | .equality :: others =>
          match parseLiteral others with
          | some (value, ⟨after, fewer⟩) =>
              some (.equals term value, ⟨after, by
                simp only [List.length_cons] at shorter
                omega⟩)
          | none => none
      | others => some (term, ⟨others, shorter⟩)
  termination_by (tokens.length, 2)

def parseTerm (tokens : List Token) : Parse Filter tokens :=
  match parseAtom tokens with
  | none => none
  | some (atom, ⟨rest, shorter⟩) =>
      let parts := parseParts rest
      some (atom.thenParts parts.1, ⟨parts.2.1, Nat.lt_of_le_of_lt parts.2.2 shorter⟩)
  termination_by (tokens.length, 1)

def parseAtom (tokens : List Token) : Parse Filter tokens :=
  match tokens with
  | [] => none
  | .point :: rest =>
      match rest with
      | .string key :: after => some (.index key, ⟨after, by simp only [List.length_cons]; omega⟩)
      | others => some (.identity, ⟨others, Nat.lt_succ_self _⟩)
  | .field name :: rest => some (.index name, ⟨rest, Nat.lt_succ_self _⟩)
  | .openParen :: rest =>
      match parsePipe rest with
      | none => none
      | some (filter, ⟨next, shorter⟩) =>
          match next with
          | .closeParen :: after =>
              some (filter, ⟨after, by simp only [List.length_cons] at *; omega⟩)
          | _ => none
  | .openBrace :: rest =>
      match rest with
      | .closeBrace :: after => some (.record [], ⟨after, by simp only [List.length_cons]; omega⟩)
      | others =>
          match parseEntries others with
          | some (entries, ⟨after, shorter⟩) =>
              some (.record entries, ⟨after, Nat.lt_succ_of_lt shorter⟩)
          | none => none
  | .word name :: rest =>
      if name ∈ reserved then none
      else
        match rest with
        | .openParen :: others =>
            match parseArguments others with
            | some (arguments, ⟨after, shorter⟩) =>
                some (.ofCall name arguments, ⟨after, by simp only [List.length_cons]; omega⟩)
            | none => none
        | others =>
            match word? name with
            | some value => some (.literal value, ⟨others, Nat.lt_succ_self _⟩)
            | none => some (.ofCall name [], ⟨others, Nat.lt_succ_self _⟩)
  | token :: rest =>
      match parseLiteral (token :: rest) with
      | some (value, after) => some (.literal value, after)
      | none => none
  termination_by (tokens.length, 0)

def parseArguments (tokens : List Token) : Parse (List Filter) tokens :=
  match parsePipe tokens with
  | none => none
  | some (argument, ⟨next, shorter⟩) =>
      match next with
      | .closeParen :: after => some ([argument], ⟨after, Nat.lt_of_succ_lt shorter⟩)
      | .semicolon :: rest =>
          have : rest.length < tokens.length := Nat.lt_of_succ_lt shorter
          match parseArguments rest with
          | some (arguments, ⟨after, fewer⟩) =>
              some (argument :: arguments, ⟨after, Nat.lt_trans fewer this⟩)
          | none => none
      | _ => none
  termination_by (tokens.length, 4)

def parseEntries (tokens : List Token) : Parse (List (String × Filter)) tokens :=
  match parseKey tokens with
  | none => none
  | some (key, ⟨rest, keyShorter⟩) =>
      match parsePipe rest with
      | none => none
      | some (filter, ⟨next, shorter⟩) =>
          match next with
          | .closeBrace :: after =>
              some ([(key, filter)], ⟨after, by simp only [List.length_cons] at shorter; omega⟩)
          | .comma :: others =>
              have bound : others.length < tokens.length := by
                simp only [List.length_cons] at shorter
                omega
              match others with
              | .closeBrace :: after => some ([(key, filter)], ⟨after, Nat.lt_of_succ_lt bound⟩)
              | others =>
                  match parseEntries others with
                  | some (entries, ⟨after, fewer⟩) =>
                      some ((key, filter) :: entries, ⟨after, Nat.lt_trans fewer bound⟩)
                  | none => none
          | _ => none
  termination_by (tokens.length, 4)

end

def parse (chars : List Char) : Option Filter :=
  match Token.ofChars chars with
  | none => none
  | some tokens =>
      if leading.any fun name => tokens.head? = some (.word name) then none
      else
        match parsePipe tokens with
        | some (filter, ⟨[], _⟩) => some filter
        | _ => none

end FilterSynthesis.Filter
