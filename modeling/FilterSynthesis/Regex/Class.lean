import FilterSynthesis.Regex.Escape

namespace FilterSynthesis.Regex

def asciiClass? : String → Option CharSet
  | "alnum" => some (.ofTable "30-39 41-5A 61-7A")
  | "alpha" => some (.ofTable "41-5A 61-7A")
  | "ascii" => some .ascii
  | "blank" => some (.ofTable "9 20")
  | "cntrl" => some (.ofTable "0-1F 7F")
  | "digit" => some (.ofTable "30-39")
  | "graph" => some (.ofTable "21-7E")
  | "lower" => some (.ofTable "61-7A")
  | "print" => some (.ofTable "20-7E")
  | "punct" => some (.ofTable "21-2F 3A-40 5B-60 7B-7E")
  | "space" => some (.ofTable "9-D 20")
  | "upper" => some (.ofTable "41-5A")
  | "word" => some (.ofTable "30-39 41-5A 5F 61-7A")
  | "xdigit" => some (.ofTable "30-39 41-46 61-66")
  | _ => none

def parseAscii (chars : List Char) : Parse ClassBody chars :=
  match chars with
  | ':' :: rest =>
      let negated := rest.head? == some '^'
      let name := if negated then rest.drop 1 else rest
      match dropped : name.dropWhile (· ≠ ':') with
      | ':' :: ']' :: after =>
          (asciiClass? (String.ofList (name.takeWhile (· ≠ ':')))).map fun set =>
            (.ascii set negated, ⟨after, by
              have bound := (List.dropWhile_suffix (l := name) (· ≠ ':')).length_le
              have shorter : name.length ≤ rest.length := by
                simp only [name]
                split <;> simp
              simp only [dropped, List.length_cons] at *
              omega⟩)
      | _ => none
  | _ => none

def parseMember (spaced : Bool) : (chars : List Char) → Parse Member chars
  | [] => none
  | '\\' :: rest =>
      ((parseEscape spaced rest).filterMap fun
        | .member member => some member
        | .mark _ => none).behind
  | char :: _ => .one (.char char false)

/-- What follows blanks and the mark of a comment. The comment itself is not passed over. -/
def peekFrom (inComment : Bool) : List Char → Option Char
  | [] => none
  | char :: rest =>
      if Text.blankChars.contains char then peekFrom inComment rest
      else if char = '#' ∧ ¬inComment then peekFrom true rest
      else some char

def peek (spaced : Bool) (chars : List Char) : Option Char :=
  if spaced then (peekFrom false chars).or chars.head? else chars.head?

def rangeOf? : Member → Member → Option ClassBody
  | .char first _, .char last _ => if first ≤ last then some (.range first last) else none
  | _, _ => none

/-- A member or a range. A hyphen before another one or before the closing bracket makes no
range. -/
def parseRange (spaced : Bool) (chars : List Char) : Parse ClassBody chars :=
  match parseMember spaced chars with
  | none => none
  | some (first, ⟨rest, shorter⟩) =>
      have skipped := length_skip_le spaced rest
      match next : skip spaced rest with
      | '-' :: others =>
          if peek spaced others = some ']' ∨ peek spaced others = some '-' then
            some (.member first, ⟨'-' :: others, by simp only [next] at skipped; omega⟩)
          else
            have := length_skip_le spaced others
            ((parseMember spaced (skip spaced others)).filterMap (rangeOf? first)).within (by
              simp only [next, List.length_cons] at skipped
              omega)
      | others => some (.member first, ⟨others, by simp only [next] at skipped; omega⟩)

def parseHyphens (spaced : Bool) (body : ClassBody) (chars : List Char) : ClassBody × Rest chars :=
  match next : skip spaced chars with
  | '-' :: rest =>
      have shorter := length_lt_of_skip next
      match parseHyphens spaced (body.add (.member (.char '-' false))) rest with
      | (all, ⟨after, fewer⟩) => (all, ⟨after, Nat.le_trans fewer (Nat.le_of_lt shorter)⟩)
  | others => (body, ⟨others, length_le_of_skip next⟩)
  termination_by chars.length

/-- What may stand at the beginning of a class: hyphens, or else a closing bracket, which are
members there. -/
def firstMembers (spaced : Bool) (chars : List Char) : ClassBody × Rest chars :=
  match parseHyphens spaced .empty chars with
  | (.empty, ⟨']' :: rest, bound⟩) =>
      (.member (.char ']' false), ⟨rest, Nat.le_of_lt bound⟩)
  | other => other

def classStart (spaced : Bool) (chars : List Char) : Bool × ClassBody × Rest chars :=
  match next : skip spaced chars with
  | '^' :: rest =>
      let (body, ⟨after, bound⟩) := firstMembers spaced rest
      (true, body, ⟨after, Nat.le_trans bound (Nat.le_of_lt (length_lt_of_skip next))⟩)
  | _ => (false, firstMembers spaced chars)

def operator? (first : Char) (rest : List Char) : Option SetOperator :=
  if rest.head? = some first then
    match first with
    | '&' => some .intersection
    | '-' => some .difference
    | '~' => some .symmetricDifference
    | _ => none
  else none

mutual

def parseClass (spaced : Bool) (chars : List Char) : Parse (Bool × ClassBody) chars :=
  match classStart spaced chars with
  | (negated, start, ⟨rest, bound⟩) =>
      ((parseBody spaced id start rest).map (negated, ·)).within bound
  termination_by 2 * chars.length + 1

/-- The rest of a class. What was read since the last operator is in `row`, and `combine` applies
the operators before. -/
def parseBody (spaced : Bool) (combine : ClassBody → ClassBody) (row : ClassBody)
    (chars : List Char) : Parse ClassBody chars :=
  match next : skip spaced chars with
  | [] => none
  | first :: rest =>
      have shorter := length_lt_of_skip next
      if first = ']' then some (combine row, ⟨rest, shorter⟩)
      else
        match operator? first rest with
        | some operator =>
            (parseBody spaced (.combined operator (combine row)) .empty (rest.drop 1)).within
              (by simp only [List.length_drop]; omega)
        | none =>
            let item : Parse ClassBody chars :=
              if first = '[' then
                match parseAscii rest with
                | some found => Parse.within (Nat.le_of_lt shorter) (some found)
                | none =>
                    ((parseClass spaced rest).map fun (negated, body) =>
                      .nested negated body).within (Nat.le_of_lt shorter)
              else
                (parseRange spaced (first :: rest)).within
                  (show (first :: rest).length ≤ chars.length from shorter)
            match item with
            | some (found, ⟨after, fewer⟩) =>
                (parseBody spaced combine (row.add found) after).within (Nat.le_of_lt fewer)
            | none => none
  termination_by 2 * chars.length
  decreasing_by all_goals first | omega | (simp only [List.length_drop]; omega)

end

end FilterSynthesis.Regex
