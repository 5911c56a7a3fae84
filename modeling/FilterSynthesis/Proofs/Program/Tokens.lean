import FilterSynthesis.Filter.Token

/-!
The tokens of rendered programs. A piece of text has the same tokens wherever it stands, provided
that no name, number or path goes on behind it.
-/

namespace FilterSynthesis

namespace Token

/-- Nothing here goes on with a name, a number or a path. -/
def Breaks : List Char → Prop
  | [] => True
  | char :: _ => isIdentifierPart char = false ∧ char ≠ '.'

@[simp] theorem ofChars_nil : ofChars [] = some [] := by
  rw [ofChars]

theorem ofChars_of_next? {char : Char} {rest after : List Char} {token : Token}
    {bound : after.length ≤ rest.length}
    (first : next? char rest = some (some token, ⟨after, bound⟩)) :
    ofChars (char :: rest) = (ofChars after).map (token :: ·) := by
  rw [ofChars]
  simp only [first]
  cases ofChars after <;> rfl

@[simp] theorem ofChars_blank (rest : List Char) : ofChars (' ' :: rest) = ofChars rest := by
  have first : next? ' ' rest = some (none, ⟨rest, Nat.le_refl _⟩) := rfl
  rw [ofChars]
  simp only [first]
  cases ofChars rest <;> rfl

def symbol? : Char → Option Token
  | '|' => some .bar
  | ',' => some .comma
  | ':' => some .colon
  | '(' => some .openParen
  | ')' => some .closeParen
  | '[' => some .openBracket
  | ']' => some .closeBracket
  | '\x7b' => some .openBrace
  | '\x7d' => some .closeBrace
  | '-' => some .minus
  | _ => none

theorem ofChars_symbol (char : Char) (token : Token) (symbol : symbol? char = some token)
    (rest : List Char) : ofChars (char :: rest) = (ofChars rest).map (token :: ·) := by
  have bound : rest.length ≤ rest.length := Nat.le_refl _
  have first : next? char rest = some (some token, ⟨rest, bound⟩) := by
    unfold symbol? at symbol
    split at symbol <;> cases symbol <;> rfl
  exact ofChars_of_next? first

@[simp] theorem ofChars_equality (rest : List Char) :
    ofChars ('=' :: '=' :: rest) = (ofChars rest).map (.equality :: ·) := by
  have bound : rest.length ≤ ('=' :: rest).length := Nat.le_succ _
  have first : next? '=' ('=' :: rest) = some (some .equality, ⟨rest, bound⟩) := rfl
  exact ofChars_of_next? first

theorem isIdentifierPart_of_isIdentifierStart {char : Char} (start : isIdentifierStart char) :
    isIdentifierPart char := by
  simp only [isIdentifierStart, isIdentifierPart, Char.isAlphanum, Bool.or_eq_true] at *
  rcases start with letter | underscore
  · exact .inl (.inl letter)
  · exact .inr underscore

theorem isIdentifierPart_of_isDigit {char : Char} (digit : char.isDigit) :
    isIdentifierPart char := by
  simp [isIdentifierPart, Char.isAlphanum, digit]

theorem Breaks.takeWhile_eq {rest : List Char} (breaks : Breaks rest) {keep : Char → Bool}
    (within : ∀ char, keep char → isIdentifierPart char) {chars : List Char}
    (kept : ∀ char ∈ chars, keep char) :
    (chars ++ rest).takeWhile keep = chars ∧ (chars ++ rest).dropWhile keep = rest := by
  rw [List.takeWhile_append_of_pos kept, List.dropWhile_append_of_pos kept]
  cases rest with
  | nil => simp
  | cons char others =>
      have stops : keep char = false := by
        cases found : keep char with
        | false => rfl
        | true =>
            have part := within char found
            simp [breaks.1] at part
      simp [stops]

theorem isIdentifierStart_apart {char : Char} (start : isIdentifierStart char) :
    isBlank char = false ∧ char ≠ '.' := by
  constructor
  · cases blank : isBlank char with
    | false => rfl
    | true =>
        simp only [isBlank, Bool.or_eq_true, beq_iff_eq] at blank
        rcases blank with ((rfl | rfl) | rfl) | rfl <;> exact absurd start (by decide)
  · intro point
    subst point
    exact absurd start (by decide)

theorem isDigit_apart {char : Char} (digit : char.isDigit) :
    isBlank char = false ∧ char ≠ '.' ∧ isIdentifierStart char = false := by
  refine ⟨?_, ?_, ?_⟩
  · cases blank : isBlank char with
    | false => rfl
    | true =>
        simp only [isBlank, Bool.or_eq_true, beq_iff_eq] at blank
        rcases blank with ((rfl | rfl) | rfl) | rfl <;> exact absurd digit (by decide)
  · intro point
    subst point
    exact absurd digit (by decide)
  · have none : ∀ code < 58, 48 ≤ code → isIdentifierStart (Char.ofNat code) = false := by decide
    have bounds := toNat_of_isDigit digit
    rw [← Char.ofNat_toNat char]
    exact none char.toNat (by omega) bounds.1

theorem ofChars_word {first : Char} {others rest : List Char} (start : isIdentifierStart first)
    (parts : ∀ char ∈ others, isIdentifierPart char) (breaks : Breaks rest) :
    ofChars (first :: others ++ rest) =
      (ofChars rest).map (.word (String.ofList (first :: others)) :: ·) := by
  obtain ⟨noBlank, noPoint⟩ := isIdentifierStart_apart start
  obtain ⟨word, left⟩ := breaks.takeWhile_eq (fun _ part => part) parts
  have bound : rest.length ≤ (others ++ rest).length := by simp
  have read : next? first (others ++ rest) =
      some (some (.word (String.ofList (first :: others))), ⟨rest, bound⟩) := by
    simp [next?, noBlank, noPoint, start, word, drop, left]
  exact ofChars_of_next? read

theorem ofChars_field {first : Char} {others rest : List Char} (start : isIdentifierStart first)
    (parts : ∀ char ∈ others, isIdentifierPart char) (breaks : Breaks rest) :
    ofChars ('.' :: first :: others ++ rest) =
      (ofChars rest).map (.field (String.ofList (first :: others)) :: ·) := by
  obtain ⟨_, noPoint⟩ := isIdentifierStart_apart start
  have all : ∀ char ∈ first :: others, isIdentifierPart char :=
    List.forall_mem_cons.mpr ⟨isIdentifierPart_of_isIdentifierStart start, parts⟩
  obtain ⟨word, left⟩ := breaks.takeWhile_eq (fun _ part => part) all
  rw [List.cons_append] at word left
  have bound : rest.length ≤ (first :: others ++ rest).length := by simp; omega
  have read : next? '.' (first :: others ++ rest) =
      some (some (.field (String.ofList (first :: others))), ⟨rest, bound⟩) := by
    simp [next?, isBlank, noPoint, start, word, drop, left]
  exact ofChars_of_next? read

theorem ofChars_point {rest : List Char}
    (apart : ∀ char ∈ rest.head?, isIdentifierStart char = false ∧ char ≠ '.') :
    ofChars ('.' :: rest) = (ofChars rest).map (.point :: ·) := by
  have read : next? '.' rest = some (some .point, .all rest) := by
    cases rest with
    | nil => rfl
    | cons second others =>
        obtain ⟨noStart, noPoint⟩ := apart second rfl
        simp [next?, isBlank, noStart, noPoint]
  exact ofChars_of_next? read

theorem ofChars_digits {chars rest : List Char} (nonempty : chars ≠ [])
    (digits : ∀ char ∈ chars, char.isDigit) (breaks : Breaks rest) :
    ofChars (chars ++ rest) = (ofChars rest).map (.digits chars :: ·) := by
  cases chars with
  | nil => exact absurd rfl nonempty
  | cons first others =>
      have digit := digits first List.mem_cons_self
      obtain ⟨noBlank, noPoint, noStart⟩ := isDigit_apart digit
      obtain ⟨number, left⟩ :=
        breaks.takeWhile_eq (fun _ digit => isIdentifierPart_of_isDigit digit)
          fun char member => digits char (List.mem_cons_of_mem _ member)
      have bound : rest.length ≤ (others ++ rest).length := by simp
      have read : next? first (others ++ rest) =
          some (some (.digits (first :: others)), ⟨rest, bound⟩) := by
        simp [next?, noBlank, noPoint, noStart, digit, number, drop, left]
      exact ofChars_of_next? read

theorem codePoint?_hexDigit :
    ∀ code < 0x20, codePoint? '0' '0' (hexDigit (code / 16)) (hexDigit code) =
      some (Char.ofNat code) := by
  decide

theorem escapeChar_cases (char : Char) :
    (∃ letter, escapeChar char = ['\\', letter] ∧ letter ≠ 'u' ∧ escaped? letter = some char) ∨
      (char.toNat < 0x20 ∧ escapeChar char =
        ['\\', 'u', '0', '0', hexDigit (char.toNat / 16), hexDigit char.toNat]) ∨
      (escapeChar char = [char] ∧ char ≠ '"' ∧ char ≠ '\\') := by
  unfold escapeChar
  cases found : shortEscapes.find? (·.2 = char) with
  | some entry =>
      obtain ⟨letter, held⟩ := entry
      have same : held = char := by simpa using List.find?_some found
      have listed := List.mem_of_find?_eq_some found
      subst same
      refine .inl ⟨letter, rfl, ?_⟩
      have all : ∀ entry ∈ shortEscapes, entry.1 ≠ 'u' ∧ escaped? entry.1 = some entry.2 := by
        decide
      exact all _ listed
  | none =>
      have absent : ∀ entry ∈ shortEscapes, entry.2 ≠ char := by
        simpa using List.find?_eq_none.mp found
      by_cases control : char.toNat < 0x20
      · exact .inr (.inl ⟨control, by simp only [control, if_true]⟩)
      · refine .inr (.inr ⟨by simp only [control, if_false], ?_, ?_⟩)
        · exact Ne.symm (absent ('"', '"') (by decide))
        · exact Ne.symm (absent ('\\', '\\') (by decide))

theorem unquote_escapeChar (char : Char) (rest : List Char) :
    unquote (escapeChar char ++ rest) =
      (unquote rest).map fun read => (char :: read.1, read.2) := by
  rcases escapeChar_cases char with ⟨letter, written, noCode, stands⟩ | ⟨control, written⟩ |
      ⟨written, noQuote, noEscape⟩
  · rw [written, List.cons_append, unquote.eq_def]
    simp only [Char.reduceEq, reduceIte, List.cons_append, List.nil_append, noCode, stands]
    cases unquote rest <;> rfl
  · rw [written, List.cons_append, unquote.eq_def]
    simp only [Char.reduceEq, reduceIte, List.cons_append, List.nil_append,
      codePoint?_hexDigit char.toNat control, Char.ofNat_toNat]
    cases unquote rest <;> rfl
  · rw [written, List.cons_append, unquote.eq_def]
    simp only [noQuote, noEscape, if_false, List.nil_append]
    cases unquote rest <;> rfl

theorem unquote_flatMap (chars rest : List Char) :
    unquote (chars.flatMap escapeChar ++ '"' :: rest) = some (chars, rest) := by
  induction chars with
  | nil =>
      rw [List.flatMap_nil, List.nil_append, unquote.eq_def]
      simp only [if_true]
  | cons char others induction =>
      rw [List.flatMap_cons, List.append_assoc, unquote_escapeChar, induction]
      rfl

theorem ofChars_quoted (text : String) (rest : List Char) :
    ofChars (quoted text ++ rest) = (ofChars rest).map (.string text :: ·) := by
  have spelled : quoted text ++ rest =
      '"' :: (text.toList.flatMap escapeChar ++ '"' :: rest) := by
    simp [quoted, quotedChars]
  have bound : rest.length ≤ (text.toList.flatMap escapeChar ++ '"' :: rest).length := by
    simp only [List.length_append, List.length_cons]
    omega
  have read : next? '"' (text.toList.flatMap escapeChar ++ '"' :: rest) =
      some (some (.string text), ⟨rest, bound⟩) := by
    have noBlank : isBlank '"' = false := by decide
    have noStart : isIdentifierStart '"' = false := by decide
    have noDigit : '"'.isDigit = false := by decide
    simp only [next?, Char.reduceEq, Bool.false_eq_true, reduceIte, noBlank, noStart, noDigit]
    split
    · rename_i chars after read
      rw [unquote_flatMap] at read
      cases read
      simp
    · rename_i nothing
      simp [unquote_flatMap] at nothing
  rw [spelled]
  exact ofChars_of_next? read

/-- The characters have these tokens wherever nothing goes on with them. -/
def Spells (chars : List Char) (tokens : List Token) : Prop :=
  ∀ rest, Breaks rest → ofChars (chars ++ rest) = (ofChars rest).map (tokens ++ ·)

theorem Spells.ofChars_eq {chars : List Char} {tokens : List Token} (spells : Spells chars tokens) :
    ofChars chars = some tokens := by
  simpa using spells [] trivial

theorem breaks_blank (rest : List Char) : Breaks (' ' :: rest) :=
  ⟨by decide, by decide⟩

theorem breaks_symbol (char : Char) (token : Token) (symbol : symbol? char = some token)
    (rest : List Char) : Breaks (char :: rest) := by
  unfold symbol? at symbol
  split at symbol <;> cases symbol <;> exact ⟨by decide, by decide⟩

theorem Spells.append_symbol {chars : List Char} {tokens : List Token}
    (spells : Spells chars tokens)
    (char : Char) (token : Token) (symbol : symbol? char = some token) (rest : List Char) :
    ofChars (chars ++ char :: rest) = (ofChars rest).map (tokens ++ token :: ·) := by
  rw [spells _ (breaks_symbol char token symbol rest), ofChars_symbol char token symbol]
  cases ofChars rest <;> rfl

end Token

def keyToken (key : String) : Token :=
  if isIdentifier key.toList then .word key else .string key

def pathTokens (key : String) : List Token :=
  if isIdentifier key.toList then [.field key] else [.point, .string key]

def Literal.tokens : Literal → List Token
  | .bool true => [.word "true"]
  | .bool false => [.word "false"]
  | .int value =>
      if value.toInt < 0 then [.minus, .digits (Nat.toDigits 10 value.toInt.natAbs)]
      else [.digits (Nat.toDigits 10 value.toInt.natAbs)]
  | .str value => [.string value]

def Operator.tokens : Operator → List Token
  | .all => [.word "all"]
  | .any => [.word "any"]
  | .forEach => [.point, .openBracket, .closeBracket]
  | .keys => [.word "keys"]
  | .sort => [.word "sort"]
  | .index key => pathTokens key
  | .groupBy key => [.word "group_by", .openParen] ++ pathTokens key ++ [.closeParen]
  | .sortBy key => [.word "sort_by", .openParen] ++ pathTokens key ++ [.closeParen]
  | .select key constant =>
      [.word "select", .openParen] ++ pathTokens key ++ .equality :: constant.tokens ++
      [.closeParen]

def Pipeline.tokens : Pipeline → List Token
  | [] => [.point]
  | [operator] => operator.tokens
  | operator :: rest => operator.tokens ++ .bar :: tokens rest

namespace Program

mutual

def tokens : Program → List Token
  | .pipeline operators => operators.tokens
  | .record fields => .openBrace :: (tokensOfFields fields ++ [.closeBrace])

def tokensOfFields : List (String × Program) → List Token
  | [] => []
  | [(key, program)] => keyToken key :: .colon :: program.tokensOfValue
  | (key, program) :: rest =>
      keyToken key :: .colon :: (program.tokensOfValue ++ .comma :: tokensOfFields rest)

def tokensOfValue : Program → List Token
  | .pipeline operators =>
      if 1 < operators.length then .openParen :: (operators.tokens ++ [.closeParen])
      else operators.tokens
  | .record fields => .openBrace :: (tokensOfFields fields ++ [.closeBrace])

end

end Program

namespace Token

theorem exists_of_isIdentifier {chars : List Char} (identifier : isIdentifier chars) :
    ∃ first others, chars = first :: others ∧ isIdentifierStart first ∧
      ∀ char ∈ others, isIdentifierPart char := by
  cases chars with
  | nil => simp [isIdentifier] at identifier
  | cons first others =>
      simp only [isIdentifier, Bool.and_eq_true, List.all_eq_true] at identifier
      exact ⟨first, others, rfl, identifier⟩

theorem spells_identifier (name : String) (identifier : isIdentifier name.toList) :
    Spells name.toList [.word name] := by
  intro rest breaks
  obtain ⟨first, others, spelled, start, parts⟩ := exists_of_isIdentifier identifier
  have word := ofChars_word start parts breaks
  rwa [← spelled, String.ofList_toList] at word

theorem spells_keyChars (key : String) : Spells (keyChars key) [keyToken key] := by
  unfold keyChars keyToken
  split
  · rename_i identifier
    exact spells_identifier key identifier
  · exact fun rest _ => ofChars_quoted key rest

theorem spells_pathChars (key : String) : Spells (pathChars key) (pathTokens key) := by
  intro rest breaks
  unfold pathChars keyChars pathTokens
  split
  · rename_i identifier
    obtain ⟨first, others, spelled, start, parts⟩ := exists_of_isIdentifier identifier
    have field := ofChars_field start parts breaks
    rw [List.cons_append, ← spelled, String.ofList_toList] at field
    exact field
  · have apart : ∀ char ∈ (quoted key ++ rest).head?,
        isIdentifierStart char = false ∧ char ≠ '.' := by
      simp [quoted, quotedChars, isIdentifierStart]
    rw [List.cons_append, ofChars_point apart, ofChars_quoted]
    cases ofChars rest <;> rfl

theorem spells_digits (number : Nat) :
    Spells (Nat.toDigits 10 number) [.digits (Nat.toDigits 10 number)] :=
  fun _ breaks => ofChars_digits Nat.toDigits_ne_nil
    (fun _ member => Nat.isDigit_of_mem_toDigits (by decide) (by decide) member) breaks

theorem spells_literal (literal : Literal) : Spells literal.chars literal.tokens := by
  cases literal with
  | bool value =>
      cases value with
      | true => exact spells_identifier "true" (by decide)
      | false => exact spells_identifier "false" (by decide)
  | int value =>
      simp only [Literal.chars, Literal.tokens, integerChars]
      split
      · intro rest breaks
        rw [List.cons_append, ofChars_symbol '-' .minus rfl, spells_digits _ rest breaks]
        cases ofChars rest <;> rfl
      · exact spells_digits _
  | str value => exact fun rest _ => ofChars_quoted value rest

theorem Spells.braced {chars : List Char} {tokens : List Token} (spells : Spells chars tokens) :
    Spells ('\x7b' :: (chars ++ ['\x7d'])) (.openBrace :: (tokens ++ [.closeBrace])) := by
  intro rest _
  have closed := spells.append_symbol '\x7d' .closeBrace rfl rest
  simp only [List.cons_append, List.append_assoc, List.nil_append,
    ofChars_symbol '\x7b' .openBrace rfl, closed]
  cases ofChars rest <;> rfl

theorem Spells.parenthesized {chars : List Char} {tokens : List Token}
    (spells : Spells chars tokens) :
    Spells ('(' :: (chars ++ [')'])) (.openParen :: (tokens ++ [.closeParen])) := by
  intro rest _
  have closed := spells.append_symbol ')' .closeParen rfl rest
  simp only [List.cons_append, List.append_assoc, List.nil_append,
    ofChars_symbol '(' .openParen rfl, closed]
  cases ofChars rest <;> rfl

theorem spells_callChars (name : String) (identifier : isIdentifier name.toList)
    {argument : List Char} {tokens : List Token} (spells : Spells argument tokens) :
    Spells (callChars name.toList argument)
      ([.word name, .openParen] ++ tokens ++ [.closeParen]) := by
  intro rest breaks
  rw [callChars, List.append_assoc, spells_identifier name identifier, List.cons_append,
    ← List.cons_append, spells.parenthesized rest breaks]
  · cases ofChars rest <;> simp
  · exact breaks_symbol '(' .openParen rfl _

theorem spells_operator (operator : Operator) : Spells operator.chars operator.tokens := by
  cases operator with
  | all => exact spells_identifier "all" (by decide)
  | any => exact spells_identifier "any" (by decide)
  | forEach =>
      intro rest breaks
      have apart : ∀ char ∈ ('[' :: ']' :: rest).head?,
          isIdentifierStart char = false ∧ char ≠ '.' := by
        simp [isIdentifierStart]
      simp only [Operator.chars, Operator.tokens, List.cons_append, List.nil_append,
        ofChars_point apart, ofChars_symbol '[' .openBracket rfl,
        ofChars_symbol ']' .closeBracket rfl]
      cases ofChars rest <;> rfl
  | keys => exact spells_identifier "keys" (by decide)
  | sort => exact spells_identifier "sort" (by decide)
  | index key => exact spells_pathChars key
  | groupBy key => exact spells_callChars "group_by" (by decide) (spells_pathChars key)
  | sortBy key => exact spells_callChars "sort_by" (by decide) (spells_pathChars key)
  | select key constant =>
      have condition : Spells (pathChars key ++ ' ' :: '=' :: '=' :: ' ' :: constant.chars)
          (pathTokens key ++ .equality :: constant.tokens) := by
        intro rest breaks
        simp only [List.append_assoc, List.cons_append, spells_pathChars key _ (breaks_blank _),
          ofChars_blank, ofChars_equality, spells_literal constant rest breaks]
        cases ofChars rest <;> simp
      exact spells_callChars "select" (by decide) condition

theorem spells_pipeline (pipeline : Pipeline) :
    Spells (Pipeline.chars pipeline) pipeline.tokens := by
  fun_induction Pipeline.chars pipeline with
  | case1 =>
      intro rest breaks
      have apart : ∀ char ∈ rest.head?, isIdentifierStart char = false ∧ char ≠ '.' := by
        cases rest with
        | nil => simp
        | cons char others =>
            obtain ⟨noPart, noPoint⟩ := breaks
            intro head equal
            cases equal
            refine ⟨?_, noPoint⟩
            cases start : isIdentifierStart char with
            | false => rfl
            | true => exact absurd (isIdentifierPart_of_isIdentifierStart start) (by simp [noPart])
      exact ofChars_point apart
  | case2 operator => exact spells_operator operator
  | case3 operator rest nonempty induction =>
      intro after breaks
      rw [Pipeline.tokens]
      · simp only [List.append_assoc, List.cons_append, spells_operator operator _ (breaks_blank _),
          ofChars_blank, ofChars_symbol '|' .bar rfl, induction after breaks]
        cases ofChars after <;> rfl
      · exact nonempty

theorem Spells.keyed {chars : List Char} {tokens : List Token} (spells : Spells chars tokens)
    (key : String) :
    Spells (keyChars key ++ ':' :: ' ' :: chars) (keyToken key :: .colon :: tokens) := by
  intro rest breaks
  have named := (spells_keyChars key).append_symbol ':' .colon rfl (' ' :: chars ++ rest)
  simp only [List.append_assoc, List.cons_append] at named ⊢
  rw [named, ofChars_blank, spells rest breaks]
  cases ofChars rest <;> rfl

theorem Spells.separated {first second : List Char} {firstTokens secondTokens : List Token}
    (before : Spells first firstTokens) (after : Spells second secondTokens) :
    Spells (first ++ ',' :: ' ' :: second) (firstTokens ++ .comma :: secondTokens) := by
  intro rest breaks
  have parted := before.append_symbol ',' .comma rfl (' ' :: second ++ rest)
  simp only [List.append_assoc, List.cons_append] at parted ⊢
  rw [parted, ofChars_blank, after rest breaks]
  cases ofChars rest <;> simp

mutual

theorem spells_program : (program : Program) → Spells program.chars program.tokens
  | .pipeline operators => spells_pipeline operators
  | .record fields => (spells_fields fields).braced

theorem spells_value : (program : Program) → Spells program.charsOfValue program.tokensOfValue
  | .pipeline operators => by
      unfold Program.charsOfValue Program.tokensOfValue
      split
      · exact (spells_pipeline operators).parenthesized
      · exact spells_pipeline operators
  | .record fields => (spells_fields fields).braced

theorem spells_fields : (fields : List (String × Program)) →
    Spells (Program.charsOfFields fields) (Program.tokensOfFields fields)
  | [] => fun rest _ => by cases found : ofChars rest <;> simp [Program.charsOfFields, found,
      Program.tokensOfFields]
  | [(key, program)] => (spells_value program).keyed key
  | (key, program) :: next :: rest => by
      have both := ((spells_value program).keyed key).separated (spells_fields (next :: rest))
      simpa only [Program.charsOfFields, Program.tokensOfFields, List.append_assoc,
        List.cons_append] using both

end

end Token

end FilterSynthesis
