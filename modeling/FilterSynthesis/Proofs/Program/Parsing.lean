import FilterSynthesis.Proofs.Program.Compilation
import FilterSynthesis.Proofs.Program.Tokens

namespace FilterSynthesis

open scoped Arithmetic

namespace Filter

/-- A parser takes the value from the front of the tokens and leaves the rest. -/
def Reads {α : Type} (parser : (tokens : List Token) → Parse α tokens) (tokens : List Token)
    (value : α) (rest : List Token) : Prop :=
  ∃ bound, parser tokens = some (value, ⟨rest, bound⟩)

/-- The tokens begin with none that goes on with a path or a call. -/
def Stops : List Token → Prop
  | [] => True
  | token :: _ => token ∈ [.equality, .bar, .comma, .closeParen, .closeBrace]

theorem parseParts_of_stops {rest : List Token} (stops : Stops rest) :
    parseParts rest = ([], .all rest) := by
  cases rest with
  | nil => rfl
  | cons token others =>
      simp only [Stops, List.mem_cons, List.not_mem_nil, or_false] at stops
      rcases stops with rfl | rfl | rfl | rfl | rfl <;> rfl

theorem Reads.parts {tokens others rest : List Token} {atom : Filter} {parts : List Filter}
    {fewer : rest.length ≤ others.length} (reads : Reads parseAtom tokens atom others)
    (follow : parseParts others = (parts, ⟨rest, fewer⟩)) :
    Reads parseTerm tokens (atom.thenParts parts) rest := by
  obtain ⟨bound, read⟩ := reads
  refine ⟨Nat.lt_of_le_of_lt fewer bound, ?_⟩
  rw [parseTerm, read]
  simp only [follow]

theorem Reads.term {tokens rest : List Token} {atom : Filter}
    (reads : Reads parseAtom tokens atom rest) (stops : Stops rest) :
    Reads parseTerm tokens atom rest :=
  reads.parts (parseParts_of_stops stops)

theorem Reads.stage {tokens rest : List Token} {term : Filter}
    (reads : Reads parseTerm tokens term rest) (apart : rest.head? ≠ some .equality) :
    Reads parseStage tokens term rest := by
  obtain ⟨bound, read⟩ := reads
  refine ⟨bound, ?_⟩
  rw [parseStage, read]
  cases rest with
  | nil => rfl
  | cons token others => cases token <;> first | rfl | simp at apart

theorem Reads.equals {tokens others rest : List Token} {term : Filter} {value : Json}
    (reads : Reads parseTerm tokens term (.equality :: others))
    (literal : Reads parseLiteral others value rest) :
    Reads parseStage tokens (.equals term value) rest := by
  obtain ⟨bound, read⟩ := reads
  obtain ⟨fewer, compared⟩ := literal
  have total : rest.length < tokens.length := by
    simp only [List.length_cons] at bound
    omega
  refine ⟨total, ?_⟩
  rw [parseStage, read]
  simp only [compared]

theorem Reads.single {tokens rest : List Token} {stage : Filter}
    (reads : Reads parseStage tokens stage rest) (apart : rest.head? ≠ some .bar) :
    Reads parsePipe tokens stage rest := by
  obtain ⟨bound, read⟩ := reads
  refine ⟨bound, ?_⟩
  rw [parsePipe, read]
  cases rest with
  | nil => rfl
  | cons token others => cases token <;> first | rfl | simp at apart

theorem Reads.pipe {tokens others rest : List Token} {first second : Filter}
    (reads : Reads parseStage tokens first (.bar :: others))
    (later : Reads parsePipe others second rest) :
    Reads parsePipe tokens (.pipe first second) rest := by
  obtain ⟨bound, read⟩ := reads
  obtain ⟨fewer, following⟩ := later
  have total : rest.length < tokens.length := by
    simp only [List.length_cons] at bound
    omega
  refine ⟨total, ?_⟩
  rw [parsePipe, read]
  simp only [following]

theorem Reads.parenthesized {tokens rest : List Token} {filter : Filter}
    (reads : Reads parsePipe tokens filter (.closeParen :: rest)) :
    Reads parseAtom (.openParen :: tokens) filter rest := by
  obtain ⟨bound, read⟩ := reads
  have total : rest.length < (Token.openParen :: tokens).length := by
    simp only [List.length_cons] at bound ⊢
    omega
  refine ⟨total, ?_⟩
  rw [parseAtom]
  simp only [read]

theorem reads_name (name : String) (free : name ∉ reserved) (noWord : word? name = none)
    {rest : List Token} (stops : Stops rest) :
    Reads parseAtom (.word name :: rest) (ofCall name []) rest := by
  have noCall : ∀ others, rest ≠ .openParen :: others := by
    intro others call
    subst call
    simp [Stops] at stops
  refine ⟨by simp, ?_⟩
  rw [parseAtom, if_neg free]
  · simp [noWord]
  · exact noCall

theorem reads_call (name : String) (free : name ∉ reserved) {tokens rest : List Token}
    {argument : Filter} (reads : Reads parsePipe tokens argument (.closeParen :: rest)) :
    Reads parseAtom (.word name :: .openParen :: tokens) (ofCall name [argument]) rest := by
  obtain ⟨bound, read⟩ := reads
  have total : rest.length < (Token.word name :: .openParen :: tokens).length := by
    simp only [List.length_cons] at bound ⊢
    omega
  refine ⟨total, ?_⟩
  rw [parseAtom, if_neg free]
  have arguments : parseArguments tokens =
      some ([argument], ⟨rest, Nat.lt_of_succ_lt bound⟩) := by
    rw [parseArguments, read]
  simp only [arguments]

theorem numeral_toDigits {number : Nat} (small : number < 2 ^ (63 : Nat)) :
    numeral (Nat.toDigits 10 number) = .int number := by
  rw [numeral, Number.decimal_toDigits, if_pos small]

/-- The negation of all that fits a signed word is exact; what is left is the least integer. -/
theorem negatedNumeral_toDigits (number : Nat) :
    negatedNumeral (Nat.toDigits 10 number) =
      if number < 2 ^ (63 : Nat) then .int (-number)
      else .float (Double.ofInt number).negate := by
  unfold negatedNumeral
  by_cases small : number < 2 ^ 63
  · rw [numeral_toDigits small, if_pos small]
  · rw [numeral, Number.decimal_toDigits, if_neg small, if_neg small]
    simp only [Number.toDouble, Number.decimal_toDigits]

theorem reads_literal (literal : Literal) (rest : List Token) :
    Reads parseLiteral (literal.tokens ++ rest) literal.value rest := by
  cases literal with
  | bool value => cases value <;> exact ⟨_, rfl⟩
  | str value => exact ⟨_, rfl⟩
  | int value =>
      have least := value.le_toInt
      have greatest := value.toInt_lt
      have minimal : value = Int64.minValue ↔ value.toInt = -2 ^ 63 := by
        rw [← Int64.toInt_inj, Int64.toInt_minValue]
      simp only [Literal.tokens, Literal.value, minimal]
      by_cases negative : value.toInt < 0
      · have read : Reads parseLiteral
            (.minus :: .digits (Nat.toDigits 10 value.toInt.natAbs) :: rest)
            (.number (negatedNumeral (Nat.toDigits 10 value.toInt.natAbs))) rest := ⟨_, rfl⟩
        rw [negatedNumeral_toDigits] at read
        rw [if_pos negative]
        by_cases small : value.toInt.natAbs < 2 ^ 63
        · rw [if_pos small, show -(value.toInt.natAbs : Int) = value.toInt by omega] at read
          rwa [if_neg (by omega)]
        · rw [if_neg small, show (value.toInt.natAbs : Int) = 2 ^ 63 by omega] at read
          rwa [if_pos (by omega)]
      · have read : Reads parseLiteral (.digits (Nat.toDigits 10 value.toInt.natAbs) :: rest)
            (.number (numeral (Nat.toDigits 10 value.toInt.natAbs))) rest := ⟨_, rfl⟩
        rw [numeral_toDigits (by omega),
          show ((value.toInt.natAbs : Nat) : Int) = value.toInt by omega] at read
        rw [if_neg negative, if_neg (by omega)]
        exact read

theorem reads_path (key : String) {rest : List Token} (stops : Stops rest) :
    Reads parseTerm (pathTokens key ++ rest) (.index key) rest := by
  refine Reads.term ?_ stops
  unfold pathTokens
  split
  · have read : Reads parseAtom (.field key :: rest) (.index key) rest :=
      ⟨Nat.lt_succ_self _, by rw [parseAtom]⟩
    exact read
  · have bound : rest.length < (Token.point :: .string key :: rest).length := by
      simp only [List.length_cons]
      omega
    have read : Reads parseAtom (.point :: .string key :: rest) (.index key) rest :=
      ⟨bound, by rw [parseAtom]⟩
    exact read

theorem reads_point {rest : List Token} (apart : ∀ key others, rest ≠ .string key :: others) :
    Reads parseAtom (.point :: rest) .identity rest := by
  refine ⟨Nat.lt_succ_self _, ?_⟩
  rw [parseAtom]
  exact apart

theorem reads_iterate {rest : List Token} (stops : Stops rest) :
    Reads parseTerm (.point :: .openBracket :: .closeBracket :: rest) (.pipe .identity .iterate)
      rest := by
  have atom : Reads parseAtom (.point :: .openBracket :: .closeBracket :: rest) .identity
      (.openBracket :: .closeBracket :: rest) := reads_point (by simp)
  have follow : parseParts (.openBracket :: .closeBracket :: rest) =
      ([.iterate], (Rest.all rest).behind.behind) := by
    rw [parseParts, parseParts_of_stops stops]
  exact atom.parts follow

theorem reads_operator (operator : Operator) {rest : List Token} (stops : Stops rest)
    (apart : rest.head? ≠ some .equality) :
    Reads parseStage (operator.tokens ++ rest) (ofOperator operator) rest := by
  have closing : Stops (.closeParen :: rest) := by simp [Stops]
  have path : ∀ key, Reads parsePipe (pathTokens key ++ .closeParen :: rest) (.index key)
      (.closeParen :: rest) :=
    fun key => ((reads_path key closing).stage (by simp)).single (by simp)
  refine Reads.stage ?_ apart
  cases operator with
  | all => exact (reads_name "all" (by decide) rfl stops).term stops
  | any => exact (reads_name "any" (by decide) rfl stops).term stops
  | keys => exact (reads_name "keys" (by decide) rfl stops).term stops
  | sort => exact (reads_name "sort" (by decide) rfl stops).term stops
  | forEach => exact reads_iterate stops
  | index key => exact reads_path key stops
  | groupBy key =>
      have call := (reads_call "group_by" (by decide) (path key)).term stops
      simpa [Operator.tokens, ofOperator, ofCall] using call
  | sortBy key =>
      have call := (reads_call "sort_by" (by decide) (path key)).term stops
      simpa [Operator.tokens, ofOperator, ofCall] using call
  | select key constant =>
      have compared : Stops (.equality :: (constant.tokens ++ .closeParen :: rest)) := by
        simp [Stops]
      have condition := ((reads_path key compared).equals (reads_literal constant _)).single
        (by simp)
      have call := (reads_call "select" (by decide) condition).term stops
      simpa [Operator.tokens, ofOperator, ofCall] using call

def Ends : List Token → Prop
  | [] => True
  | token :: _ => token ∈ [.comma, .closeParen, .closeBrace]

theorem Ends.facts {rest : List Token} (ends : Ends rest) :
    Stops rest ∧ rest.head? ≠ some .equality ∧ rest.head? ≠ some .bar := by
  cases rest with
  | nil => simp [Stops]
  | cons token others =>
      simp only [Ends, List.mem_cons, List.not_mem_nil, or_false] at ends
      rcases ends with rfl | rfl | rfl <;> simp [Stops]

theorem reads_pipeline (pipeline : Pipeline) {rest : List Token} (ends : Ends rest) :
    Reads parsePipe (pipeline.tokens ++ rest) (ofPipeline pipeline) rest := by
  obtain ⟨stops, noEquality, noBar⟩ := ends.facts
  fun_induction Pipeline.tokens pipeline with
  | case1 =>
      have noString : ∀ key others, rest ≠ .string key :: others := by
        intro key others string
        subst string
        simp [Stops] at stops
      exact (((reads_point noString).term stops).stage noEquality).single noBar
  | case2 operator => exact (reads_operator operator stops noEquality).single noBar
  | case3 operator others nonempty induction =>
      have goesOn : Stops (.bar :: (Pipeline.tokens others ++ rest)) := by simp [Stops]
      have first := reads_operator operator goesOn (by simp)
      have both := first.pipe induction
      rw [ofPipeline]
      · simpa using both
      · exact nonempty

theorem reads_key (key : String) (rest : List Token) :
    Reads parseKey (keyToken key :: .colon :: rest) key rest := by
  unfold keyToken
  split <;> exact ⟨_, rfl⟩

theorem Reads.ne_closeBrace {tokens rest : List Token} {entries : List (String × Filter)}
    (reads : Reads parseEntries tokens entries rest) (others : List Token) :
    tokens ≠ .closeBrace :: others := by
  intro closes
  subst closes
  obtain ⟨_, read⟩ := reads
  rw [parseEntries] at read
  simp [parseKey] at read

theorem Reads.lastEntry {tokens others rest : List Token} {key : String} {filter : Filter}
    (named : Reads parseKey tokens key others)
    (reads : Reads parsePipe others filter (.closeBrace :: rest)) :
    Reads parseEntries tokens [(key, filter)] rest := by
  obtain ⟨bound, name⟩ := named
  obtain ⟨fewer, read⟩ := reads
  have total : rest.length < tokens.length := by
    simp only [List.length_cons] at fewer
    omega
  refine ⟨total, ?_⟩
  rw [parseEntries, name]
  simp only [read]

theorem Reads.entry {tokens others later rest : List Token} {key : String} {filter : Filter}
    {entries : List (String × Filter)} (named : Reads parseKey tokens key others)
    (reads : Reads parsePipe others filter (.comma :: later))
    (following : Reads parseEntries later entries rest) :
    Reads parseEntries tokens ((key, filter) :: entries) rest := by
  obtain ⟨bound, name⟩ := named
  obtain ⟨fewer, read⟩ := reads
  have apart := following.ne_closeBrace
  obtain ⟨least, readLater⟩ := following
  have total : rest.length < tokens.length := by
    simp only [List.length_cons] at fewer
    omega
  refine ⟨total, ?_⟩
  rw [parseEntries, name]
  simp only [read]
  split
  · exact absurd rfl (apart _)
  · simp only [readLater]

theorem Reads.braced {tokens rest : List Token} {entries : List (String × Filter)}
    (reads : Reads parseEntries tokens entries rest) :
    Reads parseAtom (.openBrace :: tokens) (.record entries) rest := by
  have apart := reads.ne_closeBrace
  obtain ⟨bound, read⟩ := reads
  refine ⟨Nat.lt_succ_of_lt bound, ?_⟩
  rw [parseAtom]
  · simp only [read]
  · exact apart

theorem reads_noEntries (rest : List Token) :
    Reads parseAtom (.openBrace :: .closeBrace :: rest) (.record []) rest := by
  have bound : rest.length < (Token.openBrace :: .closeBrace :: rest).length := by
    simp only [List.length_cons]
    omega
  refine ⟨bound, ?_⟩
  rw [parseAtom]

theorem reads_record {fields : List (String × Program)}
    (entries : fields ≠ [] → ∀ rest,
      Reads parseEntries (Program.tokensOfFields fields ++ .closeBrace :: rest) (ofFields fields)
        rest)
    {rest : List Token} (ends : Ends rest) :
    Reads parsePipe ((Program.record fields).tokens ++ rest) (.record (ofFields fields)) rest := by
  obtain ⟨stops, noEquality, noBar⟩ := ends.facts
  cases fields with
  | nil => exact (((reads_noEntries rest).term stops).stage noEquality).single noBar
  | cons field fields =>
      have inner := (entries (by simp) rest).braced
      simpa [Program.tokens] using ((inner.term stops).stage noEquality).single noBar

mutual

theorem reads_program : (program : Program) → ∀ rest : List Token, Ends rest →
    Reads parsePipe (program.tokens ++ rest) (ofProgram program) rest
  | .pipeline operators => fun _ ends => reads_pipeline operators ends
  | .record fields => fun _ ends => reads_record (reads_fields fields) ends

theorem reads_value : (program : Program) → ∀ rest : List Token, Ends rest →
    Reads parsePipe (program.tokensOfValue ++ rest) (ofProgram program) rest
  | .pipeline operators => fun rest ends => by
      obtain ⟨stops, noEquality, noBar⟩ := ends.facts
      unfold Program.tokensOfValue
      split
      · have closing : Ends (.closeParen :: rest) := by simp [Ends]
        have inner := (reads_pipeline operators closing).parenthesized
        simpa [ofProgram] using ((inner.term stops).stage noEquality).single noBar
      · exact reads_pipeline operators ends
  | .record fields => fun _ ends => reads_record (reads_fields fields) ends

theorem reads_fields : (fields : List (String × Program)) → fields ≠ [] →
    ∀ rest : List Token,
      Reads parseEntries (Program.tokensOfFields fields ++ .closeBrace :: rest) (ofFields fields)
        rest
  | [] => fun nonempty => absurd rfl nonempty
  | [(key, program)] => fun _ rest => by
      have closing : Ends (.closeBrace :: rest) := by simp [Ends]
      exact (reads_key key _).lastEntry (reads_value program _ closing)
  | (key, program) :: next :: fields => fun _ rest => by
      have goesOn : Ends (.comma ::
          (Program.tokensOfFields (next :: fields) ++ .closeBrace :: rest)) := by
        simp [Ends]
      have entry := (reads_key key _).entry (reads_value program _ goesOn)
        (reads_fields (next :: fields) (by simp) rest)
      simpa [Program.tokensOfFields, ofFields] using entry

end

theorem head_tokens_of_operator (operator : Operator) {name : String} (leads : name ∈ leading)
    (rest : List Token) : (operator.tokens ++ rest).head? ≠ some (.word name) := by
  simp only [leading, List.mem_cons, List.not_mem_nil, or_false] at leads
  cases operator with
  | index key =>
      simp only [Operator.tokens, pathTokens]
      split <;> simp
  | _ => rcases leads with rfl | rfl | rfl <;> simp [Operator.tokens]

theorem head_tokens_of_program (program : Program) {name : String} (leads : name ∈ leading) :
    program.tokens.head? ≠ some (.word name) := by
  cases program with
  | record fields => simp [Program.tokens]
  | pipeline operators =>
      rw [Program.tokens]
      fun_cases Pipeline.tokens operators with
      | case1 => simp
      | case2 operator => simpa using head_tokens_of_operator operator leads []
      | case3 operator rest => exact head_tokens_of_operator operator leads _

theorem parse_program (program : Program) :
    parse program.text.toList = some (ofProgram program) := by
  have spelled : Token.ofChars program.text.toList = some program.tokens := by
    rw [Program.text, String.toList_ofList]
    exact (Token.spells_program program).ofChars_eq
  have begins : (leading.any fun name => program.tokens.head? = some (.word name)) = false := by
    simpa using fun name => head_tokens_of_program program
  have whole : Reads parsePipe program.tokens (ofProgram program) [] := by
    simpa using reads_program program [] trivial
  obtain ⟨bound, read⟩ := whole
  simp only [parse, spelled, begins, Bool.false_eq_true, if_false, read]

theorem unknownNames_ofOperator (operator : Operator) :
    (ofOperator operator).unknownNames = [] := by
  cases operator <;> rfl

theorem unknownNames_ofPipeline (pipeline : Pipeline) :
    (ofPipeline pipeline).unknownNames = [] := by
  fun_induction ofPipeline pipeline with
  | case1 => rfl
  | case2 operator => exact unknownNames_ofOperator operator
  | case3 operator rest _ induction =>
      simp [unknownNames, unknownNames_ofOperator, induction]

mutual

theorem unknownNames_ofProgram : (program : Program) → (ofProgram program).unknownNames = []
  | .pipeline operators => unknownNames_ofPipeline operators
  | .record fields => by
      simp only [ofProgram, unknownNames, unknownNamesOfEntries_ofFields fields]

theorem unknownNamesOfEntries_ofFields : (fields : List (String × Program)) →
    unknownNamesOfEntries (ofFields fields) = []
  | [] => rfl
  | (key, program) :: rest => by
      simp only [ofFields, unknownNamesOfEntries, unknownNames_ofProgram program,
        unknownNamesOfEntries_ofFields rest, List.append_nil]

end

end Filter

end FilterSynthesis
