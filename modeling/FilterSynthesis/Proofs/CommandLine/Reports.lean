import FilterSynthesis.CommandLine.Command
import Mathlib.Data.List.Basic

/-!
What `synth` prints of a document. The file, the time and the expressions or the error all stand in
the text, and nothing else does: who knows the text of a report knows them.
-/

namespace FilterSynthesis

theorem append_mark_inj {α : Type} {mark : α} {first second rest others : List α}
    (absent : mark ∉ first) (missing : mark ∉ second)
    (same : first ++ mark :: rest = second ++ mark :: others) : first = second ∧ rest = others := by
  induction first generalizing second with
  | nil =>
      cases second with
      | nil => exact ⟨rfl, (List.cons.inj same).2⟩
      | cons item items =>
          cases same
          exact absurd List.mem_cons_self missing
  | cons item items induction =>
      cases second with
      | nil =>
          cases same
          exact absurd List.mem_cons_self absent
      | cons item items =>
          obtain ⟨rfl, tails⟩ := List.cons.inj same
          obtain ⟨rfl, rest⟩ := induction (fun listed => absent (List.mem_cons_of_mem _ listed))
            (fun listed => missing (List.mem_cons_of_mem _ listed)) tails
          exact ⟨rfl, rest⟩

theorem newline_notMem_escapeChar (char : Char) : '\n' ∉ escapeChar char := by
  unfold escapeChar
  cases found : shortEscapes.find? (·.2 = char) with
  | some entry =>
      have listed := List.mem_of_find?_eq_some found
      have letters : ∀ entry ∈ shortEscapes, '\n' ∉ ['\\', entry.1] := by decide
      exact letters entry listed
  | none =>
      have missing : ∀ entry ∈ shortEscapes, entry.2 ≠ char := by simpa using found
      have digits : ∀ digit < 16, Nat.digitChar digit ≠ '\n' := by decide
      have hexDigits : ∀ value, '\n' ≠ hexDigit value := fun value =>
        (digits (value % 16) (Nat.mod_lt _ (by decide))).symm
      dsimp only
      split
      · simp [hexDigits]
      · rw [List.mem_singleton]
        exact missing ('n', '\n') (by decide)

theorem newline_notMem_quoted (text : String) : '\n' ∉ quoted text := by
  simp [quoted, quotedChars, newline_notMem_escapeChar]

theorem newline_notMem_toDigits (number : Nat) : '\n' ∉ Nat.toDigits 10 number := fun member =>
  absurd (Nat.isDigit_of_mem_toDigits (by decide) (by decide) member) (by decide)

theorem newline_notMem_keyChars (key : String) : '\n' ∉ keyChars key := by
  unfold keyChars
  split
  · rename_i identifier
    cases spelled : key.toList with
    | nil => exact List.not_mem_nil
    | cons first rest =>
        rw [spelled, isIdentifier, Bool.and_eq_true, List.all_eq_true] at identifier
        intro member
        rcases List.mem_cons.mp member with rfl | later
        · exact absurd identifier.1 (by decide)
        · exact absurd (identifier.2 '\n' later) (by decide)
  · exact newline_notMem_quoted key

theorem newline_notMem_pathChars (key : String) : '\n' ∉ pathChars key := by
  simp [pathChars, newline_notMem_keyChars]

theorem Literal.newline_notMem_chars (literal : Literal) : '\n' ∉ literal.chars := by
  cases literal with
  | bool value => cases value <;> decide
  | int value =>
      change '\n' ∉ integerChars value.toInt
      unfold integerChars
      split
      · rw [List.mem_cons, not_or]
        exact ⟨by decide, newline_notMem_toDigits _⟩
      · exact newline_notMem_toDigits _
  | str value => exact newline_notMem_quoted value

theorem Operator.newline_notMem_chars (operator : Operator) : '\n' ∉ operator.chars := by
  cases operator <;>
    simp [chars, callChars, newline_notMem_pathChars, Literal.newline_notMem_chars]

theorem Pipeline.newline_notMem_chars : (pipeline : Pipeline) → '\n' ∉ Pipeline.chars pipeline
  | [] => by decide
  | [operator] => operator.newline_notMem_chars
  | operator :: second :: rest => by
      simp [chars, operator.newline_notMem_chars, newline_notMem_chars (second :: rest)]

namespace Program

mutual

theorem newline_notMem_chars : (program : Program) → '\n' ∉ program.chars
  | .pipeline operators => Pipeline.newline_notMem_chars operators
  | .record fields => by simp [chars, newline_notMem_charsOfFields fields]

theorem newline_notMem_charsOfFields : (fields : List (String × Program)) →
    '\n' ∉ charsOfFields fields
  | [] => List.not_mem_nil
  | [(key, program)] => by
      simp [charsOfFields, newline_notMem_keyChars, newline_notMem_charsOfValue program]
  | (key, program) :: second :: rest => by
      simp [charsOfFields, newline_notMem_keyChars, newline_notMem_charsOfValue program,
        newline_notMem_charsOfFields (second :: rest)]

theorem newline_notMem_charsOfValue : (program : Program) → '\n' ∉ program.charsOfValue
  | .pipeline operators => by
      unfold charsOfValue
      split <;> simp [Pipeline.newline_notMem_chars]
  | .record fields => by simp [charsOfValue, newline_notMem_charsOfFields fields]

end

end Program

theorem toList_toString (number : Nat) : (toString number).toList = Nat.toDigits 10 number :=
  String.toList_ofList

theorem toDigits_injective {first second : Nat}
    (same : Nat.toDigits 10 first = Nat.toDigits 10 second) :
    first = second := by
  rw [← Number.decimal_toDigits first, same, Number.decimal_toDigits]

theorem SynthesisError.toList_message (error : SynthesisError) :
    error.message.toList = match error with
      | .outOfDepth depth =>
          "exhausted all supported expressions till depth: ".toList ++ Nat.toDigits 10 depth
      | .noExamples => "no examples to synthesize from".toList
      | .unverified text =>
          "assembled expression `".toList ++
            (text.toList ++ "` does not satisfy the examples".toList) := by
  cases error with
  | outOfDepth depth =>
      unfold message
      dsimp only
      rw [String.toList_append, toList_toString]
      rfl
  | noExamples => rfl
  | unverified text =>
      unfold message
      dsimp only
      rw [String.toList_append, String.toList_append, List.append_assoc]
      rfl

theorem SynthesisError.head?_message (error : SynthesisError) :
    error.message.toList.head? = match error with
      | .outOfDepth _ => some 'e'
      | .noExamples => some 'n'
      | .unverified _ => some 'a' := by
  rw [toList_message]
  cases error with
  | outOfDepth depth => exact List.head?_append_of_ne_nil _ (by decide)
  | noExamples => decide
  | unverified text => exact List.head?_append_of_ne_nil _ (by decide)

theorem SynthesisError.message_injective {first second : SynthesisError}
    (same : first.message = second.message) : first = second := by
  have heads := congrArg (·.toList.head?) same
  have chars := congrArg String.toList same
  simp only [head?_message] at heads
  rw [toList_message, toList_message] at chars
  cases first with
  | outOfDepth depth =>
      cases second with
      | outOfDepth other => rw [toDigits_injective (List.append_cancel_left chars)]
      | _ => simp at heads
  | noExamples =>
      cases second with
      | noExamples => rfl
      | _ => simp at heads
  | unverified text =>
      cases second with
      | unverified other =>
          rw [String.toList_inj.mp (List.append_cancel_right (List.append_cancel_left chars))]
      | _ => simp at heads

namespace CommandLine.SynthesisReport

structure IsPlain (report : SynthesisReport) : Prop where
  file : '\n' ∉ report.file.toList
  expressions : ∀ texts, report.outcome = .ok texts → ∀ text ∈ texts, '\n' ∉ text.toList

theorem isPlain_ofSource {source : Source} (path : '\n' ∉ source.path.toList)
    (settings : Settings) :
    (ofSource settings source).IsPlain where
  file := path
  expressions := by
    intro texts found text listed
    unfold ofSource at found
    dsimp only at found
    rw [← Trace.result_map] at found
    obtain ⟨programs, _, rfl⟩ := Trace.result_map_eq_ok_iff.mp found
    obtain ⟨program, _, rfl⟩ := List.mem_map.mp listed
    rw [Program.text, String.toList_ofList]
    exact program.newline_notMem_chars

def headChars (mark : Char) (file : String) (elapsed : Nat) : List Char :=
  mark :: ' ' :: (file.toList ++ ' ' :: '(' :: (Nat.toDigits 10 elapsed ++ [' ', 'm', 's', ')']))

def lineChars (text : String) : List Char :=
  ' ' :: ' ' :: ' ' :: ' ' :: (text.toList ++ ['\n'])

theorem toList_text (report : SynthesisReport) (elapsed : Nat) :
    (report.text elapsed).toList = match report.outcome with
      | .ok texts => headChars '✔' report.file elapsed ++ '\n' :: texts.flatMap lineChars
      | .error error => headChars '✘' report.file elapsed ++ '\n' :: lineChars error.message := by
  have pieces : "✔ ".toList = ['✔', ' '] ∧ "✘ ".toList = ['✘', ' '] ∧ " (".toList = [' ', '('] ∧
      " ms)\n".toList = [' ', 'm', 's', ')', '\n'] ∧
      " ms)\n    ".toList = [' ', 'm', 's', ')', '\n', ' ', ' ', ' ', ' '] ∧
      "    ".toList = [' ', ' ', ' ', ' '] ∧ "\n".toList = ['\n'] := by decide
  have digits : elapsed.repr.toList = Nat.toDigits 10 elapsed := toList_toString elapsed
  unfold text
  cases report.outcome with
  | ok texts =>
      simp [headChars, toString, String.toList_join, List.flatMap_map, pieces, digits]
      rfl
  | error error => simp [headChars, lineChars, toString, pieces, digits]

theorem headChars_inj {mark other : Char} {file again : String} {elapsed time : Nat}
    (same : headChars mark file elapsed = headChars other again time) :
    mark = other ∧ file = again ∧ elapsed = time := by
  have opening : ∀ number, '(' ∉ (Nat.toDigits 10 number).reverse := by
    intro number member
    exact absurd (Nat.isDigit_of_mem_toDigits (by decide) (by decide) (List.mem_reverse.mp member))
      (by decide)
  have shape : ∀ mark (file : String) elapsed, (headChars mark file elapsed).reverse =
      [')', 's', 'm', ' '] ++ ((Nat.toDigits 10 elapsed).reverse ++ '(' :: ' ' ::
        (file.toList.reverse ++ [' ', mark])) := by
    intro mark file elapsed
    simp [headChars]
  have reversed := congrArg List.reverse same
  rw [shape, shape] at reversed
  obtain ⟨digits, names⟩ := append_mark_inj (opening elapsed) (opening time)
    (List.append_cancel_left reversed)
  obtain ⟨files, marks⟩ := List.append_inj' (List.cons.inj names).2 rfl
  refine ⟨?_, ?_, toDigits_injective (List.reverse_inj.mp digits)⟩
  · simpa using marks
  · exact String.toList_inj.mp (List.reverse_inj.mp files)

theorem newline_notMem_headChars {mark : Char} (drawn : '\n' ≠ mark) {file : String}
    (plain : '\n' ∉ file.toList) (elapsed : Nat) : '\n' ∉ headChars mark file elapsed := by
  simp [headChars, drawn, plain, newline_notMem_toDigits]

theorem lines_inj {texts others : List String} (plain : ∀ text ∈ texts, '\n' ∉ text.toList)
    (single : ∀ text ∈ others, '\n' ∉ text.toList)
    (same : texts.flatMap lineChars = others.flatMap lineChars) : texts = others := by
  induction texts generalizing others with
  | nil =>
      cases others with
      | nil => rfl
      | cons text rest => cases same
  | cons text rest induction =>
      cases others with
      | nil => cases same
      | cons other others =>
          obtain ⟨plain, rest⟩ := List.forall_mem_cons.mp plain
          obtain ⟨single, others⟩ := List.forall_mem_cons.mp single
          simp only [List.flatMap_cons, lineChars, List.cons_append, List.append_assoc,
            List.nil_append, List.cons.injEq, true_and] at same
          obtain ⟨chars, lines⟩ := append_mark_inj plain single same
          rw [String.toList_inj.mp chars, induction rest others lines]

/-- The text of a report shows the file, the time and the outcome. -/
theorem eq_of_text_eq {report other : SynthesisReport} (plain : report.IsPlain)
    (single : other.IsPlain) {elapsed time : Nat} (same : report.text elapsed = other.text time) :
    report.file = other.file ∧ elapsed = time ∧ report.outcome = other.outcome := by
  have chars := congrArg String.toList same
  have head (mark : Char) (drawn : '\n' ≠ mark) :=
    newline_notMem_headChars drawn plain.file elapsed
  have start (mark : Char) (drawn : '\n' ≠ mark) :=
    newline_notMem_headChars drawn single.file time
  rw [toList_text, toList_text] at chars
  cases found : report.outcome with
  | ok texts =>
      cases answers : other.outcome with
      | ok others =>
          rw [found, answers] at chars
          obtain ⟨heads, lines⟩ :=
              append_mark_inj (head '✔' (by decide)) (start '✔' (by decide)) chars
          obtain ⟨-, files, times⟩ := headChars_inj heads
          rw [lines_inj (plain.expressions texts found) (single.expressions others answers) lines]
          exact ⟨files, times, rfl⟩
      | error error =>
          rw [found, answers] at chars
          exact absurd (List.cons.inj chars).1 (by decide)
  | error error =>
      cases answers : other.outcome with
      | ok others =>
          rw [found, answers] at chars
          exact absurd (List.cons.inj chars).1 (by decide)
      | error again =>
          rw [found, answers] at chars
          obtain ⟨heads, lines⟩ :=
              append_mark_inj (head '✘' (by decide)) (start '✘' (by decide)) chars
          obtain ⟨-, files, times⟩ := headChars_inj heads
          simp only [lineChars, List.cons.injEq, true_and] at lines
          have messages := String.toList_inj.mp (List.append_cancel_right lines)
          rw [SynthesisError.message_injective messages]
          exact ⟨files, times, rfl⟩

end CommandLine.SynthesisReport

end FilterSynthesis
