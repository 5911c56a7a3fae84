import FilterSynthesis.CommandLine.Usage
import FilterSynthesis.Proofs.Reading.Fields
import Mathlib.Data.List.Find
import Mathlib.Data.List.TakeWhile

namespace FilterSynthesis

theorem bind_eq_ok_iff {ε α β : Type} {read : Except ε α} {next : α → Except ε β} {result : β} :
    read.bind next = .ok result ↔ ∃ value, read = .ok value ∧ next value = .ok result := by
  cases read <;> simp [Except.bind]

namespace CommandLine

/-- The option is a switch without a letter wherever it is known. -/
def SpeltOut (name : String) (formats : List OptionFormat) : Prop :=
  ∀ format ∈ formats, format.name = name → format.arity = .switch ∧ format.letter = none

namespace Scan

structure Lacks (name : String) (scan : Scan) : Prop where
  options : ∀ entry ∈ scan.options, entry.1 ≠ name
  pending : ∀ format values, scan.pending = some (format, values) → format.name ≠ name

variable {name : String} {formats : List OptionFormat} {scan next : Scan}

theorem Lacks.start : Lacks name {} := ⟨nofun, nofun⟩

theorem Lacks.note (lacks : scan.Lacks name) {format : OptionFormat} {values : List String}
    (other : format.name ≠ name) (ends : scan.note format values = .ok next) :
    next.Lacks name := by
  unfold Scan.note at ends
  split at ends
  · cases ends
  · cases ends
    refine ⟨fun entry member => ?_, lacks.pending⟩
    rcases List.mem_append.mp member with before | here
    · exact lacks.options entry before
    · rw [List.mem_singleton.mp here]
      exact other

theorem Lacks.close (lacks : scan.Lacks name) (ends : scan.close = .ok next) :
    next.Lacks name := by
  unfold Scan.close at ends
  split at ends
  · cases ends
    exact lacks
  · cases ends
  · rename_i format values _ pending
    have closed : Lacks name { scan with pending := none } := ⟨lacks.options, nofun⟩
    exact closed.note (lacks.pending _ _ pending) ends

theorem Lacks.word (lacks : scan.Lacks name) {room : Nat} {word : String}
    (ends : scan.word room word = .ok next) : next.Lacks name := by
  unfold Scan.word at ends
  split at ends
  · rename_i format values pending
    have read : Lacks name { scan with pending := some (format, values ++ [word]) } := by
      refine ⟨lacks.options, ?_⟩
      rintro _ _ ⟨⟩
      exact lacks.pending _ _ pending
    dsimp only at ends
    split at ends
    · exact read.close ends
    · cases ends
      exact read
  · split at ends
    · cases ends
      exact ⟨lacks.options, lacks.pending⟩
    · cases ends

theorem Lacks.option (lacks : scan.Lacks name) {format : OptionFormat} {attached : Option String}
    (other : format.name ≠ name) (ends : scan.option format attached = .ok next) :
    next.Lacks name := by
  unfold Scan.option at ends
  split at ends
  · cases ends
  · rename_i closed closes
    have before := lacks.close closes
    split at ends
    · exact before.note other ends
    · cases ends
    · exact before.note other ends
    · cases ends
      refine ⟨before.options, ?_⟩
      rintro _ _ ⟨⟩
      exact other

theorem Lacks.long (lacks : scan.Lacks name) (speltOut : SpeltOut name formats)
    {chars : List Char} (absent : chars ≠ name.toList)
    (ends : scan.long formats chars = .ok next) : next.Lacks name := by
  unfold Scan.long at ends
  dsimp only at ends
  split at ends
  · rename_i format found
    have named : format.name = String.ofList (chars.takeWhile (· ≠ '=')) := by
      simpa using List.find?_some found
    by_cases same : format.name = name
    · exfalso
      have isSwitch := (speltOut format (List.mem_of_find?_eq_some found) same).1
      cases attached : chars.dropWhile (· ≠ '=') with
      | nil =>
          apply absent
          rw [← same, named, String.toList_ofList, List.takeWhile_eq_self_iff.mpr]
          exact List.dropWhile_eq_nil_iff.mp attached
      | cons first rest =>
          rw [attached] at ends
          unfold Scan.option at ends
          rw [isSwitch] at ends
          split at ends <;> cases ends
    · exact lacks.option same ends
  · split_ifs at ends
    obtain ⟨_, _, fails⟩ := bind_eq_ok_iff.mp ends
    cases fails

theorem Lacks.letters (speltOut : SpeltOut name formats) {chars : List Char}
    (lacks : scan.Lacks name) (ends : scan.letters formats chars = .ok next) :
    next.Lacks name := by
  induction chars generalizing scan with
  | nil =>
      cases ends
      exact lacks
  | cons letter rest induction =>
      unfold Scan.letters at ends
      split at ends
      · split at ends
        · obtain ⟨_, _, fails⟩ := bind_eq_ok_iff.mp ends
          cases fails
        · cases ends
      · rename_i format found
        have other : format.name ≠ name := by
          intro same
          have lettered : format.letter = some letter := by simpa using List.find?_some found
          have bare := (speltOut format (List.mem_of_find?_eq_some found) same).2
          cases bare.symm.trans lettered
        split at ends
        · split at ends
          · rename_i noted notes
            exact induction (lacks.option other notes) ends
          · cases ends
        · exact lacks.option other ends

theorem Lacks.plain {room : Nat} {words : List String} (lacks : scan.Lacks name)
    (ends : scan.plain room words = .ok next) : next.Lacks name := by
  induction words generalizing scan with
  | nil =>
      cases ends
      exact lacks
  | cons word rest induction =>
      obtain ⟨noted, notes, later⟩ := bind_eq_ok_iff.mp ends
      exact induction (lacks.word notes) later

theorem Lacks.run (speltOut : SpeltOut name formats) {room : Nat} {words rest : List String}
    (absent : "--" ++ name ∉ words) (lacks : scan.Lacks name)
    (ends : scan.run formats room words = .ok (next, rest)) : next.Lacks name := by
  induction words generalizing scan with
  | nil =>
      cases ends
      exact lacks
  | cons word words induction =>
      rw [List.mem_cons, not_or] at absent
      obtain ⟨here, there⟩ := absent
      unfold Scan.run at ends
      split at ends
      · obtain ⟨scanned, scans, equal⟩ := map_eq_ok_iff.mp ends
        obtain ⟨closed, closes, reads⟩ := bind_eq_ok_iff.mp scans
        cases equal
        exact (lacks.close closes).plain reads
      · rename_i chars spelt
        obtain ⟨noted, notes, later⟩ := bind_eq_ok_iff.mp ends
        refine induction there (lacks.long speltOut ?_ notes) later
        intro same
        apply here
        rw [← String.toList_inj, String.toList_append, spelt, same]
        rfl
      · obtain ⟨noted, notes, later⟩ := bind_eq_ok_iff.mp ends
        exact induction there (lacks.letters speltOut notes) later
      · split at ends
        · cases ends
          exact lacks
        · obtain ⟨noted, notes, later⟩ := bind_eq_ok_iff.mp ends
          exact induction there (lacks.word notes) later

theorem suffix_of_run {room : Nat} {words rest : List String}
    (ends : scan.run formats room words = .ok (next, rest)) : rest <:+ words := by
  induction words generalizing scan with
  | nil =>
      cases ends
      exact List.suffix_rfl
  | cons word words induction =>
      have later : ∀ {noted : Scan}, noted.run formats room words = .ok (next, rest) →
          rest <:+ word :: words := fun ends => (induction ends).trans (List.suffix_cons _ _)
      unfold Scan.run at ends
      split at ends
      · obtain ⟨_, _, equal⟩ := map_eq_ok_iff.mp ends
        cases equal
        exact List.nil_suffix
      · obtain ⟨_, _, further⟩ := bind_eq_ok_iff.mp ends
        exact later further
      · obtain ⟨_, _, further⟩ := bind_eq_ok_iff.mp ends
        exact later further
      · split at ends
        · cases ends
          exact List.suffix_rfl
        · obtain ⟨_, _, further⟩ := bind_eq_ok_iff.mp ends
          exact later further

end Scan

theorem lacks_of_readArguments {name : String} {formats : List OptionFormat} {room : Nat}
    {words : List String} {arguments : Arguments} (speltOut : SpeltOut name formats)
    (absent : "--" ++ name ∉ words) (ends : readArguments formats room words = .ok arguments) :
    arguments.has name = false := by
  obtain ⟨⟨scan, rest⟩, scans, ends⟩ := bind_eq_ok_iff.mp ends
  cases rest with
  | cons word rest => cases ends
  | nil =>
      obtain ⟨closed, closes, equal⟩ := map_eq_ok_iff.mp ends
      cases equal
      have lacks := ((Scan.Lacks.start.run speltOut absent scans).close closes).options
      simpa [Arguments.has] using lacks

theorem verifyAssembled_of_settings {arguments : Arguments} {settings : Settings}
    (ends : arguments.settings = .ok settings) :
    settings.verifyAssembled = !arguments.has "no-verify-union" := by
  obtain ⟨depth, _, ends⟩ := bind_eq_ok_iff.mp ends
  obtain ⟨wanted, _, ends⟩ := bind_eq_ok_iff.mp ends
  obtain ⟨policy, _, ends⟩ := bind_eq_ok_iff.mp ends
  cases ends
  rfl

namespace Command

theorem exists_settings_of_synthOf {words inputs : List String} {settings : Settings}
    {out : Option String} (ends : synthOf words = .ok (.synth inputs settings out)) :
    ∃ arguments, readArguments synthFormats 0 words = .ok arguments ∧
      arguments.settings = .ok settings := by
  obtain ⟨arguments, reads, ends⟩ := bind_eq_ok_iff.mp ends
  obtain ⟨read, sets, ends⟩ := bind_eq_ok_iff.mp ends
  obtain ⟨_, _, ends⟩ := bind_eq_ok_iff.mp ends
  obtain ⟨_, _, ends⟩ := bind_eq_ok_iff.mp ends
  cases ends
  exact ⟨arguments, reads, sets⟩

theorem synthOf_of_ofName {name : String} {words inputs : List String} {settings : Settings}
    {out : Option String} (ends : ofName name words = .ok (.synth inputs settings out)) :
    synthOf words = .ok (.synth inputs settings out) := by
  unfold ofName at ends
  split at ends
  · exact ends
  · obtain ⟨_, _, ends⟩ := bind_eq_ok_iff.mp ends
    obtain ⟨_, _, ends⟩ := bind_eq_ok_iff.mp ends
    cases ends
  · obtain ⟨_, _, ends⟩ := bind_eq_ok_iff.mp ends
    obtain ⟨_, _, ends⟩ := bind_eq_ok_iff.mp ends
    split at ends
    · cases ends
    · obtain ⟨_, _, ends⟩ := bind_eq_ok_iff.mp ends
      cases ends
  · split at ends <;> cases ends
  · cases ends

/-- A synthesis reviews what it assembles unless the words say that it does not. -/
theorem verifies_of_ofWords {words inputs : List String} {settings : Settings}
    {out : Option String} (command : ofWords words = .ok (.synth inputs settings out))
    (absent : "--no-verify-union" ∉ words) : settings.verifyAssembled = true := by
  obtain ⟨⟨scan, left⟩, scans, named⟩ := bind_eq_ok_iff.mp command
  cases left with
  | nil => cases named
  | cons name rest =>
      obtain ⟨_, _, named⟩ := bind_eq_ok_iff.mp named
      obtain ⟨arguments, reads, sets⟩ := exists_settings_of_synthOf (synthOf_of_ofName named)
      have speltOut : SpeltOut "no-verify-union" synthFormats := by
        unfold SpeltOut
        decide
      have later : "--" ++ "no-verify-union" ∉ rest := fun member =>
        absent ((Scan.suffix_of_run scans).subset (List.mem_cons_of_mem name member))
      rw [verifyAssembled_of_settings sets, lacks_of_readArguments speltOut later reads]
      rfl

end Command

def IsPlain (word : String) : Prop := word.toList.head? ≠ some '-'

namespace Scan

variable {formats : List OptionFormat} {format : OptionFormat} {scan : Scan} {room : Nat}
  {rest : List String} {name value : String}

theorem run_long (nonempty : name ≠ "") :
    scan.run formats room (("--" ++ name) :: rest) =
      (scan.long formats name.toList).bind fun next => next.run formats room rest := by
  have chars : ("--" ++ name).toList = '-' :: '-' :: name.toList := by
    rw [String.toList_append]
    rfl
  have named : name.toList ≠ [] := String.toList_eq_nil_iff.not.mpr nonempty
  obtain ⟨first, others, equal⟩ := List.exists_cons_of_ne_nil named
  rw [run, chars, equal]
  rfl

theorem run_plain (plain : IsPlain value) {values : List String}
    (waits : scan.pending = some (format, values)) :
    scan.run formats room (value :: rest) =
      (scan.word room value).bind fun next => next.run formats room rest := by
  rw [run]
  split
  · rename_i spelt
    simp [IsPlain, spelt] at plain
  · rename_i spelt
    simp [IsPlain, spelt] at plain
  · rename_i spelt
    simp [IsPlain, spelt] at plain
  · rw [if_neg]
    simp [waits]

theorem takeWhile_name (named : '=' ∉ name.toList) (rest : List Char) :
    (name.toList ++ '=' :: rest).takeWhile (· ≠ '=') = name.toList ∧
      (name.toList ++ '=' :: rest).dropWhile (· ≠ '=') = '=' :: rest := by
  have each : ∀ char ∈ name.toList, decide (char ≠ '=') = true := fun char member => by
    simpa using ne_of_mem_of_not_mem member named
  constructor
  · rw [List.takeWhile_append_of_pos each]
    simp
  · rw [List.dropWhile_append_of_pos each]
    simp

theorem run_attached (known : formats.find? (·.name = name) = some format)
    (list : format.arity = .list) (named : '=' ∉ name.toList) (idle : scan.pending = none) :
    scan.run formats room (("--" ++ (name ++ "=" ++ value)) :: rest) =
      { scan with options := scan.options ++ [(format.name, [value])] }.run formats room rest := by
  have chars : (name ++ "=" ++ value).toList = name.toList ++ '=' :: value.toList := by
    rw [String.toList_append, String.toList_append, List.append_assoc]
    rfl
  obtain ⟨before, behind⟩ := takeWhile_name named value.toList
  have noted : scan.long formats (name ++ "=" ++ value).toList =
      .ok { scan with options := scan.options ++ [(format.name, [value])] } := by
    simp only [long, chars, before, behind, String.ofList_toList, known, option, close, idle, list,
      note]
    simp
  rw [run_long (by simp), noted]
  rfl

theorem run_single (known : formats.find? (·.name = name) = some format)
    (single : format.arity = .single) (nonempty : name ≠ "") (named : '=' ∉ name.toList)
    (idle : scan.pending = none) (fresh : format.name ∉ scan.options.map (·.1))
    (plain : IsPlain value) :
    scan.run formats room (("--" ++ name) :: value :: rest) =
      { scan with options := scan.options ++ [(format.name, [value])] }.run formats room rest := by
  have each : ∀ char ∈ name.toList, decide (char ≠ '=') = true := fun char member => by
    simpa using ne_of_mem_of_not_mem member named
  have opened : scan.long formats name.toList = .ok { scan with pending := some (format, []) } := by
    simp only [long, List.takeWhile_eq_self_iff.mpr each, List.dropWhile_eq_nil_iff.mpr each,
      String.ofList_toList, known, option, close, idle, single]
  have taken : { scan with pending := some (format, []) }.word room value =
      .ok { scan with options := scan.options ++ [(format.name, [value])] } := by
    have new : scan.options.any (·.1 = format.name) = false := by
      refine List.any_eq_false.mpr fun entry member => ?_
      simpa using ne_of_mem_of_not_mem (List.mem_map_of_mem member) fresh
    simp [word, single, close, note, new, idle]
  rw [run_long nonempty, opened]
  change Scan.run _ _ _ (value :: rest) = _
  rw [run_plain plain rfl, taken]
  rfl

end Scan

def checkWords (argument text : String) (policy : ScorePolicy) : List String :=
  ["check", "--input=" ++ argument, "--score-policy", policy.name, "--expr", text]

theorem readArguments_checkWords {text : String} (plain : IsPlain text) (argument : String)
    (policy : ScorePolicy) :
    readArguments checkFormats 0 (checkWords argument text policy).tail =
      .ok ⟨[("input", [argument]), ("score-policy", [policy.name]), ("expr", [text])], []⟩ := by
  have words : (checkWords argument text policy).tail = ["--" ++ ("input" ++ "=" ++ argument),
      "--" ++ "score-policy", policy.name, "--" ++ "expr", text] := by
    rw [← String.append_assoc, ← String.append_assoc]
    rfl
  have input : checkFormats.find? (·.name = "input") = some .input := by decide
  have scorePolicy : checkFormats.find? (·.name = "score-policy") = some .scorePolicy := by decide
  have expr : checkFormats.find? (·.name = "expr") = some .expr := by decide
  have isPlain : IsPlain policy.name := by cases policy <;> simp [IsPlain, ScorePolicy.name]
  have second : OptionFormat.scorePolicy.name ∉ ["input"] := by decide
  have third : OptionFormat.expr.name ∉ ["input", "score-policy"] := by decide
  unfold readArguments
  rw [words, Scan.run_attached input rfl (by decide) rfl,
    Scan.run_single scorePolicy rfl (by decide) (by decide) rfl (by exact second) isPlain,
    Scan.run_single expr rfl (by decide) (by decide) rfl (by exact third) plain]
  rfl

theorem Command.ofWords_checkWords {text : String} (plain : IsPlain text) (argument : String)
    (policy : ScorePolicy) :
    ofWords (checkWords argument text policy) = .ok (.check [argument] text policy) := by
  have chosen : ofWords (checkWords argument text policy) =
      checkOf (checkWords argument text policy).tail := rfl
  rw [chosen, checkOf, readArguments_checkWords plain]
  cases policy <;> rfl

end CommandLine

theorem Operator.exists_chars (operator : Operator) :
    ∃ first rest, operator.chars = first :: rest ∧ first ≠ '-' := by
  cases operator with
  | index key => exact ⟨'.', _, rfl, by decide⟩
  | groupBy key => exact ⟨'g', _, rfl, by decide⟩
  | sortBy key => exact ⟨'s', _, rfl, by decide⟩
  | select key literal => exact ⟨'s', _, rfl, by decide⟩
  | _ => exact ⟨_, _, rfl, by decide⟩

theorem Pipeline.exists_chars (pipeline : Pipeline) :
    ∃ first rest, Pipeline.chars pipeline = first :: rest ∧ first ≠ '-' := by
  match pipeline with
  | [] => exact ⟨'.', [], rfl, by decide⟩
  | [operator] => exact operator.exists_chars
  | operator :: second :: others =>
      obtain ⟨first, rest, equal, other⟩ := operator.exists_chars
      exact ⟨first, rest ++ ' ' :: '|' :: ' ' :: Pipeline.chars (second :: others),
        by simp [Pipeline.chars, equal], other⟩

theorem Program.isPlain_text (program : Program) : CommandLine.IsPlain program.text := by
  have start : ∃ first rest, program.chars = first :: rest ∧ first ≠ '-' := by
    cases program with
    | pipeline operators => exact Pipeline.exists_chars operators
    | record fields => exact ⟨'\x7b', _, rfl, by decide⟩
  obtain ⟨first, rest, equal, other⟩ := start
  simp [CommandLine.IsPlain, Program.text, equal, other]

end FilterSynthesis
