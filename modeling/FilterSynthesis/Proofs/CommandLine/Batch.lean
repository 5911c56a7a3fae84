import FilterSynthesis.Proofs.CommandLine.Loading
import FilterSynthesis.Proofs.CommandLine.Words
import FilterSynthesis.Proofs.Evaluation
import FilterSynthesis.Proofs.Synthesis.Answers

namespace FilterSynthesis

open CommandLine

def CommandLine.Finish.tallied (output : String) (failed : Nat) (summary : String) : Finish :=
  ⟨output, if failed = 0 then "" else s!"Error: {summary}\n", if failed = 0 then 0 else 1⟩

def CommandLine.Command.inputs : Command → List String
  | .synth inputs _ _ => inputs
  | .schema inputs => inputs
  | .check inputs _ _ => inputs

namespace Host

variable {State : Type} (host : Host State) (state : State)

/-- Given the settings, `synth` comes to just these reports for the arguments, whatever time each of
them takes. They are printed, or else written to a file, for which a directory is made. Unless the
file cannot be written, the run counts the reports that tell of an error. -/
def Reports (settings : Settings) (inputs : List String) (reports : List SynthesisReport) : Prop :=
  let failed := reports.countP SynthesisReport.isFailure
  let summary := s!"{failed} of {reports.length} documents could not be synthesized"
  ∀ out, ∃ (elapsed : List Nat) (later : State), elapsed.length = reports.length ∧
    host.Passes state later ∧
      (Command.synth inputs settings out).run.runOn host state =
        match out with
        | none =>
            (.tallied (String.join (List.zipWith SynthesisReport.text reports elapsed)) failed
              summary, later)
        | some path =>
            match host.makeDirectories later (Path.parent path) with
            | (.error error, left) => (.failure "" ⟨error.message, []⟩, left)
            | (.ok (), made) =>
                let written := Json.array (List.zipWith SynthesisReport.toJson reports elapsed)
                match host.write made path written.pretty with
                | (.error error, left) =>
                    (.failure "" ⟨s!"writing {path}", [error.message]⟩, left)
                | (.ok (), left) => (.tallied "" failed summary, left)

/-- On what the arguments stand for, `check` gives the filter just these verdicts, each for a path.
They are printed, and the run counts those that are no match. -/
def Judges (expression : String) (policy : ScorePolicy) (inputs : List String)
    (verdicts : List (String × Verdict)) : Prop :=
  let failed := verdicts.countP fun verdict => !verdict.2.isMatch
  (Command.check inputs expression policy).run.runOn host state =
    (.tallied (String.join (verdicts.map fun verdict => verdictText verdict.1 verdict.2)) failed
      s!"`{expression}` does not satisfy {failed} document(s)", state)

def Describes (inputs : List String) (views : List Json) : Prop :=
  (Command.schema inputs).run.runOn host state =
    (.success (String.join (views.map fun view => view.pretty ++ "\n")), state)

variable {host state}

theorem runOn_of_steps {command : Command} {finish : Finish} {left : State}
    (ends : command.steps.run.runOn host state = (.ok finish, left)) :
    command.run.runOn host state = (finish, left) := by
  unfold Command.run
  rw [Access.runOn_bind, ends]
  rfl

theorem runOn_of_failed_steps {command : Command} {failure : Failure} {left : State}
    (ends : command.steps.run.runOn host state = (.error failure, left)) :
    command.run.runOn host state = (.failure "" failure, left) := by
  unfold Command.run
  rw [Access.runOn_bind, ends]
  rfl

theorem runOn_of_unloadable {command : Command}
    (unloadable : host.Unloadable state command.inputs) :
    ∃ failure, command.run.runOn host state = (.failure "" failure, state) := by
  have looks := looks_loadInputs command.inputs
  cases outcome : ((loadInputs command.inputs).run.runOn host state).1 with
  | ok sources =>
      obtain ⟨groups, batch⟩ := loadInputs_eq_ok_iff.mp outcome
      exact absurd ⟨groups, sources, batch⟩ (unloadable_iff.mp unloadable)
  | error failure =>
      refine ⟨failure, runOn_of_failed_steps ?_⟩
      cases command with
      | synth | schema | check =>
          dsimp only [Command.inputs] at looks outcome
          dsimp only [Command.steps]
          rw [looks.runOn_bind, outcome]

theorem finish_eq_tallied (output : String) (failed : Nat) (summary : String) :
    Command.finish output (if failed = 0 then none else some ⟨summary, []⟩) =
      .tallied output failed summary := by
  have told : Failure.text ⟨summary, []⟩ = s!"Error: {summary}\n" :=
    congrArg (· ++ "\n") String.append_empty
  unfold Finish.tallied
  split
  · rfl
  · rw [Command.finish, Finish.failure, told]

theorem exists_elapsed (host : Host State) (settings : Settings) (sources : List Source)
    (state : State) :
    ∃ (elapsed : List Nat) (later : State), elapsed.length = sources.length ∧
      host.Passes state later ∧
      (sources.mapM (timedReport settings)).runOn host state =
        ((sources.map (SynthesisReport.ofSource settings)).zip elapsed, later) := by
  induction sources generalizing state with
  | nil => exact ⟨[], state, rfl, .refl, rfl⟩
  | cons source rest induction =>
      let middle := (host.clock state).2
      let stopped := (host.clock middle).2
      obtain ⟨elapsed, later, count, passes, ends⟩ := induction stopped
      have timed : (timedReport settings source).runOn host state =
          ((SynthesisReport.ofSource settings source,
            (host.clock middle).1 - (host.clock state).1), stopped) := rfl
      refine ⟨((host.clock middle).1 - (host.clock state).1) :: elapsed, later,
        congrArg Nat.succ count, ?_, ?_⟩
      · have first : host.Passes state middle := .single rfl
        have second : host.Passes middle stopped := .single rfl
        exact (first.trans second).trans passes
      · rw [List.mapM_cons, Access.runOn_bind, Access.runOn_bind, timed, ends]
        rfl

theorem runOn_writeText (path text : String) (state : State) :
    (writeText path text).run.runOn host state =
      match host.makeDirectories state (Path.parent path) with
      | (.error error, left) => (.error ⟨error.message, []⟩, left)
      | (.ok (), made) =>
          match host.write made path text with
          | (.error error, left) => (.error ⟨s!"writing {path}", [error.message]⟩, left)
          | (.ok (), left) => (.ok (), left) := by
  have making : (Access.createDirectories (Path.parent path)).runOn host state =
      host.makeDirectories state (Path.parent path) := rfl
  unfold writeText
  rw [ExceptT.runOn_lift_bind, making]
  obtain ⟨answer, made⟩ := host.makeDirectories state (Path.parent path)
  cases answer with
  | error error => rfl
  | ok done =>
      have writing : (Access.writeFile path text).runOn host made = host.write made path text := rfl
      dsimp only
      rw [ExceptT.runOn_lift_bind, writing]
      obtain ⟨answer, left⟩ := host.write made path text
      cases answer <;> rfl

/-- After loading, only the times in the reports depend on the clock. -/
theorem exists_steps {inputs : List String} {groups : List (List String)} {sources : List Source}
    (batch : host.Batch state inputs groups sources) (settings : Settings) (out : Option String) :
    let reports := sources.map (SynthesisReport.ofSource settings)
    let failed := reports.countP SynthesisReport.isFailure
    let summary := s!"{failed} of {reports.length} documents could not be synthesized"
    ∃ (elapsed : List Nat) (later : State), elapsed.length = reports.length ∧
      host.Passes state later ∧
      (Command.synth inputs settings out).steps.run.runOn host state =
        (match out with
        | none =>
            return .tallied (String.join (List.zipWith SynthesisReport.text reports elapsed)) failed
              summary
        | some path => do
            writeText path (Json.array (List.zipWith SynthesisReport.toJson reports elapsed)).pretty
            return .tallied "" failed summary :
          ExceptT Failure Access Finish).run.runOn host later := by
  intro reports failed summary
  obtain ⟨elapsed, later, count, passes, ends⟩ := exists_elapsed host settings sources state
  have counted : elapsed.length = reports.length := by rw [count, List.length_map]
  have firsts : (reports.zip elapsed).map (·.1) = reports := List.map_fst_zip (by omega)
  have told : ∀ output,
      Command.finish output (SynthesisReport.failure? ((reports.zip elapsed).map (·.1))) =
        .tallied output failed summary := by
    intro output
    rw [firsts]
    exact finish_eq_tallied output failed summary
  refine ⟨elapsed, later, counted, passes, ?_⟩
  dsimp only [Command.steps]
  rw [batch.runOn_bind, ExceptT.runOn_lift_bind, ends]
  cases out with
  | none | some =>
      dsimp only
      rw [told, List.map_zip_eq_zipWith]
      rfl

theorem reports_of_batch {inputs : List String} {groups : List (List String)}
    {sources : List Source} (batch : host.Batch state inputs groups sources)
    (settings : Settings) :
    host.Reports state settings inputs (sources.map (SynthesisReport.ofSource settings)) := by
  intro out
  obtain ⟨elapsed, later, counted, passes, ends⟩ := exists_steps batch settings out
  refine ⟨elapsed, later, counted, passes, ?_⟩
  cases out with
  | none => exact runOn_of_steps ends
  | some path =>
      dsimp only at ends ⊢
      rw [ExceptT.run_bind, Access.runOn_bind, runOn_writeText] at ends
      cases making : host.makeDirectories later (Path.parent path) with
      | mk answer made =>
          rw [making] at ends
          cases answer with
          | error error => exact runOn_of_failed_steps ends
          | ok =>
              dsimp only at ends ⊢
              cases writing : host.write made path _ with
              | mk answer left =>
                  rw [writing] at ends
                  cases answer with
                  | error error => exact runOn_of_failed_steps ends
                  | ok => exact runOn_of_steps ends

theorem judges_of_batch {inputs : List String} {groups : List (List String)}
    {sources : List Source} (batch : host.Batch state inputs groups sources)
    (expression : String) (policy : ScorePolicy) :
    host.Judges state expression policy inputs
      (sources.map fun source => (source.path, checkSource expression policy source)) := by
  refine runOn_of_steps ?_
  dsimp only [Command.steps]
  rw [batch.runOn_bind, mismatch?, finish_eq_tallied, List.countP_map, List.countP_map,
    List.zipWith_map_right, List.zipWith_self, List.map_map]
  rfl

theorem describes_of_batch {inputs : List String} {groups : List (List String)}
    {sources : List Source} (batch : host.Batch state inputs groups sources) :
    host.Describes state inputs (sources.map schemaView) := by
  refine runOn_of_steps ?_
  dsimp only [Command.steps]
  rw [batch.runOn_bind, List.map_map]
  rfl

theorem accepts_of_run {oracle : Oracle} {settings : Settings} {examples : List Example}
    {constants : List Literal} {found : List Program} (verifies : settings.verifyAssembled = true)
    (ends : (Synthesis.run oracle settings examples constants).result = .ok found) :
    ∀ program ∈ found, oracle.Accepts program.text examples := by
  by_cases empty : examples = []
  · subst empty
    cases ends
  · rw [Synthesis.run_of_ne_nil empty] at ends
    intro program member
    cases Synthesis.certified_of_programs verifies ends program member with
    | pipeline accepted => exact accepted
    | record _ accepted _ _ => exact accepted

theorem accepted_of_reported {settings : Settings} {source : Source} {texts : List String}
    (verifies : settings.verifyAssembled = true)
    (reported : (SynthesisReport.ofSource settings source).outcome = .ok texts) {text : String}
    (member : text ∈ texts) :
    IsPlain text ∧ ∀ policy, (checkSource text policy source).isMatch = true := by
  obtain ⟨found, ends, rfl⟩ := map_eq_ok_iff.mp reported
  obtain ⟨program, listed, rfl⟩ := List.mem_map.mp member
  exact ⟨program.isPlain_text, accepts_of_run verifies ends program listed⟩

theorem runWords_of_accepted {argument text : String} {single : List (List String)}
    {source : Source} {policy : ScorePolicy} (batch : host.Batch state [argument] single [source])
    (plain : IsPlain text) (accepted : (checkSource text policy source).isMatch = true) :
    (runWords (checkWords argument text policy)).runOn host state =
      (.success s!"✔ {source.path}\n", state) := by
  have judged := judges_of_batch batch text policy
  unfold runWords
  rw [Command.ofWords_checkWords plain]
  refine judged.trans ?_
  simp [Finish.tallied, accepted, verdictText, Finish.success]

end Host

/-- Unless every argument stands for something and every path for a document, each command fails
without any output and leaves everything as it is. Otherwise the documents come in the order of the
arguments, and what a pattern matches in the order of paths. For each of them `synth`, `check` and
`schema` come to one report, verdict or view, and to the same for arguments that lead to this
document alone. What `synth` reports, unless told not to review, `check` accepts under both
policies. -/
theorem batch_is_sum_of_documents {State : Type} (host : Host State) (state : State)
    (inputs : List String) :
    (host.Unloadable state inputs → ∀ command : Command, command.inputs = inputs →
      ∃ failure, command.run.runOn host state = (.failure "" failure, state)) ∧
    (¬host.Unloadable state inputs → ∃ groups sources, host.Batch state inputs groups sources ∧
      (∀ group ∈ groups, Sorting.Ascends Path.less group) ∧
      (∀ settings,
        host.Reports state settings inputs (sources.map (SynthesisReport.ofSource settings))) ∧
      (∀ expression policy, host.Judges state expression policy inputs
        (sources.map fun source => (source.path, checkSource expression policy source))) ∧
      host.Describes state inputs (sources.map schemaView) ∧
      ∀ source ∈ sources,
        (isPattern source.path = false →
          host.Batch state [source.path] [[source.path]] [source]) ∧
        (∀ alone single, host.Batch state alone single [source] →
          (∀ settings,
            host.Reports state settings alone [SynthesisReport.ofSource settings source]) ∧
          (∀ expression policy, host.Judges state expression policy alone
            [(source.path, checkSource expression policy source)]) ∧
          host.Describes state alone [schemaView source]) ∧
        ∀ words settings out, Command.ofWords words = .ok (.synth inputs settings out) →
          "--no-verify-union" ∉ words →
          ∀ texts, (SynthesisReport.ofSource settings source).outcome = .ok texts →
            ∀ text ∈ texts, ∀ policy argument single,
              host.Batch state [argument] single [source] →
                (runWords (checkWords argument text policy)).runOn host state =
                  (.success s!"✔ {source.path}\n", state)) := by
  constructor
  · rintro unloadable command rfl
    exact Host.runOn_of_unloadable unloadable
  · intro loadable
    obtain ⟨groups, sources, batch⟩ := not_not.mp (Host.unloadable_iff.not.mp loadable)
    refine ⟨groups, sources, batch, batch.ascends, Host.reports_of_batch batch,
      Host.judges_of_batch batch, Host.describes_of_batch batch,
      fun source member => ⟨batch.single member, ?_, ?_⟩⟩
    · intro alone single batch
      exact ⟨Host.reports_of_batch batch, Host.judges_of_batch batch, Host.describes_of_batch batch⟩
    · intro words settings out command absent texts reported text listed policy argument single
        batch
      have verifies := Command.verifies_of_ofWords command absent
      obtain ⟨plain, accepted⟩ := Host.accepted_of_reported verifies reported listed
      exact Host.runWords_of_accepted batch plain (accepted policy)

/-- Of two documents one asks for its input and the other for something else; a third is missing. -/
theorem failure_is_reported_beside_success :
    let content : String → Bytes := fun text => text.toList.map fun char => char.toNat.toUInt8
    let host : Host Nat := {
      read := fun _ path =>
        if path = "a.json" then .ok (content "[[[true,[true]]]]")
        else if path = "b.json" then .ok (content "[[[true,[false]]]]")
        else .error .notFound
      kind := fun _ _ => none
      list := fun _ _ => .error .notFound
      makeDirectories := fun time _ => (.ok (), time)
      write := fun time _ _ => (.ok (), time)
      clock := fun time => (time, time + 1) }
    host.Reports 0 {} ["b.json", "a.json"]
        [⟨"b.json", .error (.outOfDepth 3), none⟩, ⟨"a.json", .ok ["."], none⟩] ∧
      host.Judges 0 "." .aggregate ["b.json", "a.json"]
        [("b.json", ⟨none, 1⟩), ("a.json", ⟨some ".", 0⟩)] ∧
      (runWords (checkWords "a.json" "." .aggregate)).runOn host 0 =
        (.success "✔ a.json\n", 0) ∧
      ∃ failure, (Command.schema ["a.json", "c.json"]).run.runOn host 0 =
        (.failure "" failure, 0) := by
  intro content host
  let unmet : Source := ⟨"b.json", ⟨[⟨.bool true, [.bool false]⟩], [], none⟩⟩
  let met : Source := ⟨"a.json", ⟨[⟨.bool true, [.bool true]⟩], [], none⟩⟩
  have first : Document.ofBytes (content "[[[true,[false]]]]") = .ok unmet.document := by
    dsimp only [content, unmet]
    cbv
  have second : Document.ofBytes (content "[[[true,[true]]]]") = .ok met.document := by
    dsimp only [content, met]
    cbv
  have batch : host.Batch 0 ["b.json", "a.json"] [["b.json"], ["a.json"]] [unmet, met] :=
    ⟨.cons (.path (by decide)) (.cons (.path (by decide)) .nil),
      .cons ⟨⟨_, rfl, first⟩, rfl⟩ (.cons ⟨⟨_, rfl, second⟩, rfl⟩ .nil)⟩
  have loadable : ¬host.Unloadable 0 ["b.json", "a.json"] := fun unloadable =>
    Host.unloadable_iff.mp unloadable ⟨_, _, batch⟩
  have missing : host.Unloadable 0 ["a.json", "c.json"] := by
    refine .inr ⟨"c.json", by decide, ["c.json"], .path (by decide), "c.json", by decide, ?_⟩
    rintro document ⟨bytes, found, _⟩
    cases found
  obtain ⟨groups, sources, found, _, reports, judges, _, each⟩ :=
    (batch_is_sum_of_documents host 0 ["b.json", "a.json"]).2 loadable
  cases found.unique batch
  obtain ⟨alone, _, accepted⟩ := each met (by simp)
  have failed : SynthesisReport.ofSource {} unmet = ⟨"b.json", .error (.outOfDepth 3), none⟩ := by
    dsimp only [unmet]
    cbv
  have solved : SynthesisReport.ofSource {} met = ⟨"a.json", .ok ["."], none⟩ := by
    dsimp only [met]
    cbv
  have rejected : checkSource "." .aggregate unmet = ⟨none, 1⟩ := by
    dsimp only [unmet]
    cbv
  have approved : checkSource "." .aggregate met = ⟨some ".", 0⟩ := by
    dsimp only [met]
    cbv
  refine ⟨?_, ?_, ?_, (batch_is_sum_of_documents host 0 ["a.json", "c.json"]).1 missing _ rfl⟩
  · have here := reports {}
    rwa [List.map_cons, List.map_cons, List.map_nil, failed, solved] at here
  · have here := judges "." .aggregate
    rwa [List.map_cons, List.map_cons, List.map_nil, rejected, approved] at here
  · refine accepted ["synth", "-i", "b.json", "a.json"] {} none (by cbv) (by decide) ["."] ?_ "."
      (by decide) .aggregate "a.json" [["a.json"]] (alone (by decide))
    rw [solved]

end FilterSynthesis
