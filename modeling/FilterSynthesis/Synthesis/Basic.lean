import FilterSynthesis.Search.Basic
import FilterSynthesis.Settings.Basic

/-!
Synthesis. A search for pipelines comes first. If it fails, the first outputs decide: when they are
objects, a record is assembled from programs for the fields that they share, each found by the same
procedure for the examples projected to that field; else a pipeline for the first outputs alone is
searched for. What is assembled is reviewed against the examples unless the settings waive that.
-/

namespace FilterSynthesis

inductive SynthesisError where
  | outOfDepth (depth : Nat)
  | noExamples
  | unverified (text : String)
  deriving DecidableEq, Repr

def SynthesisError.message : SynthesisError → String
  | .outOfDepth depth => s!"exhausted all supported expressions till depth: {depth}"
  | .noExamples => "no examples to synthesize from"
  | .unverified text => s!"assembled expression `{text}` does not satisfy the examples"

/-- A result, with the questions that were put to the oracle on the way, in order, and the number of
searches that were started. -/
structure Trace (α : Type) where
  result : Except SynthesisError α
  calls : List Call
  searches : Nat

namespace Trace

variable {α β : Type}

def fail (error : SynthesisError) : Trace α := ⟨.error error, [], 0⟩

def map (change : α → β) (trace : Trace α) : Trace β :=
  { trace with result := trace.result.map change }

def after (calls : List Call) (searches : Nat) (trace : Trace α) : Trace α :=
  { trace with calls := calls ++ trace.calls, searches := searches + trace.searches }

def bind (trace : Trace α) (next : α → Trace β) : Trace β :=
  match trace.result with
  | .error error => { trace with result := .error error }
  | .ok value => (next value).after trace.calls trace.searches

theorem result_map (change : α → β) (trace : Trace α) :
    (trace.map change).result = trace.result.map change := rfl

theorem result_map_eq_ok_iff {trace : Trace α} {change : α → β} {result : β} :
    (trace.map change).result = .ok result ↔
      ∃ value, trace.result = .ok value ∧ change value = result := by
  rw [result_map]
  cases trace.result <;> simp [Except.map]

theorem bind_of_ok {trace : Trace α} {value : α} (ends : trace.result = .ok value)
    (next : α → Trace β) : trace.bind next = (next value).after trace.calls trace.searches := by
  unfold bind
  simp only [ends]

theorem bind_of_error {trace : Trace α} {error : SynthesisError}
    (ends : trace.result = .error error) (next : α → Trace β) :
    trace.bind next = ⟨.error error, trace.calls, trace.searches⟩ := by
  unfold bind
  simp only [ends]

theorem result_bind_of_ok {trace : Trace α} {value : α} (ends : trace.result = .ok value)
    (next : α → Trace β) : (trace.bind next).result = (next value).result := by
  rw [bind_of_ok ends]
  rfl

theorem result_bind_of_error {trace : Trace α} {error : SynthesisError}
    (ends : trace.result = .error error) (next : α → Trace β) :
    (trace.bind next).result = .error error := by
  rw [bind_of_error ends]

theorem result_bind_eq_ok_iff {trace : Trace α} {next : α → Trace β} {result : β} :
    (trace.bind next).result = .ok result ↔
      ∃ value, trace.result = .ok value ∧ (next value).result = .ok result := by
  cases ends : trace.result with
  | error error => simp [result_bind_of_error ends]
  | ok value => simp [result_bind_of_ok ends]

theorem result_bind_eq_error_iff {trace : Trace α} {next : α → Trace β} {error : SynthesisError} :
    (trace.bind next).result = .error error ↔
      trace.result = .error error ∨
        ∃ value, trace.result = .ok value ∧ (next value).result = .error error := by
  cases ends : trace.result with
  | error error => simp [result_bind_of_error ends]
  | ok value => simp [result_bind_of_ok ends]

theorem result_map_eq_error_iff {trace : Trace α} {change : α → β} {error : SynthesisError} :
    (trace.map change).result = .error error ↔ trace.result = .error error := by
  rw [result_map]
  cases trace.result <;> simp [Except.map]

end Trace

structure Task where
  oracle : Oracle
  settings : Settings
  schema : Schema

namespace Synthesis

def heads? : List Example → Option (List Json)
  | [] => some []
  | first :: rest =>
      match first.output, heads? rest with
      | head :: _, some heads => some (head :: heads)
      | _, _ => none

def withOutputs (examples : List Example) (outputs : List Json) : List Example :=
  List.zipWith (fun tried output => { tried with output := [output] }) examples outputs

def project (key : String) (head : Json) : Json := (head.lookup? key).getD .null

def headDepth : List Example → Nat
  | [] => 0
  | first :: _ =>
      match first.output with
      | [] => 0
      | head :: _ => head.depth

theorem depth_project_lt (members : List (String × Json)) (key : String) :
    (project key (.object members)).depth < (Json.object members).depth := by
  cases found : members.lookup key with
  | none => simp [project, Json.lookup?, found, Json.depth]
  | some value =>
      simp only [project, Json.lookup?, found, Option.getD_some]
      exact Json.depth_lt_of_lookup found

theorem headDepth_project_lt {examples : List Example} {heads : List Json}
    (firsts : heads? examples = some heads) {fields : List (String × Schema)} {values : Schema}
    (shared : Schema.common heads = .dict fields values) (key : String) :
    headDepth (withOutputs examples (heads.map (project key))) < headDepth examples := by
  cases examples with
  | nil =>
      simp only [heads?, Option.some.injEq] at firsts
      subst firsts
      simp [Schema.common, Schema.meetAll] at shared
  | cons first rest =>
      simp only [heads?] at firsts
      split at firsts
      · rename_i head _ others _ output _
        simp only [Option.some.injEq] at firsts
        subst firsts
        obtain ⟨members, object⟩ := Schema.isObject_of_common shared (List.mem_cons_self)
        simp only [List.map_cons, withOutputs, List.zipWith_cons_cons, headDepth, output, object]
        exact depth_project_lt members key
      · simp at firsts

/-! The two procedures. Each field of a record is synthesized from examples whose first output is
nested less deep, so the procedure ends. -/

variable (task : Task)

def spec (examples : List Example) (constants : Constants) : Spec :=
  { examples, constants, policy := task.settings.policy }

def pipelines (examples : List Example) (constants : Constants) (depth wanted : Nat) :
    Trace Outcome :=
  let spec := spec task examples constants
  let result := search ⟨task.oracle, spec, depth, wanted⟩ task.schema
  { result := .ok result.outcome, calls := result.calls spec, searches := 1 }

def verified (examples : List Example) (constants : Constants) (program : Program) :
    Trace Program :=
  if task.settings.verifyAssembled then
    let text := program.text
    let review := (spec task examples constants).review task.oracle text
    { result := if review.verdict.isMatch then .ok program else .error (.unverified text)
      calls := review.calls text examples
      searches := 0 }
  else { result := .ok program, calls := [], searches := 0 }

/-- A pipeline for the first outputs alone. If these are all the outputs, the search for it is the
one that has failed already. -/
def wrapped (examples : List Example) (heads : List Json) (constants : Constants) (depth : Nat) :
    Trace Program :=
  if examples.all fun tried => tried.output.length == 1 then .fail (.outOfDepth depth)
  else
    (pipelines task (withOutputs examples heads) constants depth 1).bind fun
      | .found first _ => { result := .ok (.pipeline first), calls := [], searches := 0 }
      | .exhausted depth => .fail (.outOfDepth depth)

mutual

/-- All pipelines that are wanted and can be found, or else one assembled program. -/
def programs (examples : List Example) (constants : Constants) (wanted : Nat) :
    Trace (List Program) :=
  (pipelines task examples constants task.settings.depth wanted).bind fun
    | .found first others =>
        { result := .ok ((first :: others).map .pipeline), calls := [], searches := 0 }
    | .exhausted depth => (assembled examples constants depth).map ([·])
  termination_by (headDepth examples, 2, 0)

def assembled (examples : List Example) (constants : Constants) (depth : Nat) : Trace Program :=
  match firsts : heads? examples with
  | none => .fail (.outOfDepth depth)
  | some heads =>
      match shared : Schema.common heads with
      | .dict fields _ =>
          (fieldPrograms examples heads (headDepth examples)
            (fun key => headDepth_project_lt firsts shared key) constants depth
            (Entries.keys fields)).bind fun record =>
              verified task examples constants (.record record)
      | _ => (wrapped task examples heads constants depth).bind (verified task examples constants)
  termination_by (headDepth examples, 1, 0)

/-- A program for each of the keys, in order, up to the first failure. No synthesis succeeds without
a program, see `programs_ne_nil`. -/
def fieldPrograms (examples : List Example) (heads : List Json) (bound : Nat)
    (fewer : ∀ key, headDepth (withOutputs examples (heads.map (project key))) < bound)
    (constants : Constants) (depth : Nat) (keys : List String) :
    Trace (List (String × Program)) :=
  match keys with
  | [] => { result := .ok [], calls := [], searches := 0 }
  | key :: rest =>
      have := fewer key
      (programs (withOutputs examples (heads.map (project key))) constants 1).bind fun
        | program :: _ =>
            (fieldPrograms examples heads bound fewer constants depth rest).map
              ((key, program) :: ·)
        | [] => .fail (.outOfDepth depth)
  termination_by (bound, 0, keys.length)

end

variable {task}

theorem programs_ne_nil {examples : List Example} {constants : Constants} {wanted : Nat}
    {found : List Program}
    (ends : (programs task examples constants wanted).result = .ok found) : found ≠ [] := by
  rw [programs] at ends
  obtain ⟨outcome, _, ends⟩ := Trace.result_bind_eq_ok_iff.mp ends
  cases outcome with
  | found first others =>
      cases ends
      exact List.cons_ne_nil _ _
  | exhausted depth =>
      obtain ⟨program, _, rfl⟩ := Trace.result_map_eq_ok_iff.mp ends
      exact List.cons_ne_nil _ _

def run (oracle : Oracle) (settings : Settings) (examples : List Example)
    (constants : List Literal) : Trace (List Program) :=
  if examples.isEmpty then .fail .noExamples
  else
    programs ⟨oracle, settings, Schema.common (examples.map (·.input))⟩ examples
      (.ofLiterals constants) settings.wanted

theorem run_of_ne_nil {examples : List Example} (nonempty : examples ≠ []) (oracle : Oracle)
    (settings : Settings) (constants : List Literal) :
    run oracle settings examples constants =
      programs ⟨oracle, settings, Schema.common (examples.map (·.input))⟩ examples
        (.ofLiterals constants) settings.wanted := by
  rw [run, List.isEmpty_eq_false_iff.mpr nonempty, if_neg Bool.false_ne_true]

theorem run_ne_nil {oracle : Oracle} {settings : Settings} {examples : List Example}
    {constants : List Literal} {found : List Program}
    (ends : (run oracle settings examples constants).result = .ok found) : found ≠ [] := by
  by_cases empty : examples = []
  · subst empty
    cases ends
  · rw [run_of_ne_nil empty] at ends
    exact programs_ne_nil ends

end Synthesis

def synthesizeMany (examples : List Example) (constants : List Literal) (depth wanted : Nat) :
    Except SynthesisError (List String) :=
  let settings := (({} : Settings).withDepth depth).withWanted wanted
  (Synthesis.run Filter.oracle settings examples constants).result.map fun programs =>
    programs.map Program.text

theorem synthesizeMany_ne_nil {examples : List Example} {constants : List Literal}
    {depth wanted : Nat} {texts : List String}
    (ends : synthesizeMany examples constants depth wanted = .ok texts) : texts ≠ [] := by
  obtain ⟨found, searched, rfl⟩ := Trace.result_map_eq_ok_iff.mp ends
  exact fun empty => Synthesis.run_ne_nil searched (List.map_eq_nil_iff.mp empty)

/-- The first of the texts, which are never none by `synthesizeMany_ne_nil`. -/
def synthesize (examples : List Example) (constants : List Literal) (depth : Nat) :
    Except SynthesisError String :=
  (synthesizeMany examples constants depth 1).map fun texts => texts.headD ""

end FilterSynthesis
