import FilterSynthesis.CommandLine.Inputs
import FilterSynthesis.Proofs.Document.Format
import FilterSynthesis.Proofs.Files.Expansion

/-!
Which documents the arguments of a command lead to. Loading goes through all arguments and all paths
before anything else happens, so it ends with every document or with none, and only looks at files.
-/

namespace FilterSynthesis

theorem mapM_eq_ok_iff {ε α β : Type} {change : α → Except ε β} {values : List α}
    {results : List β} :
    values.mapM change = .ok results ↔
      List.Forall₂ (fun value result => change value = .ok result) values results := by
  induction values generalizing results with
  | nil => cases results <;> simp [pure, Except.pure]
  | cons value rest induction =>
      rw [List.mapM_cons]
      cases here : change value with
      | error error => cases results <;> simp [bind, Except.bind, here]
      | ok first =>
          cases there : rest.mapM change with
          | error error =>
              cases results <;> simp [bind, Except.bind, here, ← induction, there]
          | ok others =>
              cases results <;>
                simp [bind, Except.bind, pure, Except.pure, here, ← induction, there]

namespace Host

open CommandLine

variable {State : Type} (host : Host State) (state : State)

/-- What an argument stands for: the path that it is, or all paths that it matches as a pattern, if
there are any. -/
inductive Resolves : String → List String → Prop
  | path {input : String} (plain : isPattern input = false) : Resolves input [input]
  | pattern {input : String} {paths : List String} (wild : isPattern input = true)
      (found : ((PathPattern.expand input).run.runOn host state).1 = .ok paths)
      (some : paths ≠ []) : Resolves input paths

def Holds (path : String) (document : Document) : Prop :=
  ∃ bytes, host.read state path = .ok bytes ∧ Document.ofBytes bytes = .ok document

structure Loads (path : String) (source : Source) : Prop where
  holds : host.Holds state path source.document
  path : source.path = path

/-- The paths that the arguments stand for, one argument after the other, and their documents. -/
structure Batch (inputs : List String) (groups : List (List String)) (sources : List Source) :
    Prop where
  resolves : List.Forall₂ (host.Resolves state) inputs groups
  loads : List.Forall₂ (host.Loads state) groups.flatten sources

/-- Some argument stands for nothing, or for a path without a document. -/
def Unloadable (inputs : List String) : Prop :=
  (∃ input ∈ inputs, ∀ paths, ¬host.Resolves state input paths) ∨
    ∃ input ∈ inputs, ∃ paths, host.Resolves state input paths ∧
      ∃ path ∈ paths, ∀ document, ¬host.Holds state path document

variable {host state}

theorem looks_resolve (input : String) : ExceptT.Looks (resolve input) := by
  unfold resolve
  split
  · refine .bind (.lift (PathPattern.looks_expand input)) fun outcome => ?_
    split
    · exact .throw _
    · exact .throw _
    · exact .pure _
  · exact .pure _

theorem resolve_eq_ok_iff {input : String} {paths : List String} :
    ((resolve input).run.runOn host state).1 = .ok paths ↔ host.Resolves state input paths := by
  unfold resolve
  cases wild : isPattern input with
  | false =>
      constructor
      · intro found
        cases found
        exact .path wild
      · intro resolves
        cases resolves with
        | path plain => rfl
        | pattern isWild => cases wild.symm.trans isWild
  | true =>
      have looks := PathPattern.looks_expand input
      rw [if_pos rfl, ExceptT.runOn_lift_bind, looks.runOn_state]
      constructor
      · intro found
        cases outcome : ((PathPattern.expand input).run.runOn host state).1 with
        | error error =>
            rw [outcome] at found
            cases found
        | ok matched =>
            rw [outcome] at found
            cases matched with
            | nil => cases found
            | cons first rest =>
                cases found
                exact .pattern wild outcome (List.cons_ne_nil _ _)
      · intro resolves
        cases resolves with
        | path plain => cases wild.symm.trans plain
        | pattern _ found some =>
            obtain ⟨first, rest, rfl⟩ := List.exists_cons_of_ne_nil some
            simp only [found]
            rfl

theorem Resolves.ascends {input : String} {paths : List String}
    (resolves : host.Resolves state input paths) : Sorting.Ascends Path.less paths := by
  cases resolves with
  | path => exact List.pairwise_singleton _ _
  | pattern _ found => exact PathPattern.ascends_of_expand found

theorem Resolves.unique {input : String} {paths others : List String}
    (first : host.Resolves state input paths) (second : host.Resolves state input others) :
    paths = others :=
  Except.ok.inj ((resolve_eq_ok_iff.mpr first).symm.trans (resolve_eq_ok_iff.mpr second))

theorem looks_loadSource (path : String) : ExceptT.Looks (loadSource path) := by
  refine .bind (.lift (.read fun _ => .done _)) fun outcome => ?_
  split
  · exact .throw _
  · exact .pure _

theorem loadSource_eq_ok_iff {path : String} {source : Source} :
    ((loadSource path).run.runOn host state).1 = .ok source ↔ host.Loads state path source := by
  have loaded : (Document.load path).runOn host state =
      (Document.ofContent path (host.read state path), state) := rfl
  unfold loadSource
  rw [ExceptT.runOn_lift_bind, loaded]
  constructor
  · intro found
    cases content : host.read state path with
    | error error =>
        rw [content] at found
        cases found
    | ok bytes =>
        cases decoded : Document.ofBytes bytes with
        | error error =>
            simp only [content, Document.ofContent, decoded] at found
            cases found
        | ok document =>
            simp only [content, Document.ofContent, decoded] at found
            cases found
            exact ⟨⟨bytes, content, decoded⟩, rfl⟩
  · rintro ⟨⟨bytes, content, decoded⟩, rfl⟩
    simp only [content, Document.ofContent, decoded]
    rfl

theorem looks_loadInputs (inputs : List String) : ExceptT.Looks (loadInputs inputs) :=
  .bind (.mapM fun input _ => looks_resolve input) fun _ =>
    .mapM fun path _ => looks_loadSource path

theorem loadInputs_eq_ok_iff {inputs : List String} {sources : List Source} :
    ((loadInputs inputs).run.runOn host state).1 = .ok sources ↔
      ∃ groups, host.Batch state inputs groups sources := by
  have looks : ExceptT.Looks (inputs.mapM resolve) := .mapM fun input _ => looks_resolve input
  have resolved : ∀ groups, (inputs.mapM fun input =>
      ((resolve input).run.runOn host state).1) = .ok groups ↔
        List.Forall₂ (host.Resolves state) inputs groups := by
    intro groups
    simp only [mapM_eq_ok_iff, resolve_eq_ok_iff]
  have loaded : ∀ paths, (paths.mapM fun path =>
      ((loadSource path).run.runOn host state).1) = .ok sources ↔
        List.Forall₂ (host.Loads state) paths sources := by
    intro paths
    simp only [mapM_eq_ok_iff, loadSource_eq_ok_iff]
  unfold loadInputs
  rw [looks.runOn_bind, ExceptT.runOn_mapM looks_resolve]
  constructor
  · intro found
    cases outcome : (inputs.mapM fun input => ((resolve input).run.runOn host state).1) with
    | error error =>
        rw [outcome] at found
        cases found
    | ok groups =>
        rw [outcome] at found
        simp only [ExceptT.runOn_mapM looks_loadSource] at found
        exact ⟨groups, (resolved groups).mp outcome, (loaded groups.flatten).mp found⟩
  · rintro ⟨groups, resolves, loads⟩
    simp only [(resolved groups).mpr resolves, ExceptT.runOn_mapM looks_loadSource]
    exact (loaded groups.flatten).mpr loads

theorem Batch.runOn_bind {inputs : List String} {groups : List (List String)}
    {sources : List Source} (batch : host.Batch state inputs groups sources) {α : Type}
    (later : List Source → ExceptT Failure Access α) :
    (loadInputs inputs >>= later).run.runOn host state =
      (later sources).run.runOn host state := by
  have looks := looks_loadInputs inputs
  have loaded := loadInputs_eq_ok_iff.mpr ⟨groups, batch⟩
  rw [looks.runOn_bind, loaded]

theorem exists_batch_iff {inputs : List String} :
    (∃ groups sources, host.Batch state inputs groups sources) ↔
      ∀ input ∈ inputs, ∃ paths, host.Resolves state input paths ∧
        ∀ path ∈ paths, ∃ document, host.Holds state path document := by
  constructor
  · rintro ⟨groups, sources, resolves, loads⟩
    have each : ∀ path ∈ groups.flatten, ∃ document, host.Holds state path document := by
      intro path member
      obtain ⟨source, here⟩ := exists_forall₂_iff.mp ⟨sources, loads⟩ path member
      exact ⟨source.document, here.holds⟩
    clear loads
    induction resolves with
    | nil => exact List.forall_mem_nil _
    | cons here _ induction =>
        rw [List.flatten_cons, List.forall_mem_append] at each
        exact List.forall_mem_cons.mpr ⟨⟨_, here, each.1⟩, induction each.2⟩
  · intro each
    obtain ⟨groups, related⟩ := exists_forall₂_iff.mpr each
    have loads : ∀ path ∈ groups.flatten, ∃ source, host.Loads state path source := by
      clear each
      induction related with
      | nil => exact List.forall_mem_nil _
      | cons here _ induction =>
          rw [List.flatten_cons, List.forall_mem_append]
          refine ⟨fun path member => ?_, induction⟩
          obtain ⟨document, holds⟩ := here.2 path member
          exact ⟨⟨path, document⟩, holds, rfl⟩
    obtain ⟨sources, loaded⟩ := exists_forall₂_iff.mpr loads
    exact ⟨groups, sources, related.imp fun _ _ both => both.1, loaded⟩

theorem Batch.ascends {inputs : List String} {groups : List (List String)}
    {sources : List Source} (batch : host.Batch state inputs groups sources) :
    ∀ group ∈ groups, Sorting.Ascends Path.less group := by
  intro group member
  obtain ⟨input, stands⟩ := exists_forall₂_iff.mp ⟨inputs, batch.resolves.flip⟩ group member
  exact Resolves.ascends stands

theorem Batch.unique {inputs : List String} {groups others : List (List String)}
    {sources again : List Source} (first : host.Batch state inputs groups sources)
    (second : host.Batch state inputs others again) : sources = again :=
  Except.ok.inj ((loadInputs_eq_ok_iff.mpr ⟨groups, first⟩).symm.trans
    (loadInputs_eq_ok_iff.mpr ⟨others, second⟩))

theorem Batch.single {inputs : List String} {groups : List (List String)} {sources : List Source}
    (batch : host.Batch state inputs groups sources) {source : Source} (member : source ∈ sources)
    (plain : isPattern source.path = false) :
    host.Batch state [source.path] [[source.path]] [source] := by
  obtain ⟨path, loads⟩ := exists_forall₂_iff.mp ⟨groups.flatten, batch.loads.flip⟩ source member
  exact ⟨.cons (.path plain) .nil, .cons ⟨loads.path ▸ loads.holds, rfl⟩ .nil⟩

theorem unloadable_iff {inputs : List String} :
    host.Unloadable state inputs ↔ ¬∃ groups sources, host.Batch state inputs groups sources := by
  rw [exists_batch_iff]
  constructor
  · rintro (⟨input, member, none⟩ | ⟨input, member, paths, stands, path, listed, none⟩) each
    · obtain ⟨paths, stands, _⟩ := each input member
      exact none paths stands
    · obtain ⟨others, also, held⟩ := each input member
      obtain ⟨document, holds⟩ := held path (stands.unique also ▸ listed)
      exact none document holds
  · intro missing
    by_contra loadable
    apply missing
    intro input member
    unfold Unloadable at loadable
    push Not at loadable
    obtain ⟨paths, stands⟩ := loadable.1 input member
    exact ⟨paths, stands, loadable.2 input member paths stands⟩

end Host

end FilterSynthesis
