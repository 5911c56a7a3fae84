import FilterSynthesis.Files.Expansion
import FilterSynthesis.Proofs.Files.Host
import FilterSynthesis.Proofs.Files.Paths

namespace FilterSynthesis.PathPattern

variable {State : Type} {host : Host State} (directoriesOnly : Bool)

theorem looks_named (room : Nat) (piece : List Wildcard) (rest : List (List Wildcard))
    (path name : String) (kind : FileKind)
    (further : ∀ path kind, ExceptT.Looks (inside directoriesOnly room rest path kind)) :
    ExceptT.Looks (named directoriesOnly room piece rest path name kind) := by
  rw [named]
  split
  · split
    · exact .pure _
    · exact further path kind
  · exact .pure _

theorem looks_fits (room : Nat) (piece : List Wildcard) (rest : List (List Wildcard))
    (path name : String) (kind : FileKind)
    (deeper : ∀ below < room, ∀ pieces path kind,
      ExceptT.Looks (inside directoriesOnly below pieces path kind))
    (further : ∀ pieces : List (List Wildcard), pieces.length ≤ rest.length → ∀ path kind,
      ExceptT.Looks (inside directoriesOnly room pieces path kind)) :
    ExceptT.Looks (fits directoriesOnly room piece rest path name kind) := by
  rw [fits]
  split
  · have ahead : ∀ next others, afterDirectories rest = next :: others →
        ExceptT.Looks (named directoriesOnly room next others path name kind) := by
      intro next others remaining
      have shorter := length_afterDirectories_le rest
      rw [remaining, List.length_cons] at shorter
      exact looks_named directoriesOnly room next others path name kind (further others (by omega))
    dsimp only
    split
    · refine .bind (deeper _ (Nat.lt_succ_self _) _ _ _) fun found => ?_
      split
      · exact .pure _
      · exact .bind (ahead _ _ ‹_›) fun _ => .pure _
    · refine .bind (.pure _) fun found => ?_
      split
      · exact .pure _
      · exact .bind (ahead _ _ ‹_›) fun _ => .pure _
  · exact looks_named directoriesOnly room piece rest path name kind (further rest (Nat.le_refl _))

theorem looks_inside (room : Nat) (pieces : List (List Wildcard)) (path : String)
    (kind : FileKind) : ExceptT.Looks (inside directoriesOnly room pieces path kind) := by
  induction room using Nat.strongRecOn generalizing pieces path kind with
  | ind room deeper =>
    induction count : pieces.length using Nat.strongRecOn generalizing pieces path kind with
    | ind count further =>
      cases pieces with
      | nil =>
          rw [inside]
          exact .pure _
      | cons piece rest =>
          have shorter : ∀ pieces : List (List Wildcard), pieces.length ≤ rest.length →
              ∀ path kind, ExceptT.Looks (inside directoriesOnly room pieces path kind) := by
            intro pieces bound path kind
            refine further pieces.length ?_ pieces path kind rfl
            rw [← count, List.length_cons]
            omega
          rw [inside]
          cases Wildcard.fixed? piece with
          | some name =>
              refine .bind (.lift (.kind fun _ => .done _)) fun answer => ?_
              split
              · split
                · exact .pure _
                · exact shorter rest (Nat.le_refl _) _ _
              · exact .pure _
          | none =>
              dsimp only
              split
              · exact .pure _
              · refine .bind (.lift (.list fun _ => .done _)) fun answer => ?_
                cases answer with
                | error error => exact .throw _
                | ok entries =>
                    refine .bind (.mapM fun name _ => ?_) fun special =>
                      .bind (.mapM fun entry _ => ?_) fun found => .pure _
                    · split
                      · split
                        · exact .pure _
                        · exact shorter rest (Nat.le_refl _) _ _
                      · exact .pure _
                    · exact looks_fits directoriesOnly room piece rest _ _ _ deeper shorter

theorem looks_expand (text : String) : ExceptT.Looks (expand text) := by
  unfold expand
  cases parse text with
  | error error => exact .throw _
  | ok pattern =>
      dsimp only
      split
      · exact .bind (looks_inside _ _ _ _ _) fun _ => .pure _
      · exact .bind (looks_inside _ _ _ _ _) fun _ => .pure _

theorem ascends_of_sorted {lookup : Lookup (List String)} (looks : ExceptT.Looks lookup)
    {paths : List String} {state : State}
    (found : ((do return Sorting.stable Path.less (← lookup) :
      Lookup (List String)).run.runOn host state).1 = .ok paths) :
    Sorting.Ascends Path.less paths := by
  rw [looks.runOn_bind] at found
  cases outcome : (lookup.run.runOn host state).1 with
  | error error =>
      rw [outcome] at found
      cases found
  | ok unsorted =>
      rw [outcome] at found
      cases found
      exact Path.ascends_stable unsorted

theorem ascends_of_expand {text : String} {paths : List String} {state : State}
    (found : ((expand text).run.runOn host state).1 = .ok paths) :
    Sorting.Ascends Path.less paths := by
  unfold expand at found
  cases parsed : parse text with
  | error error =>
      rw [parsed] at found
      cases found
  | ok pattern =>
      rw [parsed] at found
      dsimp only at found
      split at found
      · exact ascends_of_sorted (looks_inside _ _ _ _ _) found
      · exact ascends_of_sorted (looks_inside _ _ _ _ _) found

end FilterSynthesis.PathPattern
