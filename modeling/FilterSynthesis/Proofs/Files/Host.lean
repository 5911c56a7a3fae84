import FilterSynthesis.Files.Tree
import Mathlib.Logic.Relation

/-!
Programs that use files, on an arbitrary system that answers them. Looking at files leaves it as it
is; what it answers, and what becomes of it when something is written or time passes, is open. So
what is proved of a program holds with every disk and every clock, also with the directory tree in
memory.
-/

namespace FilterSynthesis

/-- A system with a state that answers what programs ask of files. -/
structure Host (State : Type) where
  read : State → String → Except FileError Bytes
  kind : State → String → Option FileKind
  list : State → String → Except FileError (List (String × FileKind))
  makeDirectories : State → String → Except FileError Unit × State
  write : State → String → String → Except FileError Unit × State
  clock : State → Nat × State

def Host.Passes {State : Type} (host : Host State) : State → State → Prop :=
  Relation.ReflTransGen fun before after => after = (host.clock before).2

def FileSystem.host : Host FileSystem where
  read := FileSystem.read
  kind := FileSystem.kind?
  list := FileSystem.list
  makeDirectories system path := system.changed (system.makeDirectories path)
  write system path text := system.changed (system.write path text.toUTF8.toList)
  clock system := (0, system)

namespace Access

variable {State α β : Type} (host : Host State)

def runOn : Access α → State → α × State
  | .done result, state => (result, state)
  | .read path next, state => (next (host.read state path)).runOn state
  | .kind path next, state => (next (host.kind state path)).runOn state
  | .list path next, state => (next (host.list state path)).runOn state
  | .makeDirectories path next, state =>
      let (answer, left) := host.makeDirectories state path
      (next answer).runOn left
  | .write path text next, state =>
      let (answer, left) := host.write state path text
      (next answer).runOn left
  | .clock next, state =>
      let (time, left) := host.clock state
      (next time).runOn left

/-- The runs in memory are those on one host. -/
theorem run_eq_runOn (access : Access α) (system : FileSystem) :
    access.run system = access.runOn FileSystem.host system := by
  induction access generalizing system with
  | done result => rfl
  | _ => simp_all [run, runOn, FileSystem.host]

@[simp] theorem runOn_bind (access : Access α) (later : α → Access β) (state : State) :
    (access >>= later).runOn host state =
      (later (access.runOn host state).1).runOn host (access.runOn host state).2 := by
  change (access.bind later).runOn host state = _
  induction access generalizing state with
  | done result => rfl
  | _ => simp_all [bind, runOn]

instance : LawfulMonad Access :=
  LawfulMonad.mk' Access (fun access => bind_done access) (fun _ _ => rfl)
    (fun access first second => bind_assoc access first second)

/-- The program looks at files and directories and does nothing else. -/
inductive Looks : Access α → Prop
  | done (result : α) : Looks (.done result)
  | read {path : String} {next : Except FileError Bytes → Access α}
      (each : ∀ answer, Looks (next answer)) : Looks (.read path next)
  | kind {path : String} {next : Option FileKind → Access α}
      (each : ∀ answer, Looks (next answer)) : Looks (.kind path next)
  | list {path : String} {next : Except FileError (List (String × FileKind)) → Access α}
      (each : ∀ answer, Looks (next answer)) : Looks (.list path next)

theorem Looks.bind {access : Access α} {later : α → Access β} (looks : access.Looks)
    (each : ∀ result, (later result).Looks) : (access >>= later).Looks := by
  induction looks with
  | done result => exact each result
  | read _ induction => exact .read induction
  | kind _ induction => exact .kind induction
  | list _ induction => exact .list induction

variable {host}

theorem Looks.runOn_state {access : Access α} (looks : access.Looks) (state : State) :
    (access.runOn host state).2 = state := by
  induction looks with
  | done result => rfl
  | read _ induction => exact induction _
  | kind _ induction => exact induction _
  | list _ induction => exact induction _

end Access

namespace ExceptT

variable {State ε α β : Type} {host : Host State}

def Looks (lookup : ExceptT ε Access α) : Prop := lookup.run.Looks

theorem runOn_lift_bind (access : Access α) (later : α → ExceptT ε Access β) (state : State) :
    ((liftM access : ExceptT ε Access α) >>= later).run.runOn host state =
      (later (access.runOn host state).1).run.runOn host (access.runOn host state).2 := by
  rw [ExceptT.run_bind, ExceptT.run_liftM, bind_map_left]
  exact Access.runOn_bind host access _ state

theorem Looks.pure (result : α) : Looks (Pure.pure result : ExceptT ε Access α) :=
  Access.Looks.done _

theorem Looks.throw (error : ε) : Looks (MonadExcept.throw error : ExceptT ε Access α) :=
  Access.Looks.done _

theorem Looks.lift {access : Access α} (looks : access.Looks) :
    Looks (liftM access : ExceptT ε Access α) :=
  looks.bind fun _ => .done _

theorem Looks.bind {lookup : ExceptT ε Access α} {later : α → ExceptT ε Access β}
    (looks : Looks lookup) (each : ∀ result, Looks (later result)) :
    Looks (lookup >>= later) := by
  refine Access.Looks.bind looks fun outcome => ?_
  cases outcome with
  | error error => exact .done _
  | ok result => exact each result

theorem Looks.mapM {lookup : α → ExceptT ε Access β} {values : List α}
    (each : ∀ value ∈ values, Looks (lookup value)) : Looks (values.mapM lookup) := by
  induction values with
  | nil => exact .pure []
  | cons value rest induction =>
      obtain ⟨here, there⟩ := List.forall_mem_cons.mp each
      rw [List.mapM_cons]
      exact here.bind fun _ => (induction there).bind fun _ => .pure _

theorem Looks.runOn_bind {lookup : ExceptT ε Access α} (looks : Looks lookup)
    (later : α → ExceptT ε Access β) (state : State) :
    (lookup >>= later).run.runOn host state =
      match (lookup.run.runOn host state).1 with
      | .ok result => (later result).run.runOn host state
      | .error error => (.error error, state) := by
  rw [ExceptT.run_bind, Access.runOn_bind, Access.Looks.runOn_state looks]
  cases (lookup.run.runOn host state).1 <;> rfl

theorem runOn_mapM {lookup : α → ExceptT ε Access β} (each : ∀ value, Looks (lookup value))
    (values : List α) (state : State) :
    (values.mapM lookup).run.runOn host state =
      (values.mapM fun value => ((lookup value).run.runOn host state).1, state) := by
  induction values with
  | nil => rfl
  | cons value rest induction =>
      rw [List.mapM_cons, List.mapM_cons, (each value).runOn_bind]
      cases ((lookup value).run.runOn host state).1 with
      | error error => rfl
      | ok first =>
          have others : Looks (rest.mapM lookup) := .mapM fun value _ => each value
          simp only [others.runOn_bind, induction]
          cases rest.mapM fun value => ((lookup value).run.runOn host state).1 <;> rfl

end ExceptT

end FilterSynthesis
