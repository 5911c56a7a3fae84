import FilterSynthesis.Json.Basic

namespace FilterSynthesis

inductive Misfit where
  | noObject (key : String)
  | notIterable
  | noKeys
  | noArray
  | unknownName (name : String)
  deriving DecidableEq, Repr

/-- The stream of values that a filter yields. It ends, or it breaks off where the filter fails. -/
inductive Outputs where
  | done
  | failed (misfit : Misfit)
  | emit (value : Json) (rest : Outputs)
  deriving Repr

namespace Outputs

def single (value : Json) : Outputs := .emit value .done

def ofList : List Json → Outputs
  | [] => .done
  | value :: rest => .emit value (ofList rest)

/-- Two streams one after the other; nothing comes after a failure. -/
def append : Outputs → Outputs → Outputs
  | .done, second => second
  | .failed misfit, _ => .failed misfit
  | .emit value rest, second => .emit value (rest.append second)

instance : Append Outputs := ⟨append⟩

def bind (outputs : Outputs) (next : Json → Outputs) : Outputs :=
  match outputs with
  | .done => .done
  | .failed misfit => .failed misfit
  | .emit value rest => next value ++ rest.bind next

def isDone : Outputs → Bool
  | .done => true
  | _ => false

/-- The objects that extend the given members by one value from each stream. The first stream varies
slowest. -/
def choose (members : List (String × Json)) : List (String × Outputs) → Outputs
  | [] => .single (.object members)
  | (key, outputs) :: rest =>
      outputs.bind fun value => choose (Entries.put key value members) rest

/-- One object for each choice of a value from every stream. An empty stream leaves nothing to
choose from, not even a failure of another one. -/
def records (streams : List (String × Outputs)) : Outputs :=
  if streams.any fun stream => stream.2.isDone then .done else choose [] streams

def toExcept : Outputs → Except Misfit (List Json)
  | .done => .ok []
  | .failed misfit => .error misfit
  | .emit value rest =>
      match rest.toExcept with
      | .ok values => .ok (value :: values)
      | .error misfit => .error misfit

@[simp] theorem append_done (second : Outputs) : .done ++ second = second := rfl

@[simp] theorem append_failed (misfit : Misfit) (second : Outputs) :
    .failed misfit ++ second = .failed misfit := rfl

@[simp] theorem append_emit (value : Json) (rest second : Outputs) :
    .emit value rest ++ second = .emit value (rest ++ second) := rfl

theorem append_nil (outputs : Outputs) : outputs ++ .done = outputs := by
  induction outputs with
  | emit value rest induction => simp [induction]
  | _ => rfl

@[simp] theorem single_bind (value : Json) (next : Json → Outputs) :
    (single value).bind next = next value := append_nil _

end Outputs

end FilterSynthesis
