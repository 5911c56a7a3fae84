import FilterSynthesis.Proofs.Filter.Streams
import Mathlib.Data.List.Induction

namespace FilterSynthesis

open scoped Arithmetic

/-- What is read from the text of a literal. The least integer is the exception: its digits alone
fit no signed word, so it is a binary64 number. -/
def Literal.value : Literal → Json
  | .bool value => .bool value
  | .int value =>
      if value = Int64.minValue then .number (.float (Double.ofInt (2 ^ (63 : Nat))).negate)
      else .number (.int value.toInt)
  | .str value => .string value

namespace Json

def isObject : Json → Bool
  | .object _ => true
  | _ => false

def held (key : String) (value : Json) : Json := (value.lookup? key).getD .null

/-- Elements sorted by what they hold under a key; elements that hold the same keep their order. -/
def sortedUnder (key : String) (elements : List Json) : List Json :=
  Sorting.stable (fun left right => (left.held key).less (right.held key)) elements

end Json

def runsBy {α : Type} (agree : α → α → Bool) : List α → List (List α)
  | [] => []
  | first :: rest =>
      (first :: rest.takeWhile (agree first)) :: runsBy agree (rest.dropWhile (agree first))
  termination_by elements => elements.length
  decreasing_by exact Nat.lt_succ_of_le (List.dropWhile_suffix _).length_le

def Json.groupedUnder (key : String) (elements : List Json) : List (List Json) :=
  runsBy (fun left right => (left.held key).order (right.held key) == .eq)
    (sortedUnder key elements)

def Operator.meaning : Operator → Json → Option (List Json)
  | .all, value => value.parts?.map fun parts => [.bool (parts.all Json.truthy)]
  | .any, value => value.parts?.map fun parts => [.bool (parts.any Json.truthy)]
  | .forEach, value => value.parts?
  | .keys, .object members => some [.array ((Json.sortedKeys members).map .string)]
  | .keys, .array elements =>
      some [.array ((List.range elements.length).map fun (position : Nat) =>
        .number (.int position))]
  | .sort, .array elements => some [.array (Json.sort elements)]
  | .index key, value => if value.isObject then some [value.held key] else none
  | .groupBy key, .array elements =>
      if elements.all Json.isObject then some [.array ((Json.groupedUnder key elements).map .array)]
      else none
  | .sortBy key, .array elements =>
      if elements.length < 2 then some [.array elements]
      else if elements.all Json.isObject then some [.array (Json.sortedUnder key elements)]
      else none
  | .select key literal, value =>
      if value.isObject then
        some (if (value.held key).order literal.value = .eq then [value] else [])
      else none
  | _, _ => none

/-- The operators from left to right; nothing if one of them does not apply to a value that reaches
it. -/
def Pipeline.meaning : Pipeline → Json → Option (List Json)
  | [], value => some [value]
  | operator :: rest, value => (operator.meaning value).bind (flatMap? (meaning rest))

namespace Program

mutual

def meaning : Program → Json → Option (List Json)
  | .pipeline operators, value => operators.meaning value
  | .record fields, value => objectsOf (meanings fields value)

def meanings : List (String × Program) → Json → Entries (Option (List Json))
  | [], _ => []
  | (key, program) :: rest, value => (key, program.meaning value) :: meanings rest value

end

mutual

def HasDistinctKeys : Program → Prop
  | .pipeline _ => True
  | .record fields => (Entries.keys fields).Nodup ∧ HaveDistinctKeys fields

def HaveDistinctKeys : List (String × Program) → Prop
  | [] => True
  | (_, program) :: rest => program.HasDistinctKeys ∧ HaveDistinctKeys rest

end

end Program

namespace Pipeline

theorem meaning_append (first second : Pipeline) (value : Json) :
    meaning (first ++ second) value =
      (meaning first value).bind (flatMap? (meaning second)) := by
  induction first generalizing value with
  | nil => simp [meaning]
  | cons operator rest induction =>
      have later : meaning (rest ++ second) =
          fun value => (meaning rest value).bind (flatMap? (meaning second)) := funext induction
      simp only [List.cons_append, meaning, later]
      cases operator.meaning value with
      | none => rfl
      | some values => exact flatMap?_bind ..

@[simp] theorem meaning_singleton (operator : Operator) (value : Json) :
    meaning [operator] value = operator.meaning value := by
  simp only [meaning]
  cases operator.meaning value <;> simp

theorem meaning_eq_none_iff (pipeline : Pipeline) (value : Json) :
    pipeline.meaning value = none ↔
      ∃ before operator after, pipeline = before ++ operator :: after ∧
        ∃ values, meaning before value = some values ∧
          ∃ reaching ∈ values, operator.meaning reaching = none := by
  constructor
  · -- from the right, so that the first operator that fails anywhere is found
    induction pipeline using List.reverseRecOn with
    | nil => simp [meaning]
    | append_singleton before operator induction =>
        intro nothing
        cases found : meaning before value with
        | none =>
            obtain ⟨earlier, failing, after, rfl, fails⟩ := induction found
            exact ⟨earlier, failing, after ++ [operator], by simp, fails⟩
        | some values =>
            refine ⟨before, operator, [], rfl, values, found, ?_⟩
            rw [meaning_append, found, Option.bind_some, flatMap?_eq_none_iff] at nothing
            simpa using nothing
  · intro stage
    obtain ⟨before, operator, after, rfl, values, found, reaching, member, fails⟩ := stage
    rw [meaning_append, found, Option.bind_some, flatMap?_eq_none_iff]
    exact ⟨reaching, member, by simp [meaning, fails]⟩

end Pipeline

end FilterSynthesis
