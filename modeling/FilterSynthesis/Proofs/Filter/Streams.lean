import FilterSynthesis.Filter.Evaluation

/-!
Streams as optional lists of values: a stream that fails has no values. Only the order of failures
is lost, and an oracle does not tell it anyway.
-/

namespace FilterSynthesis

/-- The lists that the elements lead to, one after the other, if none of them leads to nothing. -/
def flatMap? {α β : Type} (next : α → Option (List β)) : List α → Option (List β)
  | [] => some []
  | value :: rest => (next value).bind fun first => (flatMap? next rest).map (first ++ ·)

@[simp] theorem flatMap?_nil {α β : Type} (next : α → Option (List β)) :
    flatMap? next [] = some [] := rfl

theorem flatMap?_cons {α β : Type} (next : α → Option (List β)) (value : α) (rest : List α) :
    flatMap? next (value :: rest) =
      (next value).bind fun first => (flatMap? next rest).map (first ++ ·) := rfl

@[simp] theorem flatMap?_singleton {α β : Type} (next : α → Option (List β)) (value : α) :
    flatMap? next [value] = next value := by
  cases found : next value <;> simp [flatMap?_cons, found]

theorem flatMap?_append {α β : Type} (next : α → Option (List β)) (first second : List α) :
    flatMap? next (first ++ second) =
      (flatMap? next first).bind fun values => (flatMap? next second).map (values ++ ·) := by
  induction first with
  | nil => simp
  | cons value rest induction =>
      simp only [List.cons_append, flatMap?_cons, induction]
      cases next value <;> cases flatMap? next rest <;> cases flatMap? next second <;> simp

@[simp] theorem flatMap?_pure {α : Type} (values : List α) :
    flatMap? (fun value => some [value]) values = some values := by
  induction values with
  | nil => rfl
  | cons value rest induction => simp [flatMap?_cons, induction]

theorem flatMap?_bind {α β γ : Type} (first : α → Option (List β)) (second : β → Option (List γ))
    (values : List α) :
    flatMap? (fun value => (first value).bind (flatMap? second)) values =
      (flatMap? first values).bind (flatMap? second) := by
  induction values with
  | nil => rfl
  | cons value rest induction =>
      simp only [flatMap?_cons, induction]
      cases first value with
      | none => rfl
      | some reached =>
          cases flatMap? first rest with
          | none => cases found : flatMap? second reached <;> simp [found]
          | some later => simp [flatMap?_append]

theorem flatMap?_eq_none_iff {α β : Type} {next : α → Option (List β)} {values : List α} :
    flatMap? next values = none ↔ ∃ value ∈ values, next value = none := by
  induction values with
  | nil => simp
  | cons value rest induction =>
      have members : (∃ origin ∈ value :: rest, next origin = none) ↔
          next value = none ∨ flatMap? next rest = none := by
        simp [induction]
      rw [members, flatMap?_cons]
      cases next value <;> cases flatMap? next rest <;> simp

theorem mem_of_flatMap? {α β : Type} {next : α → Option (List β)} {values : List α}
    {results : List β} (found : flatMap? next values = some results) {result : β}
    (member : result ∈ results) :
    ∃ value ∈ values, ∃ part, next value = some part ∧ result ∈ part := by
  induction values generalizing results with
  | nil =>
      cases found
      simp at member
  | cons value rest induction =>
      simp only [flatMap?_cons, Option.bind_eq_some_iff, Option.map_eq_some_iff] at found
      obtain ⟨first, here, others, later, rfl⟩ := found
      rcases List.mem_append.mp member with inFirst | inOthers
      · exact ⟨value, List.mem_cons_self, first, here, inFirst⟩
      · obtain ⟨origin, within, part⟩ := induction later inOthers
        exact ⟨origin, List.mem_cons_of_mem _ within, part⟩

/-- The choices of one value from each list, the first list varying slowest. -/
def choices {α : Type} : Entries (List α) → List (Entries α)
  | [] => [[]]
  | (key, values) :: rest =>
      values.flatMap fun value => (choices rest).map ((key, value) :: ·)

def valuesOfAll : Entries (Option (List Json)) → Option (Entries (List Json))
  | [] => some []
  | (key, stream) :: rest =>
      stream.bind fun values => (valuesOfAll rest).map ((key, values) :: ·)

/-- The objects of the product of streams. An empty stream leaves nothing to choose from, not even
the failure of another one. -/
def objectsOf (streams : Entries (Option (List Json))) : Option (List Json) :=
  if streams.any fun stream => stream.2.any List.isEmpty then some []
  else (valuesOfAll streams).map fun lists => (choices lists).map .object

namespace Outputs

def values? : Outputs → Option (List Json)
  | .done => some []
  | .failed _ => none
  | .emit value rest => rest.values?.map (value :: ·)

@[simp] theorem values?_done : done.values? = some [] := rfl

@[simp] theorem values?_failed (misfit : Misfit) : (failed misfit).values? = none := rfl

@[simp] theorem values?_single (value : Json) : (single value).values? = some [value] := rfl

@[simp] theorem values?_ofList (values : List Json) : (ofList values).values? = some values := by
  induction values with
  | nil => rfl
  | cons value rest induction => simp [ofList, values?, induction]

theorem values?_append (first second : Outputs) :
    (first ++ second).values? =
      first.values?.bind fun values => second.values?.map (values ++ ·) := by
  induction first with
  | done => simp
  | failed misfit => rfl
  | emit value rest induction =>
      simp only [append_emit, values?, induction]
      cases rest.values? <;> cases second.values? <;> rfl

theorem values?_bind (outputs : Outputs) (next : Json → Outputs) :
    (outputs.bind next).values? =
      outputs.values?.bind (flatMap? fun value => (next value).values?) := by
  induction outputs with
  | done => rfl
  | failed misfit => rfl
  | emit value rest induction =>
      simp only [bind, values?_append, induction, values?]
      cases rest.values? with
      | none => cases (next value).values? <;> rfl
      | some values => rfl

theorem toOption_collect (outputs : Outputs) :
    outputs.collect.toOption = outputs.values?.bind fun values => values.mapM Json.handedOn? := by
  induction outputs with
  | done => rfl
  | failed misfit => rfl
  | emit value rest induction =>
      have step : (emit value rest).collect.toOption =
          value.handedOn?.bind fun handed => rest.collect.toOption.map (handed :: ·) := by
        simp only [collect]
        cases value.handedOn? with
        | none => rfl
        | some handed => cases rest.collect <;> rfl
      rw [step, induction]
      simp only [values?]
      cases rest.values? with
      | none => cases value.handedOn? <;> rfl
      | some values =>
          simp only [Option.bind_some, Option.map_some, List.mapM_cons]
          cases value.handedOn? with
          | none => rfl
          | some handed => cases values.mapM Json.handedOn? <;> rfl

theorem isDone_eq (outputs : Outputs) : outputs.isDone = outputs.values?.any List.isEmpty := by
  cases outputs with
  | done => rfl
  | failed misfit => rfl
  | emit value rest => cases found : rest.values? <;> simp [isDone, values?, found]

/-- A key that came again would overwrite the value chosen for it, so the keys have to differ. -/
theorem values?_choose {streams : Entries Outputs} {members : Entries Json}
    (distinct : (Entries.keys members ++ Entries.keys streams).Nodup)
    (inhabited : ∀ stream ∈ streams, stream.2.isDone = false) :
    (choose members streams).values? =
      (valuesOfAll (streams.map fun stream => (stream.1, stream.2.values?))).map fun lists =>
        (choices lists).map fun chosen => .object (members ++ chosen) := by
  induction streams generalizing members with
  | nil => simp [choose, choices, valuesOfAll]
  | cons stream rest induction =>
      obtain ⟨key, outputs⟩ := stream
      have fresh : key ∉ Entries.keys members := by
        intro member
        exact (List.nodup_append.mp distinct).2.2 key member key List.mem_cons_self rfl
      have extended : ∀ value, (choose (Entries.put key value members) rest).values? =
          (valuesOfAll (rest.map fun stream => (stream.1, stream.2.values?))).map fun lists =>
            (choices lists).map fun chosen => .object (members ++ (key, value) :: chosen) := by
        intro value
        rw [Entries.put_of_notMem fresh, induction]
        · simp
        · simpa [Entries.keys] using distinct
        · exact fun stream member => inhabited stream (List.mem_cons_of_mem _ member)
      have nonempty := inhabited (key, outputs) List.mem_cons_self
      rw [isDone_eq] at nonempty
      simp only [choose, values?_bind, extended, List.map_cons, valuesOfAll]
      cases found : outputs.values? with
      | none => rfl
      | some values =>
          cases valuesOfAll (rest.map fun stream => (stream.1, stream.2.values?)) with
          | none =>
              cases values with
              | nil => simp [found] at nonempty
              | cons value values => rfl
          | some lists =>
              simp only [Option.map_some, Option.bind_some, choices]
              clear nonempty found
              induction values with
              | nil => rfl
              | cons value values induction => simp [flatMap?_cons, induction]

theorem values?_records {streams : Entries Outputs} (distinct : (Entries.keys streams).Nodup) :
    (records streams).values? =
      objectsOf (streams.map fun stream => (stream.1, stream.2.values?)) := by
  have agree : (streams.map fun stream => (stream.1, stream.2.values?)).any
      (fun stream => stream.2.any List.isEmpty) = streams.any fun stream => stream.2.isDone := by
    simp [List.any_map, Function.comp_def, isDone_eq]
  unfold records objectsOf
  rw [agree]
  split
  · rfl
  · rename_i inhabited
    rw [values?_choose (by simpa using distinct) (by simpa using inhabited)]
    simp

end Outputs

end FilterSynthesis
