import FilterSynthesis.Proofs.Program.Meaning

namespace FilterSynthesis

namespace Filter

def ofOperator : Operator → Filter
  | .all => .all
  | .any => .any
  | .forEach => .pipe .identity .iterate
  | .keys => .keys
  | .sort => .sort
  | .index key => .index key
  | .groupBy key => .groupBy (.index key)
  | .sortBy key => .sortBy (.index key)
  | .select key constant => .select (.equals (.index key) constant.value)

def ofPipeline : Pipeline → Filter
  | [] => .identity
  | [operator] => ofOperator operator
  | operator :: rest => .pipe (ofOperator operator) (ofPipeline rest)

mutual

def ofProgram : Program → Filter
  | .pipeline operators => ofPipeline operators
  | .record fields => .record (ofFields fields)

def ofFields : List (String × Program) → List (String × Filter)
  | [] => []
  | (key, program) :: rest => (key, ofProgram program) :: ofFields rest

end

end Filter

namespace Json

theorem values?_entry (key : String) (value : Json) :
    (value.entry key).values? = if value.isObject then some [value.held key] else none := by
  cases value <;> rfl

theorem toExcept_entry (key : String) (value : Json) :
    (value.entry key).toExcept =
      if value.isObject then .ok [value.held key] else .error (.noObject key) := by
  cases value <;> rfl

def keyed (key : String) (element : Json) : List Json × Json := ([element.held key], element)

theorem withKeys_entry (key : String) (elements : List Json) :
    withKeys (entry key) elements =
      if elements.all isObject then .ok (elements.map (keyed key))
      else .error (.noObject key) := by
  induction elements with
  | nil => rfl
  | cons element rest induction =>
      simp only [withKeys, toExcept_entry, induction, List.all_cons]
      by_cases object : element.isObject
      · by_cases objects : rest.all isObject <;> simp [object, objects, keyed]
      · simp [object]

@[simp] theorem orderKeys_keyed (key : String) (left right : Json) :
    orderKeys (keyed key left) (keyed key right) =
      (left.held key).order (right.held key) := by
  simp [orderKeys, keyed, lexicographic]

theorem sortKeyed_keyed (key : String) (elements : List Json) :
    sortKeyed (elements.map (keyed key)) = (sortedUnder key elements).map (keyed key) := by
  simp [sortKeyed, Sorting.stable_map, sortedUnder, less]

theorem map_snd_keyed (key : String) (elements : List Json) :
    (elements.map (keyed key)).map (·.2) = elements := by
  simp [keyed, Function.comp_def]

theorem runs_keyed (key : String) (elements : List Json) :
    (runs (elements.map (keyed key))).map (fun run => run.map (·.2)) =
      runsBy (fun left right => (left.held key).order (right.held key) == .eq) elements := by
  fun_induction runsBy (fun left right => (left.held key).order (right.held key) == .eq)
      elements with
  | case1 => simp [runs]
  | case2 first rest induction =>
      rw [List.map_cons, runs, ← induction]
      simp only [List.takeWhile_map, List.dropWhile_map, Function.comp_def, orderKeys_keyed,
        List.map_cons, map_snd_keyed]
      rfl

end Json

namespace Filter

theorem values?_eval_ofOperator (operator : Operator) (value : Json) :
    ((ofOperator operator).eval value).values? = operator.meaning value := by
  cases operator with
  | all =>
      simp only [ofOperator, eval, Json.allTrue, Operator.meaning]
      cases value.parts? <;> rfl
  | any =>
      simp only [ofOperator, eval, Json.anyTrue, Operator.meaning]
      cases value.parts? <;> rfl
  | forEach =>
      simp only [ofOperator, eval, Outputs.single_bind, Json.iterate, Operator.meaning]
      cases value.parts? <;> simp
  | keys => cases value <;> rfl
  | sort => cases value <;> rfl
  | index key => exact Json.values?_entry key value
  | groupBy key =>
      cases value with
      | array elements =>
          simp only [ofOperator, eval, Json.groupedBy, Json.withKeys_entry, Operator.meaning]
          by_cases objects : elements.all Json.isObject
          · simp only [objects, if_true, Outputs.values?_single, Json.sortKeyed_keyed,
              Json.groupedUnder, ← Json.runs_keyed, List.map_map, Function.comp_def]
          · simp [objects]
      | _ => rfl
  | sortBy key =>
      cases value with
      | array elements =>
          simp only [ofOperator, eval, Json.sortedBy, Json.withKeys_entry, Operator.meaning]
          by_cases short : elements.length < 2
          · simp [short]
          · by_cases objects : elements.all Json.isObject
            · simp only [short, objects, if_true, if_false, Outputs.values?_single,
                Json.sortKeyed_keyed, Json.map_snd_keyed]
            · simp [short, objects]
      | _ => rfl
  | select key constant =>
      simp only [ofOperator, eval, Json.selected, Outputs.values?_bind, Json.values?_entry,
        Operator.meaning]
      by_cases object : value.isObject
      · by_cases equal : (value.held key).order constant.value = .eq <;>
          simp [object, equal, Json.ranksWith, Json.truthy]
      · simp [object]

theorem values?_eval_ofPipeline (pipeline : Pipeline) (value : Json) :
    ((ofPipeline pipeline).eval value).values? = pipeline.meaning value := by
  fun_induction ofPipeline pipeline generalizing value with
  | case1 => rfl
  | case2 operator => rw [values?_eval_ofOperator, Pipeline.meaning_singleton]
  | case3 operator rest _ induction =>
      simp only [eval, Outputs.values?_bind, values?_eval_ofOperator, induction, Pipeline.meaning]

theorem keys_evalEntries (entries : List (String × Filter)) (value : Json) :
    Entries.keys (evalEntries entries value) = Entries.keys entries := by
  induction entries with
  | nil => rfl
  | cons entry rest induction => simp [evalEntries, induction]

theorem keys_ofFields (fields : List (String × Program)) :
    Entries.keys (ofFields fields) = Entries.keys fields := by
  induction fields with
  | nil => rfl
  | cons field rest induction => simp [ofFields, induction]

mutual

theorem values?_eval_ofProgram : (program : Program) → program.HasDistinctKeys →
    ∀ value, ((ofProgram program).eval value).values? = program.meaning value
  | .pipeline operators, _ => fun value => values?_eval_ofPipeline operators value
  | .record fields, ⟨distinct, within⟩ => fun value => by
      have keys : (Entries.keys (evalEntries (ofFields fields) value)).Nodup := by
        rw [keys_evalEntries, keys_ofFields]
        exact distinct
      simp only [ofProgram, eval, Program.meaning, Outputs.values?_records keys,
        values?_evalEntries_ofFields fields within value]

theorem values?_evalEntries_ofFields : (fields : List (String × Program)) →
    Program.HaveDistinctKeys fields → ∀ value,
      (evalEntries (ofFields fields) value).map (fun stream => (stream.1, stream.2.values?)) =
        Program.meanings fields value
  | [], _ => fun _ => rfl
  | (key, program) :: rest, ⟨here, later⟩ => fun value => by
      simp only [ofFields, evalEntries, List.map_cons, Program.meanings,
        values?_eval_ofProgram program here value,
        values?_evalEntries_ofFields rest later value]

end

end Filter

end FilterSynthesis
