import FilterSynthesis.Proofs.Program.Injectivity
import FilterSynthesis.Proofs.Schema.Correspondence
import FilterSynthesis.Proofs.Search.Exactness

namespace FilterSynthesis

namespace Constants

theorem all_ofLiterals_perm (literals : List Literal) :
    (ofLiterals literals).all.Perm literals := by
  induction literals with
  | nil => exact .refl _
  | cons literal rest induction =>
      refine List.Perm.trans ?_ (induction.cons literal)
      cases literal with
      | bool value => exact .refl _
      | int value =>
          simp only [all, ofLiterals, boolLiterals, intLiterals, strLiterals, List.map_cons,
            List.append_assoc, List.cons_append]
          exact List.perm_middle
      | str value =>
          simp only [all, ofLiterals, boolLiterals, intLiterals, strLiterals, List.map_cons]
          exact List.perm_middle

theorem nodup_all_ofLiterals {literals : List Literal} (differ : literals.Nodup) :
    (ofLiterals literals).all.Nodup :=
  (all_ofLiterals_perm literals).nodup_iff.mpr differ

end Constants

def Operator.key? : Operator → Option String
  | .index key | .groupBy key | .sortBy key | .select key _ => some key
  | .all | .any | .forEach | .keys | .sort => none

/-- Blocks of operators that name different keys do not overlap, neither with one another nor with
operators that name none. -/
theorem nodup_flatMap_append {α : Type} {entries : List α} {name : α → String}
    {block : α → List Operator} {others : List Operator} (names : (entries.map name).Nodup)
    (each : ∀ entry, (block entry).Nodup)
    (keyed : ∀ entry, ∀ operator ∈ block entry, operator.key? = some (name entry))
    (differ : others.Nodup) (unnamed : ∀ operator ∈ others, operator.key? = none) :
    (entries.flatMap block ++ others).Nodup := by
  have apart : entries.Pairwise fun first second => (block first).Disjoint (block second) := by
    refine (List.pairwise_map.mp names).imp fun {first second} differs operator here there => ?_
    have same := (keyed first operator here).symm.trans (keyed second operator there)
    exact differs (Option.some.inj same)
  refine List.nodup_append.mpr
    ⟨List.nodup_flatMap.mpr ⟨fun entry _ => each entry, apart⟩, differ, ?_⟩
  rintro operator left _ right rfl
  obtain ⟨entry, _, member⟩ := List.mem_flatMap.mp left
  cases (keyed entry operator member).symm.trans (unnamed operator right)

namespace Schema

variable {constants : Constants} {schema : Schema}

theorem nodup_comparable (differ : constants.all.Nodup) (field : Schema) :
    (field.comparable constants).Nodup := by
  cases field with
  | any => exact differ
  | bool =>
      exact differ.sublist ((List.sublist_append_left _ _).trans (List.sublist_append_left _ _))
  | int =>
      exact differ.sublist ((List.sublist_append_right _ _).trans (List.sublist_append_left _ _))
  | str => exact differ.sublist (List.sublist_append_right _ _)
  | none | list | dict => exact List.nodup_nil

def fieldOperators (constants : Constants) (entry : String × Schema) : List Operator :=
  .index entry.1 :: (entry.2.comparable constants).map (.select entry.1)

theorem nodup_fieldOperators (differ : constants.all.Nodup) (entry : String × Schema) :
    (fieldOperators constants entry).Nodup := by
  refine List.nodup_cons.mpr ⟨by simp, (nodup_comparable differ entry.2).map ?_⟩
  intro left right equal
  cases equal
  rfl

theorem key?_of_mem_fieldOperators {entry : String × Schema} {operator : Operator}
    (member : operator ∈ fieldOperators constants entry) : operator.key? = some entry.1 := by
  rcases List.mem_cons.mp member with rfl | selects
  · rfl
  · obtain ⟨literal, _, rfl⟩ := List.mem_map.mp selects
    rfl

theorem nodup_operators (distinct : schema.Distinct) (differ : constants.all.Nodup) :
    ((schema.rules constants).map (·.operator)).Nodup := by
  cases distinct with
  | @dict fields values keys each rest =>
      have operators : ((dict fields values).rules constants).map (·.operator) =
          fields.flatMap (fieldOperators constants) ++ [.forEach, .keys] := by
        simp only [rules, fieldRules, List.map_append, List.map_flatMap, List.map_cons,
          List.map_map]
        rfl
      rw [operators]
      exact nodup_flatMap_append keys (nodup_fieldOperators differ)
        (fun _ _ member => key?_of_mem_fieldOperators member) (by decide) (by decide)
  | @list element within =>
      cases within with
      | bool | any => simp [rules, elementRules]
      | @dict fields values keys each rest =>
          have operators : ((list (dict fields values)).rules constants).map (·.operator) =
              (Entries.keys fields).flatMap (fun key => [.groupBy key, .sortBy key]) ++
                [.forEach, .sort] := by
            simp [rules, elementRules, List.map_flatMap]
          have names : ((Entries.keys fields).map id).Nodup := by rwa [List.map_id]
          rw [operators]
          refine nodup_flatMap_append names (fun key => by simp) (fun key => ?_) (by decide)
            (by decide)
          exact List.forall_mem_cons.mpr ⟨rfl, List.forall_mem_singleton.mpr rfl⟩
      | _ => simp [rules, elementRules]
  | _ => exact List.nodup_nil

theorem follow_injective (differ : constants.all.Nodup) (distinct : schema.Distinct)
    {last other : Schema} {path again : RulePath} {pipeline : Pipeline}
    (leads : schema.follow constants path = some (pipeline, last))
    (leadsAgain : schema.follow constants again = some (pipeline, other)) : path = again := by
  induction path generalizing schema pipeline again with
  | nil =>
      cases leads
      cases again with
      | nil => rfl
      | cons position rest =>
          obtain ⟨_, _, _, _, impossible⟩ := follow_cons_eq_some.mp leadsAgain
          cases impossible
  | cons position rest induction =>
      obtain ⟨rule, others, picked, continues, rfl⟩ := follow_cons_eq_some.mp leads
      cases again with
      | nil => cases leadsAgain
      | cons place later =>
          obtain ⟨second, operators, pickedAgain, continuesAgain, same⟩ :=
            follow_cons_eq_some.mp leadsAgain
          obtain ⟨operator, rfl⟩ := List.cons.inj same
          have places : ((schema.rules constants).map (·.operator))[position]? =
              ((schema.rules constants).map (·.operator))[place]? := by
            simp [picked, pickedAgain, operator]
          have inside : position < ((schema.rules constants).map (·.operator)).length := by
            simpa using (List.getElem?_eq_some_iff.mp picked).1
          obtain rfl := (List.getElem?_inj inside (nodup_operators distinct differ)).mp places
          cases picked.symm.trans pickedAgain
          have applies := applies_of_mem_rules distinct (List.mem_of_getElem? picked)
          rw [induction (applies.distinct distinct) continues continuesAgain]

end Schema

namespace Search

variable {problem : Problem} {schema : Schema} {result : Result} {tried : List RulePath}

theorem Result.Explores.nodup_pipelines (explores : result.Explores problem schema tried)
    (differ : problem.spec.constants.all.Nodup) (distinct : schema.Distinct) :
    (tried.map (problem.pipelineAt schema)).Nodup := by
  refine explores.nodup.map_on fun path listed again listedAgain equal => ?_
  obtain ⟨⟨⟨pipeline, last⟩, leads⟩, _, _⟩ := explores.tries path listed
  obtain ⟨⟨⟨other, reached⟩, leadsAgain⟩, _, _⟩ := explores.tries again listedAgain
  rw [Problem.pipelineAt_of_follow problem leads,
    Problem.pipelineAt_of_follow problem leadsAgain] at equal
  exact Schema.follow_injective differ distinct leads (equal ▸ leadsAgain)

end Search

/-- If no constant comes twice, no text is reviewed twice in a search, and none is found twice. -/
theorem search_never_repeats (oracle : Oracle) (examples : List Example) (literals : List Literal)
    (differ : literals.Nodup) (policy : ScorePolicy) (depth wanted : Nat) (schema : Schema)
    (distinct : schema.Distinct) :
    let result := search ⟨oracle, ⟨examples, .ofLiterals literals, policy⟩, depth, wanted⟩ schema
    (result.attempts.map (·.pipeline.text)).Nodup ∧
      (result.outcome.pipelines.map Pipeline.text).Nodup := by
  intro result
  obtain ⟨tried, explores⟩ := Search.exists_explores
    ⟨oracle, ⟨examples, .ofLiterals literals, policy⟩, depth, wanted⟩ schema
  have pipelines := explores.nodup_pipelines (Constants.nodup_all_ofLiterals differ) distinct
  constructor
  · have attempts : (result.attempts.map (·.pipeline)).Nodup := explores.attempts_eq ▸ pipelines
    have texts := attempts.map Pipeline.text_injective
    rwa [List.map_map] at texts
  · have found : result.outcome.pipelines.Nodup := by
      rw [explores.found_eq]
      exact pipelines.sublist (List.filter_sublist.map _)
    exact found.map Pipeline.text_injective

theorem unknown_field_is_compared_once :
    [Literal.bool true, .int 1, .str "1"].Nodup ∧ (Schema.dict [("a", .any)] .any).Distinct ∧
      let result := search ⟨fun _ _ => none, ⟨[⟨.null, [.null]⟩],
        .ofLiterals [.bool true, .int 1, .str "1"], .firstMismatch⟩, 1, 1⟩
            (.dict [("a", .any)] .any)
      (result.attempts.map (·.pipeline.text)).Nodup ∧
        (result.outcome.pipelines.map Pipeline.text).Nodup := by
  have differ : [Literal.bool true, .int 1, .str "1"].Nodup := by decide
  have distinct : (Schema.dict [("a", .any)] .any).Distinct :=
    .dict (by decide) (List.forall_mem_singleton.mpr .any) .any
  exact ⟨differ, distinct, search_never_repeats _ _ _ differ _ _ _ _ distinct⟩

end FilterSynthesis
