import FilterSynthesis.Proofs.Evaluation
import FilterSynthesis.Proofs.Synthesis.Assemblable

namespace FilterSynthesis

namespace Json

def allHold (values : List Json) (key : String) : Bool :=
  values.all fun value => (value.lookup? key).isSome

theorem allHold_iff {values : List Json} {key : String} :
    allHold values key = true ↔ ∀ value ∈ values, ∃ held, value.lookup? key = some held := by
  simp only [allHold, List.all_eq_true, Option.isSome_iff_exists]

mutual

/-- What a program that was assembled for several values yields of one of them. -/
def prune : Json → Program → List Json → Json
  | .object members, .record fields, values => .object (pruneMembers members fields values)
  | value, _, _ => value

def pruneMembers : List (String × Json) → List (String × Program) → List Json →
    List (String × Json)
  | [], _, _ => []
  | (key, value) :: rest, fields, values =>
      if allHold values key then
        (key, value.prune ((fields.lookup key).getD (.pipeline .identity))
          (values.map (Synthesis.project key))) :: pruneMembers rest fields values
      else pruneMembers rest fields values

end

@[simp] theorem prune_pipeline (value : Json) (pipeline : Pipeline) (values : List Json) :
    value.prune (.pipeline pipeline) values = value := by
  cases value <;> simp [prune]

theorem keys_pruneMembers_sublist (members : List (String × Json))
    (fields : List (String × Program)) (values : List Json) :
    (Entries.keys (pruneMembers members fields values)).Sublist (Entries.keys members) := by
  induction members with
  | nil => exact List.Sublist.refl []
  | cons member rest induction =>
      simp only [pruneMembers]
      split
      · exact induction.cons_cons member.1
      · exact induction.cons member.1

theorem lookup_pruneMembers (members : List (String × Json)) (fields : List (String × Program))
    (values : List Json) (key : String) :
    (pruneMembers members fields values).lookup key =
      if allHold values key then
        (members.lookup key).map fun held =>
          held.prune ((fields.lookup key).getD (.pipeline .identity))
            (values.map (Synthesis.project key))
      else none := by
  induction members with
  | nil => simp [pruneMembers]
  | cons member rest induction =>
      obtain ⟨name, value⟩ := member
      simp only [pruneMembers]
      by_cases here : key = name
      · subst here
        split
        · simp
        · simp [*]
      · have other : (key == name) = false := by simpa using here
        split <;> simp [List.lookup_cons, other, induction]

theorem mem_keys_pruneMembers_iff {members : List (String × Json)} {values : List Json}
    (within : .object members ∈ values) {fields : List (String × Program)} {key : String} :
    key ∈ Entries.keys (pruneMembers members fields values) ↔ allHold values key = true := by
  rw [Entries.mem_keys_iff, lookup_pruneMembers]
  by_cases all : allHold values key = true
  · obtain ⟨held, found⟩ := allHold_iff.mp all _ within
    have there : members.lookup key = some held := found
    simp [all, there]
  · simp [all]

def prunedUnder (members : List (String × Json)) (fields : List (String × Program))
    (values : List Json) (key : String) : Json :=
  (Synthesis.project key (.object members)).prune
    ((fields.lookup key).getD (.pipeline .identity)) (values.map (Synthesis.project key))

theorem eq_prunedUnder_of_lookup {members : List (String × Json)}
    {fields : List (String × Program)} {values : List Json} {key : String} {left : Json}
    (found : (pruneMembers members fields values).lookup key = some left) :
    left = prunedUnder members fields values key := by
  rw [lookup_pruneMembers] at found
  split at found
  · obtain ⟨held, there, rfl⟩ := Option.map_eq_some_iff.mp found
    simp only [prunedUnder, Synthesis.project, lookup?, there, Option.getD_some]
  · cases found

theorem same_prune {built members : List (String × Json)} {fields : List (String × Program)}
    {values : List Json} (within : .object members ∈ values)
    (distinctBuilt : (Entries.keys built).Nodup) (distinctMembers : (Entries.keys members).Nodup)
    (keys : ∀ key, key ∈ Entries.keys built ↔ allHold values key = true)
    (each : ∀ member ∈ built, member.2.same (prunedUnder members fields values member.1) = true) :
    (object built).same ((object members).prune (.record fields) values) = true := by
  have distinctPruned : (Entries.keys (pruneMembers members fields values)).Nodup :=
    (keys_pruneMembers_sublist members fields values).nodup distinctMembers
  rw [prune]
  refine (same_object_iff distinctBuilt distinctPruned).mpr ⟨fun key => ?_, ?_⟩
  · rw [keys, mem_keys_pruneMembers_iff within]
  · intro member listed other found
    rw [eq_prunedUnder_of_lookup found]
    exact each member listed

mutual

theorem depth_prune_le : (value : Json) → (program : Program) → (values : List Json) →
    (value.prune program values).depth ≤ value.depth
  | .object members, .record fields, values => by
      simp only [prune, depth]
      exact Nat.succ_le_succ (depth_pruneMembers_le members fields values)
  | value, .pipeline pipeline, values => by
      rw [prune_pipeline]
  | .null, .record _, _ | .bool _, .record _, _ | .number _, .record _, _ | .string _, .record _, _
  | .array _, .record _, _ => Nat.le_refl _

theorem depth_pruneMembers_le : (members : List (String × Json)) →
    (fields : List (String × Program)) → (values : List Json) →
      depthOfMembers (pruneMembers members fields values) ≤ depthOfMembers members
  | [], _, _ => Nat.le_refl _
  | (key, value) :: rest, fields, values => by
      have here := depth_prune_le value ((fields.lookup key).getD (.pipeline .identity))
        (values.map (Synthesis.project key))
      have there := depth_pruneMembers_le rest fields values
      simp only [pruneMembers]
      split <;> simp only [depthOfMembers] <;> omega

end

theorem depth_prunedUnder_lt (members : List (String × Json)) (fields : List (String × Program))
    (values : List Json) (key : String) :
    (prunedUnder members fields values key).depth < (object members).depth :=
  (depth_prune_le _ _ _).trans_lt (Synthesis.depth_project_lt members key)

end Json

theorem Filter.run_eq_ok_of_answer {text : String} {input value : Json}
    (answer : Filter.oracle.answer text input = [value]) :
    Filter.run text input = .ok [value] := by
  rw [Filter.run_eq_ok_iff]
  rw [Oracle.answer] at answer
  cases answered : Filter.oracle text input with
  | none =>
      rw [answered] at answer
      cases answer
  | some values =>
      rw [answered] at answer
      cases answer
      rfl

structure Program.Prunes (program : Program) (examples : List Example) (heads : List Json) :
    Prop where
  distinct : program.HasDistinctKeys
  yields : ∀ tried ∈ examples, ∀ head, tried.output.head? = some head →
    program.Yields tried.input (head.prune program heads)

namespace Synthesis

variable {settings : Settings} {schema : Schema} {constants : Constants} {examples : List Example}
  {heads : List Json} {depth : Nat}

theorem heads?_under (firsts : heads? examples = some heads) (key : String) :
    heads? (examples.map (·.under key)) = some (heads.map (project key)) := by
  have equal := congrArg (List.map (Option.map (project key))) (heads?_eq_some_iff.mp firsts)
  rw [heads?_eq_some_iff]
  simpa [Example.under, Function.comp_def, List.head?_take] using equal

theorem withOutputs_under (firsts : heads? examples = some heads) (key : String) :
    withOutputs (examples.map (·.under key)) (heads.map (project key)) =
      examples.map (·.under key) := by
  rw [withOutputs_heads (heads?_under firsts key), List.map_map]
  refine List.map_congr_left fun tried _ => ?_
  simp [Example.under, List.take_take, ← List.map_take]

theorem prunes_of_reproduces {pipeline : Pipeline}
    (reproduces : (Program.pipeline pipeline).Reproduces (withOutputs examples heads))
    (firsts : heads? examples = some heads) :
    (Program.pipeline pipeline).Prunes examples heads := by
  refine ⟨trivial, fun tried member head first => ?_⟩
  obtain ⟨others, output⟩ := List.head?_eq_some_iff.mp first
  rw [withOutputs_heads firsts] at reproduces
  have same := reproduces _ (List.mem_map_of_mem member)
  rw [output] at same
  rw [Json.prune_pipeline]
  exact same

theorem prunes_record (firsts : heads? examples = some heads)
    {fields : List (String × Schema)} {values : Schema}
    (shared : Schema.common heads = .dict fields values)
    (modest : ∀ tried ∈ examples, tried.IsModest) {record : List (String × Program)}
    (keys : Entries.keys record = Entries.keys fields)
    (each : ∀ field ∈ record,
      field.2.Prunes (examples.map (·.under field.1)) (heads.map (project field.1))) :
    (Program.record record).Prunes examples heads := by
  have distinct := hasDistinctKeys_of_shared firsts shared modest keys fun field member =>
    (each field member).distinct
  refine ⟨distinct, fun tried member head first => ?_⟩
  obtain ⟨other, within, others, output⟩ := exists_head firsts member
  cases first.symm.trans (congrArg List.head? output)
  obtain ⟨members, rfl⟩ := Schema.isObject_of_common shared within
  obtain ⟨wellFormed, shallow⟩ := modest tried member (.object members)
    (by rw [output]; exact List.mem_cons_self)
  have distinctMembers : (Entries.keys members).Nodup := by
    cases wellFormed with
    | object keys each => exact keys
  have bounded : ∀ key, (Json.prunedUnder members record heads key).depth < outputNesting :=
    fun key => (Json.depth_prunedUnder_lt members record heads key).trans shallow
  have yields : ∀ field ∈ record,
      field.2.Yields tried.input (Json.prunedUnder members record heads field.1) := by
    intro field listed
    have found : record.lookup field.1 = some field.2 := Entries.lookup_of_mem distinct.1 listed
    rw [Json.prunedUnder, found, Option.getD_some]
    refine (each field listed).yields _ (List.mem_map_of_mem member) _ ?_
    simp [Example.under, output]
  obtain ⟨built, answer, keysBuilt, same⟩ := Program.oracle_record distinct bounded yields
  rw [Program.Yields, Oracle.answer, answer, Option.getD_some, Json.singleton_sameElements_iff]
  refine ⟨_, rfl, Json.same_prune within (keysBuilt ▸ distinct.1) distinctMembers ?_ same⟩
  intro key
  rw [keysBuilt, keys, Schema.mem_keys_common_iff shared, Json.allHold_iff]

theorem prunes_of_assembled (waives : settings.verifyAssembled = false)
    (modest : ∀ tried ∈ examples, tried.IsModest) (firsts : heads? examples = some heads)
    (smaller : ∀ key program others, headDepth (examples.map (·.under key)) < headDepth examples →
      (programs ⟨Filter.oracle, settings, schema⟩ (examples.map (·.under key))
        constants 1).result = .ok (program :: others) →
      program.Prunes (examples.map (·.under key)) (heads.map (project key)))
    {program : Program}
    (ends : (assembled ⟨Filter.oracle, settings, schema⟩ examples constants depth).result =
      .ok program) : program.Prunes examples heads := by
  obtain ⟨heads, again, ⟨fields, values, record, shared, keys, found, reviewed⟩ |
    ⟨_, candidate, wraps, reviewed⟩⟩ := exists_heads_of_assembled ends
  · cases firsts.symm.trans again
    rw [verified_of_waived waives] at reviewed
    cases reviewed
    refine prunes_record firsts shared modest keys fun field member => ?_
    obtain ⟨others, here⟩ := found field member
    rw [withOutputs_project firsts] at here
    refine smaller field.1 field.2 others ?_ here
    rw [← withOutputs_project firsts]
    exact headDepth_project_lt firsts shared field.1
  · cases firsts.symm.trans again
    rw [verified_of_waived waives] at reviewed
    cases reviewed
    obtain ⟨_, pipeline, _, _, rfl, accepts, _⟩ := exists_pipeline_of_wrapped wraps
    exact prunes_of_reproduces ((Program.accepts_iff_reproduces (.pipeline pipeline) _).mp accepts)
      firsts

theorem prunes_of_programs (waives : settings.verifyAssembled = false)
    (modest : ∀ tried ∈ examples, tried.IsModest)
    (single : withOutputs examples heads = examples) (firsts : heads? examples = some heads)
    {wanted : Nat} {program : Program} {others : List Program}
    (ends : (programs ⟨Filter.oracle, settings, schema⟩ examples constants wanted).result =
      .ok (program :: others)) : program.Prunes examples heads := by
  induction bound : headDepth examples using Nat.strongRecOn
    generalizing examples heads wanted program others with
  | ind depth induction =>
      rcases programs_cases ends with ⟨first, more, equal, accepted⟩ | ⟨only, equal, ended⟩
      · cases equal
        refine prunes_of_reproduces ?_ firsts
        rw [single]
        exact (Program.accepts_iff_reproduces (.pipeline first) examples).mp
          (accepted first List.mem_cons_self).1
      · cases equal
        refine prunes_of_assembled waives modest firsts (fun key program others fewer here => ?_)
          ended
        exact induction _ (bound ▸ fewer) (List.forall_mem_map.mpr fun tried member =>
          (modest tried member).under key) (withOutputs_under firsts key) (heads?_under firsts key)
            here rfl

end Synthesis

/-- Without a final review, what is assembled if no pipeline reproduces the examples answers each of
them with one value. That is the first output that is asked for, pruned: at the levels of the record
the members under keys that not all examples have there are missing, and nothing else. -/
theorem fallback_is_faithful (settings : Settings) (waives : settings.verifyAssembled = false)
    (examples : List Example) (constants : List Literal)
    (modest : ∀ tried ∈ examples, tried.IsModest)
    (unreachable : ¬IsReachable (Schema.common (examples.map (·.input))) (.ofLiterals constants)
      settings.depth examples)
    (found : List Program)
    (ends : (Synthesis.run Filter.oracle settings examples constants).result = .ok found) :
    ∃ program heads, found = [program] ∧ Synthesis.heads? examples = some heads ∧
      ∀ tried ∈ examples, ∃ head output, tried.output.head? = some head ∧
        Filter.run program.text tried.input = .ok [output] ∧
          output.same (head.prune program heads) = true ∧
            ∀ pipeline, program = .pipeline pipeline → output.same head = true := by
  rw [Synthesis.run_of_ne_nil (Synthesis.ne_nil_of_unreachable unreachable),
    Synthesis.result_programs_of_unreachable unreachable] at ends
  cases ended : (Synthesis.assembled ⟨Filter.oracle, settings,
      Schema.common (examples.map (·.input))⟩ examples (.ofLiterals constants)
        settings.depth).result with
  | error error =>
      rw [ended] at ends
      cases ends
  | ok program =>
      rw [ended] at ends
      cases ends
      obtain ⟨heads, firsts, _⟩ := Synthesis.exists_heads_of_assembled ended
      have prunes := Synthesis.prunes_of_assembled waives modest firsts
        (fun key program others _ here => Synthesis.prunes_of_programs waives
          (List.forall_mem_map.mpr fun tried member => (modest tried member).under key)
          (Synthesis.withOutputs_under firsts key) (Synthesis.heads?_under firsts key) here) ended
      refine ⟨program, heads, rfl, firsts, fun tried member => ?_⟩
      obtain ⟨head, _, others, output⟩ := Synthesis.exists_head firsts member
      have first : tried.output.head? = some head := by rw [output, List.head?_cons]
      obtain ⟨value, answer, same⟩ :=
        Json.sameElements_singleton_iff.mp (prunes.yields tried member head first)
      refine ⟨head, value, first, Filter.run_eq_ok_of_answer answer, same, ?_⟩
      intro pipeline equal
      rwa [equal, Json.prune_pipeline] at same

/-- At depth zero a record within a record is assembled. The inner one lacks what only one of the
examples asks for. -/
theorem unshared_member_is_dropped :
    (Synthesis.run Filter.oracle ⟨0, 1, .firstMismatch, false⟩
        [⟨.bool true, [.object [("v", .object [("w", .bool true), ("x", .null)])]]⟩,
          ⟨.bool false, [.object [("v", .object [("w", .bool false)])]]⟩] []).result =
      .ok [.record [("v", .record [("w", .pipeline .identity)])]] ∧
    ∃ output, Filter.run (Program.record [("v", .record [("w", .pipeline .identity)])]).text
        (.bool true) = .ok [output] ∧
      output.same (.object [("v", .object [("w", .bool true)])]) = true := by
  have ends : (Synthesis.run Filter.oracle ⟨0, 1, .firstMismatch, false⟩
      [⟨.bool true, [.object [("v", .object [("w", .bool true), ("x", .null)])]]⟩,
        ⟨.bool false, [.object [("v", .object [("w", .bool false)])]]⟩] []).result =
      .ok [.record [("v", .record [("w", .pipeline .identity)])]] := by cbv
  have modest : ∀ tried ∈
      [(⟨.bool true, [.object [("v", .object [("w", .bool true), ("x", .null)])]]⟩ : Example),
        ⟨.bool false, [.object [("v", .object [("w", .bool false)])]]⟩], tried.IsModest := by
    refine List.forall_mem_cons.mpr ⟨?_, List.forall_mem_singleton.mpr ?_⟩
    · refine List.forall_mem_singleton.mpr ⟨.object (by decide) ?_, by decide⟩
      refine List.forall_mem_singleton.mpr (.object (by decide) ?_)
      exact List.forall_mem_cons.mpr ⟨.bool true, List.forall_mem_singleton.mpr .null⟩
    · refine List.forall_mem_singleton.mpr ⟨.object (by decide) ?_, by decide⟩
      refine List.forall_mem_singleton.mpr (.object (by decide) ?_)
      exact List.forall_mem_singleton.mpr (.bool false)
  have unreachable : ¬IsReachable (Schema.common [.bool true, .bool false]) (.ofLiterals []) 0
      [⟨.bool true, [.object [("v", .object [("w", .bool true), ("x", .null)])]]⟩,
        ⟨.bool false, [.object [("v", .object [("w", .bool false)])]]⟩] := by
    intro reachable
    obtain ⟨path, pipeline, last, leads, within, reproduces⟩ := reachable
    obtain rfl := List.length_eq_zero_iff.mp (Nat.le_zero.mp within)
    cases leads
    have answer := reproduces _ List.mem_cons_self
    have distinct : (Program.pipeline .identity).HasDistinctKeys := trivial
    rw [Oracle.answer, Filter.oracle_program distinct] at answer
    cases answer
  obtain ⟨program, heads, equal, firsts, faithful⟩ :=
    fallback_is_faithful ⟨0, 1, .firstMismatch, false⟩ rfl _ [] modest unreachable _ ends
  cases equal
  cases firsts
  obtain ⟨head, output, first, answer, same, _⟩ := faithful _ List.mem_cons_self
  cases first
  exact ⟨ends, output, answer, same⟩

end FilterSynthesis
