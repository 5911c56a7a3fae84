import FilterSynthesis.Proofs.Synthesis.Exhaustion

namespace FilterSynthesis

/-- Programs that reproduce the fields of the first outputs reproduce, as a record, just examples
that ask for records with these fields. -/
theorem Program.reproduces_record_iff {fields : List (String × Program)} {examples : List Example}
    {heads : List Json} (distinct : (Program.record fields).HasDistinctKeys)
    (firsts : Synthesis.heads? examples = some heads)
    (objects : ∀ head ∈ heads, ∃ members, head = .object members)
    (modest : ∀ tried ∈ examples, tried.IsModest)
    (each : ∀ field ∈ fields, field.2.Reproduces (examples.map (·.under field.1))) :
    (Program.record fields).Reproduces examples ↔
      ∀ tried ∈ examples, tried.AsksForRecord (Entries.keys fields) := by
  apply forall₂_congr
  intro tried member
  obtain ⟨head, within, others, output⟩ := Synthesis.exists_head firsts member
  obtain ⟨members, rfl⟩ := objects head within
  obtain ⟨wellFormed, shallow⟩ := modest tried member (.object members)
    (by rw [output]; exact List.mem_cons_self)
  have yields : ∀ field ∈ fields,
      field.2.Yields tried.input (Synthesis.project field.1 (.object members)) := by
    intro field listed
    have reproduces := each field listed _ (List.mem_map_of_mem member)
    rwa [Example.under, output] at reproduces
  obtain ⟨built, answer, keys, same⟩ := Program.oracle_record distinct
    (fun key => (Synthesis.depth_project_lt members key).trans shallow) yields
  have distinctBuilt : (Entries.keys built).Nodup := keys ▸ distinct.1
  have distinctMembers : (Entries.keys members).Nodup := by
    cases wellFormed with
    | object keys each => exact keys
  rw [Oracle.answer, answer, Option.getD_some, Json.singleton_sameElements_iff, output]
  constructor
  · intro agrees
    obtain ⟨only, single, equal⟩ := agrees
    cases single
    refine ⟨members, output, fun key => ?_⟩
    rw [← ((Json.same_object_iff distinctBuilt distinctMembers).mp equal).1 key, keys]
  · intro asks
    obtain ⟨asked, single, agree⟩ := asks
    cases output.symm.trans single
    refine ⟨.object members, rfl, ?_⟩
    refine (Json.same_object_iff distinctBuilt distinctMembers).mpr ⟨fun key => ?_, ?_⟩
    · rw [keys, agree key]
    · intro field listed other found
      have equal := same field listed
      rwa [Synthesis.project, Json.lookup?, found] at equal

namespace Synthesis

variable {settings : Settings} {schema : Schema} {constants : Constants} {examples : List Example}
  {heads : List Json} {depth bound : Nat}
  {fewer : ∀ key, headDepth (withOutputs examples (heads.map (project key))) < bound}

theorem distinct_heads (firsts : heads? examples = some heads)
    (modest : ∀ tried ∈ examples, tried.IsModest) : (Schema.common heads).Distinct := by
  apply Schema.distinct_common
  intro head member
  obtain ⟨tried, listed, others, output⟩ := exists_tried firsts member
  exact (modest tried listed head (by rw [output]; exact List.mem_cons_self)).1

theorem hasDistinctKeys_of_shared (firsts : heads? examples = some heads)
    {fields : List (String × Schema)} {values : Schema}
    (shared : Schema.common heads = .dict fields values)
    (modest : ∀ tried ∈ examples, tried.IsModest) {record : List (String × Program)}
    (keys : Entries.keys record = Entries.keys fields)
    (each : ∀ field ∈ record, field.2.HasDistinctKeys) :
    (Program.record record).HasDistinctKeys := by
  have apart := distinct_heads firsts modest
  rw [shared] at apart
  cases apart with
  | dict nodup _ _ => exact ⟨keys ▸ nodup, Program.haveDistinctKeys_iff.mpr each⟩

theorem reproduces_assembled_iff (firsts : heads? examples = some heads)
    {fields : List (String × Schema)} {values : Schema}
    (shared : Schema.common heads = .dict fields values)
    (modest : ∀ tried ∈ examples, tried.IsModest) {record : List (String × Program)}
    (keys : Entries.keys record = Entries.keys fields)
    (each : ∀ field ∈ record, field.2.Solves (examples.map (·.under field.1))) :
    (Program.record record).HasDistinctKeys ∧
      ((Program.record record).Reproduces examples ↔
        ∀ tried ∈ examples, tried.AsksForRecord (Entries.keys fields)) := by
  have distinct := hasDistinctKeys_of_shared firsts shared modest keys fun field member =>
    (each field member).distinct
  refine ⟨distinct, ?_⟩
  rw [← keys]
  exact Program.reproduces_record_iff distinct firsts
    (fun head member => Schema.isObject_of_common shared member) modest
    (fun field member => (each field member).reproduces)

/-- A program for the first outputs alone does not pass the review, as it yields one value where
more are asked for. -/
theorem not_reproduces_of_wrapped (firsts : heads? examples = some heads) {program : Program}
    (ends : (wrapped ⟨Filter.oracle, settings, schema⟩ examples heads constants depth).result =
      .ok program) : ¬program.Reproduces examples := by
  intro reproduces
  obtain ⟨⟨tried, member, several⟩, pipeline, _, _, rfl, accepts, _⟩ :=
    exists_pipeline_of_wrapped ends
  have alone := (Program.accepts_iff_reproduces (.pipeline pipeline) _).mp accepts
  have single := length_of_reproduces_heads firsts alone member
  have lengths := Json.length_eq_of_sameElements (reproduces tried member)
  exact several (lengths.symm.trans single)

theorem solves_of_fields (firsts : heads? examples = some heads)
    {fields : List (String × Schema)} {values : Schema}
    (shared : Schema.common heads = .dict fields values)
    (modest : ∀ tried ∈ examples, tried.IsModest)
    (smaller : ∀ key found, (programs ⟨Filter.oracle, settings, schema⟩ (examples.map (·.under key))
        constants 1).result = .ok found →
      (found ≠ [] ∧ ∀ program ∈ found, program.Solves (examples.map (·.under key))) ∧
        Solvable schema constants settings.depth (examples.map (·.under key)))
    {record : List (String × Program)} (keys : Entries.keys record = Entries.keys fields)
    (found : ∀ field ∈ record, ∃ others, (programs ⟨Filter.oracle, settings, schema⟩
      (withOutputs examples (heads.map (project field.1))) constants 1).result =
        .ok (field.2 :: others))
    (reproduces : (Program.record record).Reproduces examples) :
    (Program.record record).Solves examples ∧
      Solvable schema constants settings.depth examples := by
  have each : ∀ field ∈ record, field.2.Solves (examples.map (·.under field.1)) ∧
      Solvable schema constants settings.depth (examples.map (·.under field.1)) := by
    intro field member
    obtain ⟨others, here⟩ := found field member
    rw [withOutputs_project firsts] at here
    obtain ⟨⟨_, solves⟩, solvable⟩ := smaller field.1 _ here
    exact ⟨solves field.2 List.mem_cons_self, solvable⟩
  obtain ⟨distinct, reproduces_iff⟩ := reproduces_assembled_iff firsts shared modest keys
    fun field member => (each field member).1
  refine ⟨⟨distinct, reproduces⟩, .record (reproduces_iff.mp reproduces) fun key listed => ?_⟩
  rw [← keys] at listed
  obtain ⟨field, member, rfl⟩ := List.mem_map.mp listed
  exact (each field member).2

theorem solves_of_assembled (verifies : settings.verifyAssembled = true)
    (modest : ∀ tried ∈ examples, tried.IsModest)
    (smaller : ∀ key found, headDepth (examples.map (·.under key)) < headDepth examples →
      (programs ⟨Filter.oracle, settings, schema⟩ (examples.map (·.under key))
        constants 1).result = .ok found →
      (found ≠ [] ∧ ∀ program ∈ found, program.Solves (examples.map (·.under key))) ∧
        Solvable schema constants settings.depth (examples.map (·.under key)))
    {program : Program}
    (ends : (assembled ⟨Filter.oracle, settings, schema⟩ examples constants depth).result =
      .ok program) :
    program.Solves examples ∧ Solvable schema constants settings.depth examples := by
  obtain ⟨heads, firsts, ⟨fields, values, record, shared, keys, found, reviewed⟩ |
    ⟨_, candidate, wraps, reviewed⟩⟩ := exists_heads_of_assembled ends
  · obtain ⟨rfl, reproduces⟩ := reproduces_of_verified verifies reviewed
    refine solves_of_fields firsts shared modest (fun key found here => ?_) keys found reproduces
    refine smaller key found ?_ here
    rw [← withOutputs_project firsts]
    exact headDepth_project_lt firsts shared key
  · obtain ⟨rfl, reproduces⟩ := reproduces_of_verified verifies reviewed
    exact absurd reproduces (not_reproduces_of_wrapped firsts wraps)

theorem solves_of_programs (verifies : settings.verifyAssembled = true)
    (modest : ∀ tried ∈ examples, tried.IsModest) {wanted : Nat} {found : List Program}
    (ends : (programs ⟨Filter.oracle, settings, schema⟩ examples constants wanted).result =
      .ok found) :
    (found ≠ [] ∧ ∀ program ∈ found, program.Solves examples) ∧
      Solvable schema constants settings.depth examples := by
  -- on the depth of the first output, which is less in the examples for a field
  induction bound : headDepth examples using Nat.strongRecOn generalizing examples wanted found with
  | ind depth induction =>
      rcases programs_cases ends with ⟨first, others, rfl, accepted⟩ | ⟨program, rfl, ended⟩
      · have reproduces : ∀ pipeline ∈ first :: others, (Program.pipeline pipeline).Reproduces
            examples := fun pipeline member =>
          (Program.accepts_iff_reproduces (.pipeline pipeline) examples).mp
            (accepted pipeline member).1
        obtain ⟨_, path, last, leads, within⟩ := accepted first List.mem_cons_self
        refine ⟨⟨List.cons_ne_nil _ _, List.forall_mem_map.mpr fun pipeline member => ?_⟩, ?_⟩
        · exact ⟨trivial, reproduces pipeline member⟩
        · exact .pipeline ⟨path, first, last, leads, within, reproduces first List.mem_cons_self⟩
      · have solved := solves_of_assembled verifies modest (fun key found smaller here => ?_) ended
        · exact ⟨⟨List.cons_ne_nil _ _, List.forall_mem_singleton.mpr solved.1⟩, solved.2⟩
        · exact induction _ (bound ▸ smaller) (List.forall_mem_map.mpr fun tried member =>
            (modest tried member).under key) here rfl

theorem assembled_of_fields (verifies : settings.verifyAssembled = true)
    (modest : ∀ tried ∈ examples, tried.IsModest) (firsts : heads? examples = some heads)
    {fields : List (String × Schema)} {values : Schema}
    (shared : Schema.common heads = .dict fields values)
    (each : ∀ key ∈ Entries.keys fields, ∃ found, (programs ⟨Filter.oracle, settings, schema⟩
      (examples.map (·.under key)) constants 1).result = .ok found) :
    ∃ program,
      (assembled ⟨Filter.oracle, settings, schema⟩ examples constants depth).result = .ok program ∧
        (∀ tried ∈ examples, tried.AsksForRecord (Entries.keys fields)) ∨
      (assembled ⟨Filter.oracle, settings, schema⟩ examples constants depth).result =
          .error (.unverified program.text) ∧
        ¬∀ tried ∈ examples, tried.AsksForRecord (Entries.keys fields) := by
  have solves : ∀ key found, (programs ⟨Filter.oracle, settings, schema⟩
      (examples.map (·.under key)) constants 1).result = .ok found →
        found ≠ [] ∧ ∀ program ∈ found, program.Solves (examples.map (·.under key)) :=
    fun key found here => (solves_of_programs verifies
      (List.forall_mem_map.mpr fun tried member => (modest tried member).under key) here).1
  have begins : ∀ key ∈ Entries.keys fields, ∃ program others,
      (programs ⟨Filter.oracle, settings, schema⟩ (withOutputs examples (heads.map (project key)))
        constants 1).result = .ok (program :: others) := by
    intro key listed
    obtain ⟨found, here⟩ := each key listed
    obtain ⟨program, others, rfl⟩ := List.exists_cons_of_ne_nil (solves key found here).1
    exact ⟨program, others, by rw [withOutputs_project firsts, here]⟩
  obtain ⟨record, built⟩ := exists_fieldPrograms begins
  obtain ⟨keys, found⟩ := fields_of_fieldPrograms built
  obtain ⟨_, reproduces_iff⟩ := reproduces_assembled_iff firsts shared modest keys
    fun field member => by
      obtain ⟨others, here⟩ := found field member
      rw [withOutputs_project firsts] at here
      exact (solves field.1 _ here).2 field.2 List.mem_cons_self
  refine ⟨.record record, ?_⟩
  rw [assembled_of_dict firsts shared, Trace.result_bind_of_ok built, ← reproduces_iff]
  by_cases reproduces : (Program.record record).Reproduces examples
  · exact Or.inl ⟨verified_of_reproduces reproduces, reproduces⟩
  · exact Or.inr ⟨verified_of_not_reproduces verifies reproduces, reproduces⟩

theorem result_programs_of_unreachable
    (unreachable : ¬IsReachable schema constants settings.depth examples) (wanted : Nat) :
    (programs ⟨Filter.oracle, settings, schema⟩ examples constants wanted).result =
      (assembled ⟨Filter.oracle, settings, schema⟩ examples constants settings.depth).result.map
        ([·]) :=
  result_programs_of_exhausted (Task.exhausted_iff.mpr unreachable) wanted

theorem exists_programs_of_reachable
    (reachable : IsReachable schema constants settings.depth examples) (wanted : Nat) :
    ∃ first others, (programs ⟨Filter.oracle, settings, schema⟩ examples constants wanted).result =
      .ok (first :: others) := by
  rw [programs]
  rcases pipelines_cases settings schema constants examples settings.depth wanted with
    ⟨_, unreachable⟩ | ⟨first, others, something, _⟩
  · exact absurd reachable unreachable
  · refine ⟨.pipeline first, others.map .pipeline, ?_⟩
    rw [Trace.result_bind_of_ok something]
    rfl

theorem isReachable_nil : IsReachable schema constants settings.depth [] :=
  ⟨[], .identity, schema, rfl, Nat.zero_le _, by simp [Program.Reproduces]⟩

theorem ne_nil_of_unreachable
    (unreachable : ¬IsReachable schema constants settings.depth examples) : examples ≠ [] := by
  intro empty
  subst empty
  exact unreachable isReachable_nil

theorem common_of_asksForRecord (nonempty : examples ≠ []) {keys : List String}
    (records : ∀ tried ∈ examples, tried.AsksForRecord keys) :
    ∃ heads fields values, heads? examples = some heads ∧
      Schema.common heads = .dict fields values ∧
        ∀ key, key ∈ Entries.keys fields ↔ key ∈ keys := by
  obtain ⟨heads, firsts⟩ := exists_heads fun tried member => by
    obtain ⟨members, single, _⟩ := records tried member
    rw [single]
    exact List.cons_ne_nil _ _
  have objects : ∀ head ∈ heads, ∃ members, head = .object members ∧
      ∀ key, key ∈ Entries.keys members ↔ key ∈ keys := by
    intro head member
    obtain ⟨tried, listed, others, output⟩ := exists_tried firsts member
    obtain ⟨members, single, agree⟩ := records tried listed
    cases output.symm.trans single
    exact ⟨members, rfl, agree⟩
  obtain ⟨tried, listed⟩ := List.exists_mem_of_ne_nil examples nonempty
  obtain ⟨head, member, _⟩ := exists_head firsts listed
  obtain ⟨fields, values, shared⟩ := Schema.exists_dict_of_objects (List.ne_nil_of_mem member)
    fun head member => by
      obtain ⟨members, equal, _⟩ := objects head member
      exact ⟨members, equal⟩
  refine ⟨heads, fields, values, firsts, shared, fun key => ?_⟩
  rw [Schema.mem_keys_common_iff shared]
  constructor
  · intro held
    obtain ⟨members, rfl, agree⟩ := objects head member
    exact (agree key).mp (Entries.mem_keys_iff.mpr (held _ member))
  · intro listed other within
    obtain ⟨members, rfl, agree⟩ := objects other within
    exact Entries.mem_keys_iff.mp ((agree key).mpr listed)

theorem exists_programs (verifies : settings.verifyAssembled = true)
    (solvable : Solvable schema constants settings.depth examples)
    (modest : ∀ tried ∈ examples, tried.IsModest) (wanted : Nat) :
    ∃ found, (programs ⟨Filter.oracle, settings, schema⟩ examples constants wanted).result =
      .ok found := by
  induction solvable generalizing wanted with
  | pipeline reachable =>
      obtain ⟨first, others, found⟩ := exists_programs_of_reachable reachable wanted
      exact ⟨first :: others, found⟩
  | record records fields induction =>
      rename_i examples keys
      by_cases reachable : IsReachable schema constants settings.depth examples
      · obtain ⟨first, others, found⟩ := exists_programs_of_reachable reachable wanted
        exact ⟨first :: others, found⟩
      obtain ⟨heads, shared, values, firsts, common, same⟩ :=
        common_of_asksForRecord (ne_nil_of_unreachable reachable) records
      have each : ∀ key ∈ Entries.keys shared, ∃ found, (programs ⟨Filter.oracle, settings, schema⟩
          (examples.map (·.under key)) constants 1).result = .ok found := by
        intro key listed
        exact induction key ((same key).mp listed)
          (List.forall_mem_map.mpr fun tried member => (modest tried member).under key) 1
      have asked : ∀ tried ∈ examples, tried.AsksForRecord (Entries.keys shared) := by
        intro tried member
        obtain ⟨members, single, agree⟩ := records tried member
        exact ⟨members, single, fun key => (agree key).trans (same key).symm⟩
      rw [result_programs_of_unreachable reachable]
      obtain ⟨program, ⟨found, _⟩ | ⟨_, fails⟩⟩ :=
          assembled_of_fields verifies modest firsts common each
      · exact ⟨[program], by rw [found]; rfl⟩
      · exact absurd asked fails

/-- An example asks for a record with the shared fields just if it asks for nothing after its first
output and that has no other keys. -/
theorem asksForRecord_iff (firsts : heads? examples = some heads)
    {fields : List (String × Schema)} {values : Schema}
    (shared : Schema.common heads = .dict fields values) {tried : Example}
    (member : tried ∈ examples) :
    tried.AsksForRecord (Entries.keys fields) ↔
      tried.output.length ≤ 1 ∧ ∀ head ∈ tried.output.head?, ∀ key held,
        head.lookup? key = some held → key ∈ Entries.keys fields := by
  obtain ⟨head, within, others, output⟩ := exists_head firsts member
  obtain ⟨members, rfl⟩ := Schema.isObject_of_common shared within
  have least : ∀ key ∈ Entries.keys fields, key ∈ Entries.keys members := fun key listed =>
    Entries.mem_keys_iff.mpr ((Schema.mem_keys_common_iff shared).mp listed _ within)
  rw [output]
  constructor
  · intro asks
    obtain ⟨asked, single, agree⟩ := asks
    cases output.symm.trans single
    refine ⟨Nat.le_refl _, ?_⟩
    intro first equal key held found
    cases equal
    exact (agree key).mp (Entries.mem_keys_iff.mpr ⟨held, found⟩)
  · intro fits
    obtain ⟨few, most⟩ := fits
    obtain rfl :
        others = [] := List.length_eq_zero_iff.mp (Nat.le_zero.mp (Nat.le_of_succ_le_succ few))
    refine ⟨members, output, fun key => ⟨fun listed => ?_, least key⟩⟩
    obtain ⟨held, found⟩ := Entries.mem_keys_iff.mp listed
    exact most _ rfl key held found

theorem not_all_asksForRecord_iff (firsts : heads? examples = some heads)
    {fields : List (String × Schema)} {values : Schema}
    (shared : Schema.common heads = .dict fields values) :
    (¬∀ tried ∈ examples, tried.AsksForRecord (Entries.keys fields)) ↔
      ∃ tried ∈ examples, 1 < tried.output.length ∨ ∃ head ∈ tried.output.head?, ∃ key held,
        head.lookup? key = some held ∧ key ∉ Entries.keys fields := by
  push Not
  refine exists_congr fun tried => and_congr_right fun member => ?_
  rw [asksForRecord_iff firsts shared member, not_and_or, not_le]
  push Not
  rfl

end Synthesis

/-- With a final review, synthesis succeeds just if there are examples and they can be solved. If no
pipeline reproduces them but all fields that the first outputs share can be solved, the review
rejects the record just if an example asks for more than one output or its first one has a field
that is not shared. -/
theorem synthesis_succeeds_iff_solvable (settings : Settings)
    (verifies : settings.verifyAssembled = true) (examples : List Example)
    (constants : List Literal) (modest : ∀ tried ∈ examples, tried.IsModest) :
    ((∃ programs, (Synthesis.run Filter.oracle settings examples constants).result =
        .ok programs) ↔
      examples ≠ [] ∧ Solvable (Schema.common (examples.map (·.input))) (.ofLiterals constants)
        settings.depth examples) ∧
    ∀ heads fields values,
      ¬IsReachable (Schema.common (examples.map (·.input))) (.ofLiterals constants) settings.depth
        examples →
      Synthesis.heads? examples = some heads → Schema.common heads = .dict fields values →
      (∀ key ∈ Entries.keys fields, Solvable (Schema.common (examples.map (·.input)))
        (.ofLiterals constants) settings.depth (examples.map (·.under key))) →
      ((∃ text, (Synthesis.run Filter.oracle settings examples constants).result =
          .error (.unverified text)) ↔
        ∃ tried ∈ examples, 1 < tried.output.length ∨
          ∃ head ∈ tried.output.head?, ∃ key held,
            head.lookup? key = some held ∧ key ∉ Entries.keys fields) := by
  constructor
  · by_cases nonempty : examples = []
    · subst nonempty
      simp [Synthesis.run, Trace.fail]
    · rw [Synthesis.run_of_ne_nil nonempty]
      constructor
      · intro succeeds
        obtain ⟨programs, found⟩ := succeeds
        exact ⟨nonempty, (Synthesis.solves_of_programs verifies modest found).2⟩
      · intro solvable
        exact Synthesis.exists_programs verifies solvable.2 modest settings.wanted
  · intro heads fields values unreachable firsts shared each
    have nonempty : examples ≠ [] := by
      intro empty
      subst empty
      exact unreachable Synthesis.isReachable_nil
    have found : ∀ key ∈ Entries.keys fields, ∃ found,
        (Synthesis.programs ⟨Filter.oracle, settings, Schema.common (examples.map (·.input))⟩
          (examples.map (·.under key)) (.ofLiterals constants) 1).result = .ok found :=
      fun key listed => Synthesis.exists_programs verifies (each key listed)
        (List.forall_mem_map.mpr fun tried member => (modest tried member).under key) 1
    rw [Synthesis.run_of_ne_nil nonempty, Synthesis.result_programs_of_unreachable unreachable,
      ← Synthesis.not_all_asksForRecord_iff firsts shared]
    obtain ⟨program, ⟨ends, asked⟩ | ⟨ends, fails⟩⟩ :=
      Synthesis.assembled_of_fields verifies modest firsts shared found
    · rw [ends]
      refine iff_of_false ?_ (not_not_intro asked)
      intro rejected
      obtain ⟨text, fails⟩ := rejected
      cases fails
    · rw [ends]
      exact iff_of_true ⟨_, rfl⟩ fails

/-- At depth zero a record of the input is found, and one that is asked for along with another is
rejected. -/
theorem record_succeeds_unless_another_follows :
    (∃ programs, (Synthesis.run Filter.oracle ⟨0, 1, .firstMismatch, true⟩
        [⟨.bool true, [.object [("v", .bool true)]]⟩] []).result = .ok programs) ∧
      ∃ text, (Synthesis.run Filter.oracle ⟨0, 1, .firstMismatch, true⟩
        [⟨.bool true, [.object [("v", .bool true)], .object [("v", .bool false)]]⟩] []).result =
          .error (.unverified text) := by
  have modest : ∀ value, Json.WellFormed (.object [("v", .bool value)]) ∧
      (Json.object [("v", .bool value)]).depth < outputNesting := by
    intro value
    refine ⟨.object (List.nodup_singleton _) (List.forall_mem_singleton.mpr (.bool value)), ?_⟩
    cases value <;> decide
  have identity : Filter.oracle.answer (Program.pipeline .identity).text (.bool true) =
      [.bool true] := by
    have distinct : (Program.pipeline .identity).HasDistinctKeys := trivial
    rw [Oracle.answer, Filter.oracle_program distinct]
    rfl
  have field : Solvable .bool (.ofLiterals []) 0 [⟨.bool true, [.bool true]⟩] := by
    refine .pipeline ⟨[], .identity, .bool, rfl, Nat.le_refl _, List.forall_mem_singleton.mpr ?_⟩
    rw [identity]
    rfl
  constructor
  · have alone : ∀ tried ∈ [(⟨.bool true, [.object [("v", .bool true)]]⟩ : Example)],
        tried.IsModest :=
      List.forall_mem_singleton.mpr fun _ member => List.mem_singleton.mp member ▸ modest true
    refine (synthesis_succeeds_iff_solvable ⟨0, 1, .firstMismatch, true⟩ rfl _ [] alone).1.mpr
      ⟨List.cons_ne_nil _ _, ?_⟩
    have asks : Example.AsksForRecord ["v"] ⟨.bool true, [.object [("v", .bool true)]]⟩ :=
      ⟨_, rfl, fun _ => Iff.rfl⟩
    refine .record (List.forall_mem_singleton.mpr asks) fun key listed => ?_
    rw [List.mem_singleton.mp listed]
    exact field
  · have both : ∀ tried ∈ [(⟨.bool true,
        [.object [("v", .bool true)], .object [("v", .bool false)]]⟩ : Example)],
        tried.IsModest := by
      refine List.forall_mem_singleton.mpr (List.forall_mem_cons.mpr ⟨modest true, ?_⟩)
      exact fun _ member => List.mem_singleton.mp member ▸ modest false
    refine ((synthesis_succeeds_iff_solvable ⟨0, 1, .firstMismatch, true⟩ rfl _ [] both).2
      [.object [("v", .bool true)]] [("v", .bool)] .bool ?_ rfl rfl ?_).mpr
        ⟨_, List.mem_cons_self, Or.inl (by decide)⟩
    · intro reachable
      obtain ⟨path, pipeline, last, leads, within, reproduces⟩ := reachable
      obtain rfl := List.length_eq_zero_iff.mp (Nat.le_zero.mp within)
      cases leads
      have answer := reproduces _ List.mem_cons_self
      rw [identity] at answer
      cases answer
    · intro key listed
      rw [List.mem_singleton.mp listed]
      exact field

end FilterSynthesis
