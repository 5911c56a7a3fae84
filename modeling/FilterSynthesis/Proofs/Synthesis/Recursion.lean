import FilterSynthesis.Proofs.Evaluation
import FilterSynthesis.Proofs.Json.Nesting
import FilterSynthesis.Proofs.Synthesis.Failures
import FilterSynthesis.Proofs.Synthesis.Records

/-!
The recursion of a synthesis. One level of it is written down with the levels below left open; it
asks these only for the fields that the first outputs share. What it then passes on are parts of the
first outputs, so the recursion is well-founded, and the levels determine one synthesis. It goes no
deeper than objects are nested in any first output, and it starts no more searches than the first of
them has entries, apart from its own and perhaps one more for the first outputs alone. -/

namespace FilterSynthesis

mutual

def Program.nesting : Program → Nat
  | .pipeline _ => 0
  | .record fields => nestingOfFields fields + 1

def Program.nestingOfFields : List (String × Program) → Nat
  | [] => 0
  | (_, program) :: rest => max program.nesting (nestingOfFields rest)

end

theorem Program.nestingOfFields_le_iff {fields : List (String × Program)} {bound : Nat} :
    nestingOfFields fields ≤ bound ↔ ∀ field ∈ fields, field.2.nesting ≤ bound := by
  induction fields with
  | nil => simp [nestingOfFields]
  | cons field rest induction => rw [nestingOfFields, Nat.max_le, induction, List.forall_mem_cons]

def Example.nesting (tried : Example) : Nat :=
  match tried.output with
  | [] => 0
  | head :: _ => head.nesting

theorem Example.ProjectsTo.nesting_lt {key : String} {tried projected : Example}
    (projects : tried.ProjectsTo key projected) : projected.nesting < tried.nesting := by
  obtain ⟨head, others, held, output, found, rfl⟩ := projects
  simp only [Example.nesting, output]
  exact Json.nesting_lt_of_lookup found

theorem Trace.searches_bind_le {α β : Type} {trace : Trace α} {next : α → Trace β}
    {before later : Nat} (first : trace.searches ≤ before)
    (second : ∀ value, (next value).searches ≤ later) :
    (trace.bind next).searches ≤ before + later := by
  cases ends : trace.result with
  | error error =>
      rw [Trace.bind_of_error ends]
      exact Nat.le_add_right_of_le first
  | ok value =>
      rw [Trace.bind_of_ok ends]
      exact Nat.add_le_add first (second value)

namespace Synthesis

section

variable (task : Task) (constants : Constants)

def recordOver (find : String → Trace (List Program)) (depth : Nat) :
    List String → Trace (List (String × Program))
  | [] => { result := .ok [], calls := [], searches := 0 }
  | key :: rest =>
      (find key).bind fun
        | program :: _ => (recordOver find depth rest).map ((key, program) :: ·)
        | [] => .fail (.outOfDepth depth)

def assembledOver (below : List Example → Trace (List Program)) (examples : List Example)
    (depth : Nat) : Trace Program :=
  match heads? examples with
  | none => .fail (.outOfDepth depth)
  | some heads =>
      match Schema.common heads with
      | .dict fields _ =>
          (recordOver (fun key => below (examples.map (·.under key))) depth
            (Entries.keys fields)).bind fun record =>
              verified task examples constants (.record record)
      | _ => (wrapped task examples heads constants depth).bind (verified task examples constants)

def level (below : List Example → Trace (List Program)) (examples : List Example)
    (wanted : Nat) : Trace (List Program) :=
  (pipelines task examples constants task.settings.depth wanted).bind fun
    | .found first others =>
        { result := .ok ((first :: others).map .pipeline), calls := [], searches := 0 }
    | .exhausted depth => (assembledOver task constants below examples depth).map ([·])

end

/-- The second examples are passed on by the level for the first, for one of its fields. -/
inductive Nests (examples : List Example) : List Example → Prop
  | field {heads : List Json} {fields : List (String × Schema)} {values : Schema} {key : String}
      (firsts : heads? examples = some heads) (shared : Schema.common heads = .dict fields values)
      (listed : key ∈ Entries.keys fields) : Nests examples (examples.map (·.under key))

variable {task : Task} {constants : Constants} {examples nested : List Example}
  {below others : List Example → Trace (List Program)} {depth : Nat} {α : Type}

theorem recordOver_congr {find again : String → Trace (List Program)} {keys : List String}
    (same : ∀ key ∈ keys, find key = again key) :
    recordOver find depth keys = recordOver again depth keys := by
  induction keys with
  | nil => rfl
  | cons key rest induction =>
      obtain ⟨here, there⟩ := List.forall_mem_cons.mp same
      rw [recordOver, recordOver, here, induction there]

theorem level_congr (same : ∀ nested, Nests examples nested → below nested = others nested)
    (wanted : Nat) :
    level task constants below examples wanted = level task constants others examples wanted := by
  suffices ∀ depth, assembledOver task constants below examples depth =
      assembledOver task constants others examples depth by simp only [level, this]
  intro depth
  unfold assembledOver
  cases firsts : heads? examples with
  | none => rfl
  | some heads =>
      dsimp only
      split
      · rename_i fields values shared
        rw [recordOver_congr fun key listed => same _ (.field firsts shared listed)]
      · rfl

theorem fieldPrograms_eq_recordOver {heads : List Json} {bound : Nat}
    {fewer : ∀ key, headDepth (withOutputs examples (heads.map (project key))) < bound}
    (firsts : heads? examples = some heads) (keys : List String) :
    fieldPrograms task examples heads bound fewer constants depth keys =
      recordOver (fieldTrace task constants examples) depth keys := by
  induction keys with
  | nil => rw [fieldPrograms, recordOver]
  | cons key rest induction =>
      rewrite [fieldPrograms, recordOver, withOutputs_project firsts, induction, fieldTrace]
      rfl

/-- A synthesis is the level that has itself below it. -/
theorem programs_eq_level (task : Task) (constants : Constants) (examples : List Example)
    (wanted : Nat) :
    programs task examples constants wanted =
      level task constants (fun nested => programs task nested constants 1) examples wanted := by
  suffices assembled task examples constants =
      assembledOver task constants (fun nested => programs task nested constants 1) examples by
    rewrite [programs, level, this]
    rfl
  funext depth
  unfold assembledOver
  cases firsts : heads? examples with
  | none => exact assembled_of_no_heads firsts
  | some heads =>
      dsimp only
      split
      · rename_i fields values shared
        rw [assembled_of_dict firsts shared, fieldPrograms_eq_recordOver firsts]
        rfl
      · rename_i noDict
        exact assembled_of_no_dict firsts noDict

theorem Nests.exists_under (nests : Nests examples nested) :
    ∃ key, nested = examples.map (·.under key) ∧
      ∀ tried ∈ examples, tried.ProjectsTo key (tried.under key) := by
  cases nests with
  | @field heads fields values key firsts shared listed =>
      have projects := projectsTo_withOutputs firsts
        ((Schema.mem_keys_common_iff shared).mp listed)
      rw [withOutputs_project firsts, List.forall₂_map_right_iff, List.forall₂_same] at projects
      exact ⟨key, rfl, projects⟩

theorem nests_wellFounded : WellFounded fun nested examples => Nests examples nested := by
  have fewer : ∀ {nested examples}, Nests examples nested →
      headDepth nested < headDepth examples := by
    intro nested examples nests
    cases nests with
    | @field heads fields values key firsts shared listed =>
        rw [← withOutputs_project firsts]
        exact headDepth_project_lt firsts shared key
  exact Subrelation.wf fewer (measure headDepth).wf

theorem eq_programs_of_level {solution : List Example → Nat → Trace (List Program)}
    (solves : ∀ examples wanted, solution examples wanted =
      level task constants (fun nested => solution nested 1) examples wanted)
    (examples : List Example) (wanted : Nat) :
    solution examples wanted = programs task examples constants wanted := by
  induction examples using nests_wellFounded.induction generalizing wanted with
  | _ examples induction =>
      rw [solves, programs_eq_level]
      exact level_congr (fun nested nests => induction nested nests 1) wanted

theorem Nests.exists_nesting_lt (nests : Nests examples nested) {tried : Example}
    (member : tried ∈ examples) : ∃ projected ∈ nested, projected.nesting < tried.nesting := by
  obtain ⟨key, rfl, projects⟩ := nests.exists_under
  exact ⟨tried.under key, List.mem_map_of_mem member, (projects tried member).nesting_lt⟩

theorem length_le_nesting {levels : List (List Example)}
    (chain : (examples :: levels).IsChain Nests) {tried : Example} (member : tried ∈ examples) :
    levels.length ≤ tried.nesting := by
  induction levels generalizing examples tried with
  | nil => exact Nat.zero_le _
  | cons next deeper induction =>
      obtain ⟨nests, further⟩ := List.isChain_cons_cons.mp chain
      obtain ⟨projected, listed, less⟩ := nests.exists_nesting_lt member
      have rest := induction further listed
      rw [List.length_cons]
      omega

theorem nesting_pos {heads : List Json} {fields : List (String × Schema)} {values : Schema}
    (firsts : heads? examples = some heads) (shared : Schema.common heads = .dict fields values)
    {tried : Example} (member : tried ∈ examples) : 0 < tried.nesting := by
  obtain ⟨head, within, others, output⟩ := exists_head firsts member
  obtain ⟨members, rfl⟩ := Schema.isObject_of_common shared within
  simp only [Example.nesting, output, Json.nesting]
  exact Nat.succ_pos _

theorem nesting_program_le {wanted : Nat} {found : List Program}
    (ends : (programs task examples constants wanted).result = .ok found) {program : Program}
    (listed : program ∈ found) {tried : Example} (member : tried ∈ examples) :
    program.nesting ≤ tried.nesting := by
  induction examples using nests_wellFounded.induction
    generalizing wanted found program tried with
  | _ examples induction =>
      rcases programs_cases ends with ⟨first, others, rfl, _⟩ | ⟨answer, rfl, ended⟩
      · obtain ⟨operators, _, rfl⟩ := List.mem_map.mp listed
        exact Nat.zero_le _
      · cases List.mem_singleton.mp listed
        obtain ⟨heads, firsts, ⟨fields, values, record, shared, keys, found, reviewed⟩ |
          ⟨_, candidate, wraps, reviewed⟩⟩ := exists_heads_of_assembled ended
        · obtain rfl := eq_of_verified reviewed
          have positive : 0 < tried.nesting := nesting_pos firsts shared member
          have each : ∀ field ∈ record, field.2.nesting ≤ tried.nesting - 1 := by
            intro field within
            have nests : Nests examples (examples.map (·.under field.1)) :=
              .field firsts shared (keys ▸ List.mem_map_of_mem within)
            obtain ⟨others, here⟩ := found field within
            rw [withOutputs_project firsts] at here
            obtain ⟨projected, among, less⟩ := nests.exists_nesting_lt member
            have shallow := induction _ nests here List.mem_cons_self among
            omega
          rw [Program.nesting]
          have bound := Program.nestingOfFields_le_iff.mpr each
          omega
        · obtain rfl := eq_of_verified reviewed
          obtain ⟨_, operators, _, _, rfl, _⟩ := exists_pipeline_of_wrapped wraps
          exact Nat.zero_le _

def headEntries : List Example → Nat
  | [] => 0
  | first :: _ =>
      match first.output with
      | [] => 0
      | head :: _ => head.entries

/-- The first outputs are not all objects and not all of the outputs, so a pipeline for them alone
is searched for. -/
def Wraps (examples : List Example) : Prop :=
  (∃ tried ∈ examples, tried.output.length ≠ 1) ∧ ∃ heads, heads? examples = some heads ∧
    ∀ fields values, Schema.common heads ≠ .dict fields values

theorem Nests.not_wraps (nests : Nests examples nested) : ¬Wraps nested := by
  obtain ⟨key, rfl, projects⟩ := nests.exists_under
  rintro ⟨⟨projected, listed, several⟩, _⟩
  obtain ⟨tried, member, rfl⟩ := List.mem_map.mp listed
  obtain ⟨_, _, _, _, _, single⟩ := projects tried member
  rw [single] at several
  exact several rfl

/-- The first outputs under shared keys are entries of the first output, and so are their
entries. -/
theorem sum_headEntries_le {heads : List Json} {fields : List (String × Schema)} {values : Schema}
    (firsts : heads? examples = some heads) (shared : Schema.common heads = .dict fields values)
    (wellFormed : ∀ tried ∈ examples, ∀ output ∈ tried.output, output.WellFormed) :
    ((Entries.keys fields).map fun key => 1 + headEntries (examples.map (·.under key))).sum ≤
      headEntries examples := by
  obtain ⟨members, rest, rfl⟩ := Schema.exists_objects_of_common shared
  cases examples with
  | nil => cases firsts
  | cons tried others =>
      have equal := heads?_eq_some_iff.mp firsts
      rw [List.map_cons, List.map_cons, List.map_cons, List.cons.injEq] at equal
      obtain ⟨more, output⟩ := List.head?_eq_some_iff.mp equal.1
      have object := wellFormed tried List.mem_cons_self (.object members)
        (by rw [output]; exact List.mem_cons_self)
      have distinct : (Entries.keys members).Nodup := by
        cases object with
        | object keys each => exact keys
      have entry : ∀ member ∈ members,
          headEntries ((tried :: others).map (·.under member.1)) = member.2.entries := by
        intro member listed
        have found := Entries.lookup_of_mem distinct listed
        simp [headEntries, Example.under, output, project, Json.lookup?, found]
      calc ((Entries.keys fields).map fun key =>
            1 + headEntries ((tried :: others).map (·.under key))).sum
        _ ≤ ((Entries.keys members).map fun key =>
            1 + headEntries ((tried :: others).map (·.under key))).sum := by
          rw [Schema.keys_common shared]
          exact (List.filter_sublist.map _).sum_le_sum fun _ _ => Nat.zero_le _
        _ = (members.map fun member => 1 + member.2.entries).sum := by
          rw [Entries.keys, List.map_map]
          refine congrArg List.sum (List.map_congr_left fun member listed => ?_)
          rw [Function.comp_apply, entry member listed]
        _ = headEntries (tried :: others) := by
          simp only [headEntries, output, Json.entries_object]

theorem searches_recordOver_le {find : String → Trace (List Program)} {cost : String → Nat}
    {keys : List String} (each : ∀ key ∈ keys, (find key).searches ≤ cost key) :
    (recordOver find depth keys).searches ≤ (keys.map cost).sum := by
  induction keys with
  | nil => exact Nat.zero_le _
  | cons key rest induction =>
      obtain ⟨here, there⟩ := List.forall_mem_cons.mp each
      rw [recordOver, List.map_cons, List.sum_cons]
      refine Trace.searches_bind_le here fun found => ?_
      cases found with
      | nil => exact Nat.zero_le _
      | cons program others => exact induction there

theorem searches_bind_verified (trace : Trace α) (program : α → Program) :
    (trace.bind fun found => verified task examples constants (program found)).searches ≤
      trace.searches := by
  have asksOnly : ∀ found, (verified task examples constants (program found)).searches ≤ 0 := by
    intro found
    unfold verified
    split <;> exact Nat.le_refl 0
  exact Trace.searches_bind_le (Nat.le_refl _) asksOnly

theorem searches_wrapped_le (heads : List Json) :
    (wrapped task examples heads constants depth).searches ≤ 1 := by
  unfold wrapped
  split
  · exact Nat.zero_le 1
  · show _ ≤ 1 + 0
    refine Trace.searches_bind_le (Nat.le_refl 1) fun found => ?_
    split <;> exact Nat.le_refl 0

theorem searches_wrapped_of_single (single : ∀ tried ∈ examples, tried.output.length = 1)
    (heads : List Json) : (wrapped task examples heads constants depth).searches = 0 := by
  have all : (examples.all fun tried => tried.output.length == 1) = true := by simpa using single
  rw [wrapped, if_pos all]
  rfl

theorem searches_assembled_of_dict {heads : List Json} {fields : List (String × Schema)}
    {values : Schema} (firsts : heads? examples = some heads)
    (shared : Schema.common heads = .dict fields values)
    (wellFormed : ∀ tried ∈ examples, ∀ output ∈ tried.output, output.WellFormed)
    (each : ∀ key ∈ Entries.keys fields, (fieldTrace task constants examples key).searches ≤
      1 + headEntries (examples.map (·.under key))) :
    (assembled task examples constants depth).searches ≤ headEntries examples := by
  rw [assembled_of_dict firsts shared, fieldPrograms_eq_recordOver firsts]
  calc _
    _ ≤ _ := searches_bind_verified _ _
    _ ≤ _ := searches_recordOver_le each
    _ ≤ headEntries examples := sum_headEntries_le firsts shared wellFormed

theorem searches_assembled_of_no_dict {heads : List Json} (firsts : heads? examples = some heads)
    (noDict : ∀ fields values, Schema.common heads ≠ .dict fields values) :
    (assembled task examples constants depth).searches ≤
      (wrapped task examples heads constants depth).searches := by
  rw [assembled_of_no_dict firsts noDict]
  exact searches_bind_verified _ id

theorem searches_programs_of_assembled {cost : Nat}
    (fallback : ∀ depth, (assembled task examples constants depth).searches ≤ cost) (wanted : Nat) :
    (programs task examples constants wanted).searches ≤ 1 + cost := by
  rw [programs]
  refine Trace.searches_bind_le (Nat.le_refl 1) fun outcome => ?_
  cases outcome with
  | found first others => exact Nat.zero_le cost
  | exhausted depth => exact fallback depth

theorem searches_programs_le
    (wellFormed : ∀ tried ∈ examples, ∀ output ∈ tried.output, output.WellFormed)
    (fits : ¬Wraps examples) (wanted : Nat) :
    (programs task examples constants wanted).searches ≤ 1 + headEntries examples := by
  induction examples using nests_wellFounded.induction generalizing wanted with
  | _ examples induction =>
      refine searches_programs_of_assembled (fun depth => ?_) wanted
      cases firsts : heads? examples with
      | none =>
          rw [assembled_of_no_heads firsts]
          exact Nat.zero_le _
      | some heads =>
          by_cases isDict : ∃ fields values, Schema.common heads = .dict fields values
          · obtain ⟨fields, values, shared⟩ := isDict
            refine searches_assembled_of_dict firsts shared wellFormed fun key listed => ?_
            have nests := Nests.field firsts shared listed
            exact induction _ nests (wellFormed_under wellFormed key) nests.not_wraps 1
          · have noDict : ∀ fields values, Schema.common heads ≠ .dict fields values :=
              fun fields values shared => isDict ⟨fields, values, shared⟩
            have single : ∀ tried ∈ examples, tried.output.length = 1 := by
              intro tried member
              by_contra several
              exact fits ⟨⟨tried, member, several⟩, heads, firsts, noDict⟩
            calc (assembled task examples constants depth).searches
              _ ≤ _ := searches_assembled_of_no_dict firsts noDict
              _ = 0 := searches_wrapped_of_single single heads
              _ ≤ headEntries examples := Nat.zero_le _

theorem searches_programs_of_wraps (wraps : Wraps examples) (wanted : Nat) :
    (programs task examples constants wanted).searches ≤ 2 := by
  obtain ⟨_, heads, firsts, noDict⟩ := wraps
  have once : ∀ depth, (assembled task examples constants depth).searches ≤ 1 := fun _ =>
    (searches_assembled_of_no_dict firsts noDict).trans (searches_wrapped_le heads)
  exact searches_programs_of_assembled once wanted

end Synthesis

/-- The recursion of a synthesis ends, and its levels determine what it ends in. Each level passes
on parts of the first outputs, one for each example, so no run of levels and no answer is nested
deeper than any of the first outputs. Beyond its own search a synthesis starts at most one for each
entry of the first example's first output, or else one for the first outputs alone. -/
theorem fallback_recursion_ends (task : Task) (constants : Constants) :
    (WellFounded fun nested examples => Synthesis.Nests examples nested) ∧
      (∀ examples nested, Synthesis.Nests examples nested →
        ∃ key, nested = examples.map (·.under key) ∧
          ∀ tried ∈ examples, tried.ProjectsTo key (tried.under key)) ∧
      (∀ below others examples wanted,
        (∀ nested, Synthesis.Nests examples nested → below nested = others nested) →
          Synthesis.level task constants below examples wanted =
            Synthesis.level task constants others examples wanted) ∧
      (∀ solution : List Example → Nat → Trace (List Program),
        (∀ examples wanted, solution examples wanted =
          Synthesis.level task constants (fun nested => solution nested 1) examples wanted) ↔
        ∀ examples wanted,
          solution examples wanted = Synthesis.programs task examples constants wanted) ∧
      (∀ examples levels, (examples :: levels).IsChain Synthesis.Nests →
        ∀ tried ∈ examples, levels.length ≤ tried.nesting) ∧
      (∀ examples wanted found,
        (Synthesis.programs task examples constants wanted).result = .ok found →
          ∀ program ∈ found, ∀ tried ∈ examples, program.nesting ≤ tried.nesting) ∧
      ∀ examples wanted,
        (∀ tried ∈ examples, ∀ output ∈ tried.output, output.WellFormed) →
          (Synthesis.programs task examples constants wanted).searches ≤
              1 + Synthesis.headEntries examples ∨
            Synthesis.Wraps examples ∧
              (Synthesis.programs task examples constants wanted).searches ≤ 2 := by
  refine ⟨Synthesis.nests_wellFounded, fun _ _ => Synthesis.Nests.exists_under,
    fun _ _ _ wanted same => Synthesis.level_congr same wanted, fun solution => ?_,
    fun _ _ chain _ => Synthesis.length_le_nesting chain,
    fun _ _ _ ends _ listed _ => Synthesis.nesting_program_le ends listed,
    fun examples wanted wellFormed => ?_⟩
  · constructor
    · exact Synthesis.eq_programs_of_level
    · intro same examples wanted
      simp only [same]
      exact Synthesis.programs_eq_level task constants examples wanted
  · by_cases wraps : Synthesis.Wraps examples
    · exact .inr ⟨wraps, Synthesis.searches_programs_of_wraps wraps wanted⟩
    · exact .inl (Synthesis.searches_programs_le wellFormed wraps wanted)

theorem nested_record_attains_bounds :
    let task : Task := ⟨Filter.oracle, ⟨1, 2, .aggregate, true⟩, .dict [("a", .bool)] .bool⟩
    let examples : List Example :=
      [⟨.object [("a", .bool true)], [.object [("v", .object [("w", .bool true)])]]⟩]
    let program : Program := .record [("v", .record [("w", .pipeline [.index "a"])])]
    let trace := Synthesis.programs task examples (.ofLiterals []) 2
    let levels : List (List Example) :=
      [[⟨.object [("a", .bool true)], [.object [("w", .bool true)]]⟩],
        [⟨.object [("a", .bool true)], [.bool true]⟩]]
    (examples :: levels).IsChain Synthesis.Nests ∧
      (∀ tried ∈ examples, levels.length ≤ tried.nesting ∧ tried.nesting = 2) ∧
      (trace.result = .ok [program] ∧ program.nesting = 2 ∧ trace.searches = 3) ∧
      (∀ tried ∈ examples, program.nesting ≤ tried.nesting) ∧
      trace.searches ≤ 1 + Synthesis.headEntries examples ∧
      Synthesis.headEntries examples = 2 := by
  intro task examples program trace levels
  obtain ⟨_, _, _, _, deep, shallow, few⟩ := fallback_recursion_ends task (.ofLiterals [])
  have chain : (examples :: levels).IsChain Synthesis.Nests := by
    have first : Synthesis.Nests examples (examples.map (·.under "v")) :=
      .field rfl rfl (by exact List.mem_cons_self)
    have second : Synthesis.Nests (examples.map (·.under "v"))
        ((examples.map (·.under "v")).map (·.under "w")) :=
      .field rfl rfl (by exact List.mem_cons_self)
    exact .cons_cons first (.cons_cons second (.singleton _))
  have ends : trace.result = .ok [program] := by
    unfold trace task examples program
    cbv
  have searches : trace.searches = 3 := by
    unfold trace task examples
    cbv
  have inner : (Json.object [("w", .bool true)]).WellFormed :=
    .object (List.nodup_singleton _) (List.forall_mem_singleton.mpr (.bool true))
  have outer : (Json.object [("v", .object [("w", .bool true)])]).WellFormed :=
    .object (List.nodup_singleton _) (List.forall_mem_singleton.mpr inner)
  refine ⟨chain, List.forall_mem_singleton.mpr ⟨?_, rfl⟩, ⟨ends, rfl, searches⟩,
    List.forall_mem_singleton.mpr ?_, ?_, rfl⟩
  · exact deep examples levels chain _ List.mem_cons_self
  · exact shallow examples 2 _ ends program List.mem_cons_self _ List.mem_cons_self
  · rcases few examples 2 (List.forall_mem_singleton.mpr (List.forall_mem_singleton.mpr outer)) with
      bounded | ⟨⟨several, _⟩, _⟩
    · exact bounded
    · obtain ⟨tried, listed, differs⟩ := several
      cases List.mem_singleton.mp listed
      exact absurd rfl differs

end FilterSynthesis
