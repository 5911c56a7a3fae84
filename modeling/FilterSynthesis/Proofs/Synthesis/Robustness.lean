import FilterSynthesis.Proofs.Evaluation
import FilterSynthesis.Proofs.Schema.Correspondence
import FilterSynthesis.Proofs.Synthesis.Assemblable

/-!
Whether a synthesis succeeds depends on which examples and constants there are, not on their order,
nor on how candidates are scored or how many answers are wanted; and what succeeds keeps succeeding
with longer pipelines and more constants. The runs have little in common: they find other programs,
and one may answer with a pipeline where the other assembles a record. So it is what they succeed on
that is compared, which says nothing of order.
-/

namespace FilterSynthesis

structure Widens (schema : Schema) (few : Constants) (depth : Nat) (other : Schema)
    (many : Constants) (bound : Nat) : Prop where
  distinct : schema.Distinct
  alike : schema.Alike other
  within : few.Within many
  deeper : depth ≤ bound

section

variable {schema other : Schema} {few many : Constants} {depth bound : Nat}
  {examples others : List Example}

theorem IsReachable.widen (reachable : IsReachable schema few depth examples)
    (widens : Widens schema few depth other many bound)
    (fewer : ∀ tried ∈ others, tried ∈ examples) : IsReachable other many bound others := by
  obtain ⟨path, pipeline, last, leads, short, reproduces⟩ := reachable
  obtain ⟨again, reached, leadsAgain, length⟩ :=
    widens.alike.exists_follow widens.distinct widens.within leads
  refine ⟨again, pipeline, reached, leadsAgain, ?_, fun tried member => ?_⟩
  · rw [length]
    exact short.trans widens.deeper
  · exact reproduces tried (fewer tried member)

theorem mem_map_iff_of_mem_iff {α β : Type} {lefts rights : List α}
    (same : ∀ value, value ∈ lefts ↔ value ∈ rights) (change : α → β) (value : β) :
    value ∈ lefts.map change ↔ value ∈ rights.map change := by
  simp only [List.mem_map, same]

theorem Solvable.widen (solvable : Solvable schema few depth examples)
    (widens : Widens schema few depth other many bound)
    (same : ∀ tried, tried ∈ examples ↔ tried ∈ others) : Solvable other many bound others := by
  induction solvable generalizing others with
  | pipeline reachable =>
      exact .pipeline (reachable.widen widens fun tried => (same tried).mpr)
  | record records fields induction =>
      refine .record (fun tried member => records tried ((same tried).mpr member)) ?_
      intro key listed
      exact induction key listed (mem_map_iff_of_mem_iff same _)

namespace Synthesis

theorem mem_heads_iff {heads : List Json} (firsts : heads? examples = some heads) {head : Json} :
    head ∈ heads ↔ ∃ tried ∈ examples, tried.output.head? = some head := by
  have listed : some head ∈ heads.map some ↔ some head ∈ examples.map (·.output.head?) := by
    rw [heads?_eq_some_iff.mp firsts]
  simpa using listed

theorem exists_same_heads (same : ∀ tried, tried ∈ examples ↔ tried ∈ others) {heads : List Json}
    (firsts : heads? examples = some heads) :
    ∃ again, heads? others = some again ∧ ∀ head, head ∈ heads ↔ head ∈ again := by
  have some : ∀ tried ∈ others, tried.output ≠ [] :=
    fun tried member => output_ne_nil firsts ((same tried).mpr member)
  obtain ⟨again, firstsAgain⟩ := exists_heads some
  refine ⟨again, firstsAgain, fun head => ?_⟩
  simp only [mem_heads_iff firsts, mem_heads_iff firstsAgain, same]

end Synthesis

theorem Assemblable.widen (assemblable : Assemblable schema few depth examples)
    (widens : Widens schema few depth other many bound)
    (same : ∀ tried, tried ∈ examples ↔ tried ∈ others) : Assemblable other many bound others := by
  induction assemblable generalizing others with
  | pipeline reachable =>
      exact .pipeline (reachable.widen widens fun tried => (same tried).mpr)
  | record firsts shared each induction =>
      obtain ⟨heads, firstsAgain, sameHeads⟩ := Synthesis.exists_same_heads same firsts
      have alike := Schema.Alike.common sameHeads
      rw [shared] at alike
      obtain ⟨fields, values, sharedAgain⟩ := alike.exists_dict
      rw [sharedAgain] at alike
      refine .record firstsAgain sharedAgain fun key listed => ?_
      exact induction key (((Schema.alike_dict_iff.mp alike).1 key).mpr listed)
        (mem_map_iff_of_mem_iff same _)
  | first firsts noDict several reachable =>
      obtain ⟨heads, firstsAgain, sameHeads⟩ := Synthesis.exists_same_heads same firsts
      refine .first firstsAgain ?_ ?_ (reachable.widen widens ?_)
      · intro fields values sharedAgain
        have alike := (Schema.Alike.common sameHeads).symm
        rw [sharedAgain] at alike
        obtain ⟨others, rest, shared⟩ := alike.exists_dict
        exact noDict others rest shared
      · obtain ⟨tried, member, differs⟩ := several
        exact ⟨tried, (same tried).mp member, differs⟩
      · have alone := Synthesis.withOutputs_map firsts id
        have aloneAgain := Synthesis.withOutputs_map firstsAgain id
        rw [List.map_id] at alone aloneAgain
        rw [alone, aloneAgain]
        exact fun tried => (mem_map_iff_of_mem_iff same _ tried).mpr

end

namespace Synthesis

def Succeeds (settings : Settings) (examples : List Example) (constants : List Literal) : Prop :=
  ∃ found, (run Filter.oracle settings examples constants).result = .ok found

variable {settings : Settings} {examples others : List Example} {constants literals : List Literal}

theorem succeeds_iff_solvable (verifies : settings.verifyAssembled = true)
    (modest : ∀ tried ∈ examples, tried.IsModest) :
    Succeeds settings examples constants ↔
      examples ≠ [] ∧ Solvable (Schema.common (examples.map (·.input))) (.ofLiterals constants)
        settings.depth examples := by
  by_cases empty : examples = []
  · subst empty
    simp [Succeeds, run, Trace.fail]
  · rw [Succeeds, run_of_ne_nil empty, and_iff_right empty]
    constructor
    · intro succeeds
      obtain ⟨found, ends⟩ := succeeds
      exact (solves_of_programs verifies modest ends).2
    · exact fun solvable => exists_programs verifies solvable modest settings.wanted

theorem succeeds_iff_assemblable (waives : settings.verifyAssembled = false) :
    Succeeds settings examples constants ↔
      examples ≠ [] ∧ Assemblable (Schema.common (examples.map (·.input))) (.ofLiterals constants)
        settings.depth examples := by
  by_cases empty : examples = []
  · subst empty
    simp [Succeeds, run, Trace.fail]
  · rw [Succeeds, run_of_ne_nil empty, and_iff_right empty]
    constructor
    · intro succeeds
      obtain ⟨found, ends⟩ := succeeds
      exact assemblable_of_programs ends
    · intro assemblable
      obtain ⟨first, rest, ends⟩ :=
        exists_programs_of_assemblable waives assemblable settings.wanted
      exact ⟨first :: rest, ends⟩

theorem Succeeds.widen {wider : Settings} (succeeds : Succeeds settings examples constants)
    (inputs : ∀ tried ∈ examples, tried.input.WellFormed)
    (modest : ∀ tried ∈ examples, tried.IsModest)
    (sameReview : settings.verifyAssembled = wider.verifyAssembled)
    (deeper : settings.depth ≤ wider.depth) (same : ∀ tried, tried ∈ examples ↔ tried ∈ others)
    (within : ∀ literal ∈ constants, literal ∈ literals) : Succeeds wider others literals := by
  have widens : Widens (Schema.common (examples.map (·.input))) (.ofLiterals constants)
      settings.depth (Schema.common (others.map (·.input))) (.ofLiterals literals) wider.depth :=
    ⟨Schema.distinct_common (List.forall_mem_map.mpr inputs),
      Schema.Alike.common (mem_map_iff_of_mem_iff same _), Constants.within_ofLiterals within,
          deeper⟩
  have nonempty : examples ≠ [] → others ≠ [] := by
    intro some
    obtain ⟨tried, member⟩ := List.exists_mem_of_ne_nil examples some
    exact List.ne_nil_of_mem ((same tried).mp member)
  cases review : settings.verifyAssembled with
  | true =>
      have still : ∀ tried ∈ others, tried.IsModest :=
        fun tried member => modest tried ((same tried).mpr member)
      obtain ⟨some, solvable⟩ := (succeeds_iff_solvable review modest).mp succeeds
      exact (succeeds_iff_solvable (sameReview ▸ review) still).mpr
        ⟨nonempty some, solvable.widen widens same⟩
  | false =>
      obtain ⟨some, assemblable⟩ := (succeeds_iff_assemblable review).mp succeeds
      exact (succeeds_iff_assemblable (sameReview ▸ review)).mpr
        ⟨nonempty some, assemblable.widen widens same⟩

end Synthesis

/-- With or without a final review, the success of a synthesis depends on the examples and constants
that there are, in whatever order and however often, and not on the policy or the number of wanted
answers; and it is not lost when pipelines may be longer or more constants are at hand. -/
theorem success_is_robust (settings : Settings) (examples : List Example)
    (constants : List Literal) (inputs : ∀ tried ∈ examples, tried.input.WellFormed)
    (modest : ∀ tried ∈ examples, tried.IsModest) :
    (∀ others literals policy wanted, (∀ tried, tried ∈ examples ↔ tried ∈ others) →
      (∀ literal, literal ∈ constants ↔ literal ∈ literals) →
        (Synthesis.Succeeds { settings with policy, wanted } others literals ↔
          Synthesis.Succeeds settings examples constants)) ∧
    ∀ literals depth, settings.depth ≤ depth → (∀ literal ∈ constants, literal ∈ literals) →
      Synthesis.Succeeds settings examples constants →
        Synthesis.Succeeds { settings with depth } examples literals := by
  constructor
  · intro others literals policy wanted same known
    constructor
    · intro succeeds
      refine succeeds.widen ?_ ?_ rfl (Nat.le_refl _) (fun tried => (same tried).symm)
        fun literal => (known literal).mpr
      · exact fun tried member => inputs tried ((same tried).mpr member)
      · exact fun tried member => modest tried ((same tried).mpr member)
    · intro succeeds
      exact succeeds.widen inputs modest rfl (Nat.le_refl _) same fun literal => (known literal).mp
  · intro literals depth deeper within succeeds
    exact succeeds.widen inputs modest rfl deeper (fun _ => Iff.rfl) within

theorem shared_field_is_found :
    Synthesis.Succeeds ⟨1, 5, .aggregate, true⟩
      [⟨.object [("b", .null), ("a", .bool false)], [.bool false]⟩,
        ⟨.object [("a", .bool true), ("b", .string "x")], [.bool true]⟩,
        ⟨.object [("b", .null), ("a", .bool false)], [.bool false]⟩]
      [.bool true, .bool true] ∧
    Synthesis.Succeeds ⟨2, 1, .firstMismatch, true⟩
      [⟨.object [("a", .bool true), ("b", .string "x")], [.bool true]⟩,
        ⟨.object [("b", .null), ("a", .bool false)], [.bool false]⟩]
      [.str "x", .bool true] := by
  have inputs :
      ∀ tried ∈ [(⟨.object [("a", .bool true), ("b", .string "x")], [.bool true]⟩ : Example),
      ⟨.object [("b", .null), ("a", .bool false)], [.bool false]⟩], tried.input.WellFormed := by
    refine List.forall_mem_cons.mpr ⟨.object (by decide) ?_, List.forall_mem_singleton.mpr
      (.object (by decide) ?_)⟩
    · exact List.forall_mem_cons.mpr ⟨.bool true, List.forall_mem_singleton.mpr (.string "x")⟩
    · exact List.forall_mem_cons.mpr ⟨.null, List.forall_mem_singleton.mpr (.bool false)⟩
  have modest :
      ∀ tried ∈ [(⟨.object [("a", .bool true), ("b", .string "x")], [.bool true]⟩ : Example),
      ⟨.object [("b", .null), ("a", .bool false)], [.bool false]⟩], tried.IsModest := by
    refine List.forall_mem_cons.mpr ⟨List.forall_mem_singleton.mpr ⟨.bool true, by decide⟩,
      List.forall_mem_singleton.mpr (List.forall_mem_singleton.mpr ⟨.bool false, by decide⟩)⟩
  have succeeds : Synthesis.Succeeds ⟨1, 1, .firstMismatch, true⟩
      [⟨.object [("a", .bool true), ("b", .string "x")], [.bool true]⟩,
        ⟨.object [("b", .null), ("a", .bool false)], [.bool false]⟩] [.bool true] :=
    ⟨[.pipeline [.index "a"]], by cbv⟩
  obtain ⟨unordered, monotone⟩ :=
    success_is_robust ⟨1, 1, .firstMismatch, true⟩ _ [.bool true] inputs modest
  constructor
  · exact (unordered _ [.bool true, .bool true] .aggregate 5 (by simp [or_comm]) (by simp)).mpr
      succeeds
  · exact monotone [.str "x", .bool true] 2 (by decide) (by simp) succeeds

end FilterSynthesis
