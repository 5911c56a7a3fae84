import FilterSynthesis.Proofs.Entries
import FilterSynthesis.Proofs.Schema.Order

namespace FilterSynthesis

namespace Schema

variable {left right first second third : Schema}

structure Alike (left right : Schema) : Prop where
  below : Below left right
  above : Below right left

theorem Alike.refl (schema : Schema) : Alike schema schema := ⟨.refl schema, .refl schema⟩

theorem Alike.symm (alike : Alike left right) : Alike right left := ⟨alike.above, alike.below⟩

theorem alike_of_below_iff (same : ∀ schema, Below schema left ↔ Below schema right) :
    Alike left right :=
  ⟨(same left).mp (.refl left), (same right).mpr (.refl right)⟩

theorem same_dict_iff {lefts rights : List (String × Schema)}
    (distinctLeft : (Entries.keys lefts).Nodup) (distinctRight : (Entries.keys rights).Nodup) :
    (dict lefts left).same (dict rights right) = true ↔
      (∀ key, key ∈ Entries.keys lefts ↔ key ∈ Entries.keys rights) ∧
        (∀ entry ∈ lefts, ∀ other, rights.lookup entry.1 = some other →
          entry.2.same other = true) ∧ left.same right = true := by
  rw [Entries.same_keys_iff distinctLeft distinctRight]
  simp only [same, Bool.and_eq_true, beq_iff_eq, sameFields_iff]
  constructor
  · intro agree
    obtain ⟨⟨lengths, found⟩, values⟩ := agree
    refine ⟨⟨lengths, fun entry member => ?_⟩, ?_, values⟩
    · obtain ⟨other, there, _⟩ := found entry member
      exact Entries.mem_keys_iff.mpr ⟨other, there⟩
    · intro entry member other there
      obtain ⟨equal, found, same⟩ := found entry member
      cases there.symm.trans found
      exact same
  · intro agree
    obtain ⟨⟨lengths, keys⟩, fields, values⟩ := agree
    refine ⟨⟨lengths, fun entry member => ?_⟩, values⟩
    obtain ⟨other, there⟩ := Entries.mem_keys_iff.mp (keys entry member)
    exact ⟨other, there, fields entry member other there⟩

theorem alike_dict_iff {lefts rights : List (String × Schema)} :
    Alike (dict lefts left) (dict rights right) ↔
      (∀ key, key ∈ Entries.keys lefts ↔ key ∈ Entries.keys rights) ∧
        (∀ key first second, lefts.lookup key = some first → rights.lookup key = some second →
          Alike first second) ∧ Alike left right := by
  constructor
  · intro alike
    obtain ⟨below, above⟩ := alike
    cases below with
    | dict keys fields values =>
        cases above with
        | dict otherKeys otherFields otherValues =>
            refine ⟨fun key => ?_, fun key first second found reached =>
              ⟨fields key first second found reached, otherFields key second first reached found⟩,
              values, otherValues⟩
            rw [Entries.mem_keys_iff, Entries.mem_keys_iff]
            constructor
            · intro held
              obtain ⟨field, found⟩ := held
              exact keys key field found
            · intro held
              obtain ⟨field, found⟩ := held
              exact otherKeys key field found
  · intro parts
    obtain ⟨keys, fields, values⟩ := parts
    refine ⟨.dict ?_ ?_ values.below, .dict ?_ ?_ values.above⟩
    · intro key field found
      exact Entries.mem_keys_iff.mp ((keys key).mp (Entries.mem_keys_iff.mpr ⟨field, found⟩))
    · intro key first second found reached
      exact (fields key first second found reached).below
    · intro key field found
      exact Entries.mem_keys_iff.mp ((keys key).mpr (Entries.mem_keys_iff.mpr ⟨field, found⟩))
    · intro key first second found reached
      exact (fields key second first reached found).above

theorem alike_list_iff : Alike (list left) (list right) ↔ Alike left right := by
  constructor
  · intro alike
    obtain ⟨below, above⟩ := alike
    cases below with
    | list within =>
        cases above with
        | list others => exact ⟨within, others⟩
  · exact fun alike => ⟨.list alike.below, .list alike.above⟩

theorem Alike.exists_list {element : Schema} (alike : Alike (list element) right) :
    ∃ other, right = list other := by
  obtain ⟨below, above⟩ := alike
  cases below with
  | list within => exact ⟨_, rfl⟩
  | any => cases above

theorem Alike.exists_dict {fields : List (String × Schema)} {values : Schema}
    (alike : Alike (dict fields values) right) : ∃ others rest, right = dict others rest := by
  obtain ⟨below, above⟩ := alike
  cases below with
  | dict keys each rest => exact ⟨_, _, rfl⟩
  | any => cases above

theorem Alike.same (alike : Alike left right) (distinctLeft : left.Distinct)
    (distinctRight : right.Distinct) : left.same right = true := by
  induction distinctLeft generalizing right with
  | none | any | bool | int | str =>
      obtain ⟨below, above⟩ := alike
      cases below <;> cases above
      rfl
  | list within induction =>
      cases distinctRight with
      | list others => exact induction (alike_list_iff.mp alike) others
      | any => cases alike.above
      | _ => cases alike.below
  | dict keys each rest induction restInduction =>
      cases distinctRight with
      | dict otherKeys otherEach otherRest =>
          obtain ⟨agree, fields, values⟩ := alike_dict_iff.mp alike
          refine (same_dict_iff keys otherKeys).mpr ⟨agree, ?_, restInduction values otherRest⟩
          intro entry member other reached
          have found := Entries.lookup_of_mem keys member
          exact induction entry member (fields entry.1 entry.2 other found reached)
            (otherEach _ (Entries.mem_of_lookup reached))
      | any => cases alike.above
      | _ => cases alike.below

theorem Alike.meet_comm (left right : Schema) : Alike (left.meet right) (right.meet left) :=
  alike_of_below_iff fun _ => by rw [below_meet_iff, below_meet_iff, and_comm]

theorem Alike.meet_assoc (first second third : Schema) :
    Alike ((first.meet second).meet third) (first.meet (second.meet third)) :=
  alike_of_below_iff fun _ => by simp only [below_meet_iff, and_assoc]

theorem Alike.meet_self (schema : Schema) : Alike (schema.meet schema) schema :=
  alike_of_below_iff fun _ => by rw [below_meet_iff, and_self]

@[simp] theorem none_meet (schema : Schema) : meet .none schema = .none := by
  cases schema <;> rfl

@[simp] theorem meet_none (schema : Schema) : schema.meet .none = .none := by
  cases schema <;> rfl

theorem keys_meetFields (lefts rights : List (String × Schema)) :
    Entries.keys (meetFields lefts rights) =
      (Entries.keys lefts).filter fun key => key ∈ Entries.keys rights := by
  induction lefts with
  | nil => rfl
  | cons entry rest induction =>
      obtain ⟨key, left⟩ := entry
      rw [Entries.keys_cons, List.filter_cons, ← induction]
      cases found : rights.lookup key with
      | none => simp [meetFields, found, Entries.mem_keys_iff]
      | some right => simp [meetFields, found, Entries.mem_keys_iff]

theorem below_common_iff {schema : Schema} {values : List Json} :
    Below schema (common values) ↔ ∀ value ∈ values, Below schema (of value) := by
  rw [common, below_meetAll_iff, List.forall_mem_map]

theorem Alike.common {values others : List Json}
    (same : ∀ value, value ∈ values ↔ value ∈ others) :
    Alike (Schema.common values) (Schema.common others) :=
  alike_of_below_iff fun _ => by simp only [below_common_iff, same]

theorem Alike.meet_common {values firsts seconds : List Json}
    (parts : ∀ value, value ∈ values ↔ value ∈ firsts ∨ value ∈ seconds) :
    Alike ((Schema.common firsts).meet (Schema.common seconds)) (Schema.common values) :=
  alike_of_below_iff fun _ => by
    simp only [below_meet_iff, below_common_iff, parts, or_imp, forall_and]

/-- Up to the order of fields, the meet of schemas is commutative, associative and idempotent; no
evidence gives way to everything, and evidence that does not fit together absorbs everything. The
meet of dicts has the keys of both, in the order of the left. What values have in common is the
greatest schema that refines to the schema of each of them, and depends just on which values there
are. -/
theorem meet_is_semilattice :
    (∀ left right : Schema, left.Distinct → right.Distinct →
      (left.meet right).same (right.meet left) = true) ∧
    (∀ first second third : Schema, first.Distinct → second.Distinct → third.Distinct →
      ((first.meet second).meet third).same (first.meet (second.meet third)) = true) ∧
    (∀ schema : Schema, schema.Distinct → (schema.meet schema).same schema = true) ∧
    (∀ schema : Schema, any.meet schema = schema ∧ schema.meet any = schema ∧
      none.meet schema = none ∧ schema.meet none = none) ∧
    (∀ lefts rights left right, ∃ fields,
      (dict lefts left).meet (dict rights right) = dict fields (left.meet right) ∧
        Entries.keys fields =
          (Entries.keys lefts).filter (fun key => key ∈ Entries.keys rights) ∧
        ∀ key first second, lefts.lookup key = some first → rights.lookup key = some second →
          fields.lookup key = some (first.meet second)) ∧
    ∀ values : List Json, (∀ value ∈ values, value.WellFormed) →
      (∀ value ∈ values, (common values).Refines (of value)) ∧
      (∀ schema : Schema, schema.Distinct → (∀ value ∈ values, schema.Refines (of value)) →
        schema.Refines (common values)) ∧
      (∀ others, (∀ value, value ∈ values ↔ value ∈ others) →
        (common values).same (common others) = true) ∧
      ∀ firsts seconds, (∀ value, value ∈ values ↔ value ∈ firsts ∨ value ∈ seconds) →
        ((common firsts).meet (common seconds)).same (common values) = true := by
  refine ⟨?_, ?_, ?_, ?_, ?_, ?_⟩
  · intro left right distinctLeft distinctRight
    exact (Alike.meet_comm left right).same (distinctLeft.meet distinctRight)
      (distinctRight.meet distinctLeft)
  · intro first second third distinctFirst distinctSecond distinctThird
    exact (Alike.meet_assoc first second third).same
      ((distinctFirst.meet distinctSecond).meet distinctThird)
      (distinctFirst.meet (distinctSecond.meet distinctThird))
  · intro schema distinct
    exact (Alike.meet_self schema).same (distinct.meet distinct) distinct
  · exact fun schema => ⟨any_meet schema, meet_any schema, none_meet schema, meet_none schema⟩
  · intro lefts rights left right
    refine ⟨meetFields lefts rights, rfl, keys_meetFields lefts rights, ?_⟩
    intro key first second found reached
    rw [lookup_meetFields, found, reached]
    rfl
  · intro values wellFormed
    have distinct := distinct_common wellFormed
    refine ⟨?_, ?_, ?_, ?_⟩
    · intro value member
      exact (refines_iff_below distinct).mpr (common_below member)
    · intro schema distinctSchema lower
      refine (refines_iff_below distinctSchema).mpr (below_common_iff.mpr fun value member => ?_)
      exact (refines_iff_below distinctSchema).mp (lower value member)
    · intro others same
      exact (Alike.common same).same distinct
        (distinct_common fun value member => wellFormed value ((same value).mpr member))
    · intro firsts seconds parts
      have distinctFirsts := distinct_common fun value member =>
        wellFormed value ((parts value).mpr (.inl member))
      have distinctSeconds := distinct_common fun value member =>
        wellFormed value ((parts value).mpr (.inr member))
      exact (Alike.meet_common parts).same (distinctFirsts.meet distinctSeconds) distinct

theorem fields_meet_in_any_order :
    ((dict [("x", .int), ("y", .str)] .none).meet (dict [("y", .int), ("x", .int)] .int)).same
        ((dict [("y", .int), ("x", .int)] .int).meet (dict [("x", .int), ("y", .str)] .none)) =
      true ∧
    (((dict [("x", .int), ("y", .str)] .none).meet (dict [("y", .int), ("x", .int)] .int)).meet
        (list .any)).same
      ((dict [("x", .int), ("y", .str)] .none).meet
        ((dict [("y", .int), ("x", .int)] .int).meet (list .any))) = true ∧
    ((dict [("x", .int), ("y", .str)] .none).meet (dict [("x", .int), ("y", .str)] .none)).same
      (dict [("x", .int), ("y", .str)] .none) = true ∧
    (common [.object [("x", .bool true)], .object [("y", .null), ("x", .bool false)]]).Refines
      (of (.object [("y", .null), ("x", .bool false)])) ∧
    (dict [("x", .bool)] .none).Refines
      (common [.object [("x", .bool true)], .object [("y", .null), ("x", .bool false)]]) ∧
    (common [.object [("x", .bool true)], .object [("y", .null), ("x", .bool false)]]).same
      (common [.object [("y", .null), ("x", .bool false)], .object [("x", .bool true)],
        .object [("y", .null), ("x", .bool false)]]) = true ∧
    ((common [.object [("x", .bool true)]]).meet
        (common [.object [("y", .null), ("x", .bool false)]])).same
      (common [.object [("x", .bool true)], .object [("y", .null), ("x", .bool false)]]) =
          true := by
  have left : Distinct (dict [("x", .int), ("y", .str)] .none) :=
    .dict (by decide) (List.forall_mem_cons.mpr ⟨.int, List.forall_mem_singleton.mpr .str⟩) .none
  have right : Distinct (dict [("y", .int), ("x", .int)] .int) :=
    .dict (by decide) (List.forall_mem_cons.mpr ⟨.int, List.forall_mem_singleton.mpr .int⟩) .int
  have bottom : Distinct (dict [("x", .bool)] .none) :=
    .dict (by decide) (List.forall_mem_singleton.mpr .bool) .none
  have wellFormed : ∀ value ∈ [Json.object [("x", .bool true)],
      .object [("y", .null), ("x", .bool false)]], value.WellFormed :=
    List.forall_mem_cons.mpr ⟨.object (by decide) (List.forall_mem_singleton.mpr (.bool true)),
      List.forall_mem_singleton.mpr (.object (by decide)
        (List.forall_mem_cons.mpr ⟨.null, List.forall_mem_singleton.mpr (.bool false)⟩))⟩
  obtain ⟨commutes, associates, repeats, -, -, meets⟩ := meet_is_semilattice
  obtain ⟨lower, greatest, unordered, split⟩ := meets _ wellFormed
  refine ⟨commutes _ _ left right, associates _ _ _ left right (.list .any), repeats _ left,
    lower _ (by simp), greatest _ bottom ?_, unordered _ (by simp [or_comm]), split _ _ (by simp)⟩
  exact List.forall_mem_cons.mpr ⟨rfl, List.forall_mem_singleton.mpr rfl⟩

example : (dict [("x", .int), ("y", .str)] .none).meet (dict [("y", .int), ("x", .int)] .int) =
    dict [("x", .int), ("y", .none)] .none := rfl

end Schema

end FilterSynthesis
