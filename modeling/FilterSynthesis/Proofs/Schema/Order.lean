import FilterSynthesis.Proofs.Json.WellFormed
import FilterSynthesis.Schema.Basic

/-!
The order of schemas. A schema lies below another one if it asks for at least as much; the meet of
two schemas is the greatest schema below both. As equality of schemas does not count the order of
fields, lying below is a relation of its own here and is compared with the meet afterwards.
-/

namespace FilterSynthesis

namespace Schema

inductive Below : Schema → Schema → Prop
  | none (wider : Schema) : Below .none wider
  | any (narrower : Schema) : Below narrower .any
  | bool : Below .bool .bool
  | int : Below .int .int
  | str : Below .str .str
  | list {left right : Schema} (elements : Below left right) : Below (.list left) (.list right)
  | dict {lefts rights : List (String × Schema)} {left right : Schema}
      (keys : ∀ key narrower, lefts.lookup key = some narrower →
        ∃ wider, rights.lookup key = some wider)
      (fields : ∀ key narrower wider, lefts.lookup key = some narrower →
        rights.lookup key = some wider → Below narrower wider)
      (values : Below left right) : Below (.dict lefts left) (.dict rights right)

theorem sizeOf_lt_of_lookup {fields : List (String × Schema)} {key : String} {field : Schema}
    (found : fields.lookup key = some field) : sizeOf field < sizeOf fields := by
  induction fields with
  | nil => simp at found
  | cons entry rest induction =>
      obtain ⟨name, held⟩ := entry
      simp only [List.lookup_cons] at found
      split at found
      · cases found
        simp only [List.cons.sizeOf_spec, Prod.mk.sizeOf_spec]
        omega
      · have later := induction found
        simp only [List.cons.sizeOf_spec]
        omega

theorem Below.refl : (schema : Schema) → Below schema schema
  | .none => .none _
  | .any => .any _
  | .bool => .bool
  | .int => .int
  | .str => .str
  | .list element => .list (refl element)
  | .dict fields values =>
      .dict (fun _ narrower found => ⟨narrower, found⟩)
        (fun key narrower wider found again => by
          have := sizeOf_lt_of_lookup found
          have same : narrower = wider := Option.some.inj (found.symm.trans again)
          exact same ▸ refl narrower)
        (refl values)
  termination_by schema => sizeOf schema

theorem Below.trans {first second third : Schema} (left : Below first second)
    (right : Below second third) : Below first third := by
  induction left generalizing third with
  | none wider => exact .none _
  | any narrower =>
      cases right
      exact .any _
  | bool => exact right
  | int => exact right
  | str => exact right
  | list elements induction =>
      cases right with
      | any => exact .any _
      | list others => exact .list (induction others)
  | dict keys fields values induction valuesInduction =>
      cases right with
      | any => exact .any _
      | dict otherKeys otherFields otherValues =>
          refine .dict ?_ ?_ (valuesInduction otherValues)
          · intro key narrower found
            obtain ⟨middle, between⟩ := keys key narrower found
            exact otherKeys key middle between
          · intro key narrower wider found reached
            obtain ⟨middle, between⟩ := keys key narrower found
            exact induction key narrower middle found between
              (otherFields key middle wider between reached)

theorem lookup_meetFields (lefts rights : List (String × Schema)) (key : String) :
    (meetFields lefts rights).lookup key =
      (lefts.lookup key).bind fun left => (rights.lookup key).map left.meet := by
  induction lefts with
  | nil => rfl
  | cons entry rest induction =>
      obtain ⟨name, left⟩ := entry
      by_cases here : key = name
      · subst here
        cases found : rights.lookup key with
        | none => simp [meetFields, found, induction]
        | some right => simp [meetFields, found]
      · have differs : (key == name) = false := by simpa using here
        cases found : rights.lookup name with
        | none => simp [meetFields, found, List.lookup_cons, differs, induction]
        | some right => simp [meetFields, found, List.lookup_cons, differs, induction]

@[simp] theorem any_meet (schema : Schema) : meet .any schema = schema := by
  cases schema <;> rfl

@[simp] theorem meet_any (schema : Schema) : schema.meet .any = schema := by
  cases schema <;> rfl

theorem meet_below : (left right : Schema) →
    Below (left.meet right) left ∧ Below (left.meet right) right
  | .any, right => by
      rw [any_meet]
      exact ⟨.any _, .refl right⟩
  | left, .any => by
      rw [meet_any]
      exact ⟨.refl left, .any _⟩
  | .list left, .list right =>
      ⟨.list (meet_below left right).1, .list (meet_below left right).2⟩
  | .dict lefts left, .dict rights right => by
      have fields : ∀ key met, (meetFields lefts rights).lookup key = some met →
          ∃ first second, lefts.lookup key = some first ∧ rights.lookup key = some second ∧
            Below met first ∧ Below met second := by
        intro key met found
        rw [lookup_meetFields, Option.bind_eq_some_iff] at found
        obtain ⟨first, onLeft, found⟩ := found
        obtain ⟨second, onRight, rfl⟩ := Option.map_eq_some_iff.mp found
        have := sizeOf_lt_of_lookup onLeft
        exact ⟨first, second, onLeft, onRight, meet_below first second⟩
      constructor
      · refine .dict ?_ ?_ (meet_below left right).1
        · intro key met found
          obtain ⟨first, _, onLeft, _⟩ := fields key met found
          exact ⟨first, onLeft⟩
        · intro key met wider found reached
          obtain ⟨first, _, onLeft, _, below, _⟩ := fields key met found
          rwa [Option.some.inj (reached.symm.trans onLeft)]
      · refine .dict ?_ ?_ (meet_below left right).2
        · intro key met found
          obtain ⟨_, second, _, onRight, _⟩ := fields key met found
          exact ⟨second, onRight⟩
        · intro key met wider found reached
          obtain ⟨_, second, _, onRight, _, below⟩ := fields key met found
          rwa [Option.some.inj (reached.symm.trans onRight)]
  | .none, .none | .bool, .bool | .int, .int | .str, .str => ⟨.refl _, .refl _⟩
  | .none, .bool | .none, .int | .none, .str | .none, .list _ | .none, .dict _ _ =>
      ⟨.none _, .none _⟩
  | .bool, .none | .bool, .int | .bool, .str | .bool, .list _ | .bool, .dict _ _ =>
      ⟨.none _, .none _⟩
  | .int, .none | .int, .bool | .int, .str | .int, .list _ | .int, .dict _ _ =>
      ⟨.none _, .none _⟩
  | .str, .none | .str, .bool | .str, .int | .str, .list _ | .str, .dict _ _ =>
      ⟨.none _, .none _⟩
  | .list _, .none | .list _, .bool | .list _, .int | .list _, .str | .list _, .dict _ _ =>
      ⟨.none _, .none _⟩
  | .dict _ _, .none | .dict _ _, .bool | .dict _ _, .int | .dict _ _, .str
  | .dict _ _, .list _ => ⟨.none _, .none _⟩
  termination_by left => sizeOf left

theorem Below.meet {schema left right : Schema} (first : Below schema left)
    (second : Below schema right) : Below schema (left.meet right) := by
  induction first generalizing right with
  | none => exact .none _
  | any narrower => rwa [any_meet]
  | bool =>
      cases second <;> constructor
  | int =>
      cases second <;> constructor
  | str =>
      cases second <;> constructor
  | list elements induction =>
      cases second with
      | any => exact .list elements
      | list others => exact .list (induction others)
  | dict keys fields values induction valuesInduction =>
      cases second with
      | any => exact .dict keys fields values
      | dict otherKeys otherFields otherValues =>
          refine .dict ?_ ?_ (valuesInduction otherValues)
          · intro key narrower found
            obtain ⟨onLeft, leftFound⟩ := keys key narrower found
            obtain ⟨onRight, rightFound⟩ := otherKeys key narrower found
            exact ⟨onLeft.meet onRight, by rw [lookup_meetFields, leftFound]; simp [rightFound]⟩
          · intro key narrower met found reached
            rw [lookup_meetFields, Option.bind_eq_some_iff] at reached
            obtain ⟨onLeft, leftFound, reached⟩ := reached
            obtain ⟨onRight, rightFound, rfl⟩ := Option.map_eq_some_iff.mp reached
            exact induction key narrower onLeft found leftFound
              (otherFields key narrower onRight found rightFound)

theorem below_meet_iff {schema left right : Schema} :
    Below schema (left.meet right) ↔ Below schema left ∧ Below schema right :=
  ⟨fun below => ⟨below.trans (meet_below left right).1, below.trans (meet_below left right).2⟩,
    fun both => both.1.meet both.2⟩

theorem below_meetAll_iff {schema : Schema} {schemas : List Schema} :
    Below schema (meetAll schemas) ↔ ∀ other ∈ schemas, Below schema other := by
  have general : ∀ start, Below schema (schemas.foldl meet start) ↔
      Below schema start ∧ ∀ other ∈ schemas, Below schema other := by
    induction schemas with
    | nil => simp
    | cons first rest induction =>
        intro start
        rw [List.foldl_cons, induction, below_meet_iff, List.forall_mem_cons, and_assoc]
  rw [meetAll, general]
  exact and_iff_right (.any _)

theorem common_below {values : List Json} {value : Json} (member : value ∈ values) :
    Below (common values) (of value) :=
  below_meetAll_iff.mp (.refl (common values)) _ (List.mem_map_of_mem member)

/-! Equality of schemas compares fields by their keys, so it is reflexive just if keys do not come
again. -/

inductive Distinct : Schema → Prop
  | none : Distinct .none
  | any : Distinct .any
  | bool : Distinct .bool
  | int : Distinct .int
  | str : Distinct .str
  | list {element : Schema} (within : Distinct element) : Distinct (.list element)
  | dict {fields : List (String × Schema)} {values : Schema} (keys : (Entries.keys fields).Nodup)
      (each : ∀ field ∈ fields, Distinct field.2) (rest : Distinct values) :
      Distinct (.dict fields values)

theorem sameFields_iff {lefts rights : List (String × Schema)} :
    sameFields lefts rights = true ↔
      ∀ entry ∈ lefts, ∃ other, rights.lookup entry.1 = some other ∧ entry.2.same other = true := by
  induction lefts with
  | nil => simp [sameFields]
  | cons entry rest induction =>
      obtain ⟨key, left⟩ := entry
      simp only [sameFields, Bool.and_eq_true, induction, List.forall_mem_cons]
      cases rights.lookup key <;> simp

theorem mem_meetFields_iff {lefts rights : List (String × Schema)} {key : String} {met : Schema} :
    (key, met) ∈ meetFields lefts rights ↔
      ∃ left right, (key, left) ∈ lefts ∧ rights.lookup key = some right ∧
          met = left.meet right := by
  induction lefts with
  | nil => simp [meetFields]
  | cons entry rest induction =>
      obtain ⟨name, left⟩ := entry
      simp only [meetFields]
      split
      · rename_i right found
        simp only [List.mem_cons, Prod.mk.injEq, induction]
        constructor
        · intro listed
          rcases listed with ⟨rfl, rfl⟩ | ⟨first, second, member, reached, rfl⟩
          · exact ⟨left, right, .inl ⟨rfl, rfl⟩, found, rfl⟩
          · exact ⟨first, second, .inr member, reached, rfl⟩
        · intro fields
          obtain ⟨first, second, ⟨rfl, rfl⟩ | member, reached, rfl⟩ := fields
          · exact .inl ⟨rfl, by rw [Option.some.inj (found.symm.trans reached)]⟩
          · exact .inr ⟨first, second, member, reached, rfl⟩
      · rename_i missing
        rw [induction]
        constructor
        · intro fields
          obtain ⟨first, second, member, reached, rfl⟩ := fields
          exact ⟨first, second, List.mem_cons_of_mem _ member, reached, rfl⟩
        · intro fields
          obtain ⟨first, second, member, reached, rfl⟩ := fields
          rcases List.mem_cons.mp member with equal | member
          · cases equal
            simp [missing] at reached
          · exact ⟨first, second, member, reached, rfl⟩

theorem keys_meetFields_sublist (lefts rights : List (String × Schema)) :
    (Entries.keys (meetFields lefts rights)).Sublist (Entries.keys lefts) := by
  induction lefts with
  | nil => exact .slnil
  | cons entry rest induction =>
      simp only [meetFields]
      split
      · exact induction.cons_cons _
      · exact induction.cons _

theorem length_meetFields_le (lefts rights : List (String × Schema)) :
    (meetFields lefts rights).length ≤ lefts.length := by
  simpa [Entries.keys] using (keys_meetFields_sublist lefts rights).length_le

theorem length_meetFields_eq_iff {lefts rights : List (String × Schema)} :
    (meetFields lefts rights).length = lefts.length ↔
      ∀ entry ∈ lefts, ∃ right, rights.lookup entry.1 = some right := by
  induction lefts with
  | nil => simp [meetFields]
  | cons entry rest induction =>
      have short := length_meetFields_le rest rights
      simp only [meetFields, List.forall_mem_cons, ← induction]
      split
      · rename_i right found
        simp [found]
      · rename_i missing
        simp only [missing, List.length_cons, reduceCtorEq, exists_false, false_and, iff_false]
        omega

theorem Distinct.same_self {schema : Schema} (distinct : schema.Distinct) :
    schema.same schema = true := by
  induction distinct with
  | list within induction => exact induction
  | dict keys each rest induction restInduction =>
      simp only [same, Bool.and_eq_true, beq_iff_eq, true_and]
      refine ⟨sameFields_iff.mpr fun entry member => ?_, restInduction⟩
      exact ⟨entry.2, Entries.lookup_of_mem keys member, induction entry member⟩
  | _ => rfl

theorem below_of_same_meet : (left right : Schema) → (left.meet right).same left = true →
    Below left right
  | .none, right => fun _ => .none right
  | .any, right => by cases right <;> simp [meet, same, Below.any]
  | .bool, right => by cases right <;> simp [meet, same, Below.any, Below.bool]
  | .int, right => by cases right <;> simp [meet, same, Below.any, Below.int]
  | .str, right => by cases right <;> simp [meet, same, Below.any, Below.str]
  | .list left, .list right => fun equal => .list (below_of_same_meet left right equal)
  | .dict lefts left, .dict rights right => fun equal => by
      simp only [meet, same, Bool.and_eq_true, beq_iff_eq] at equal
      obtain ⟨⟨lengths, fields⟩, values⟩ := equal
      refine .dict ?_ ?_ (below_of_same_meet left right values)
      · intro key narrower found
        exact length_meetFields_eq_iff.mp lengths _ (Entries.mem_of_lookup found)
      · intro key narrower wider found reached
        have := sizeOf_lt_of_lookup found
        have met : (key, narrower.meet wider) ∈ meetFields lefts rights :=
          mem_meetFields_iff.mpr ⟨narrower, wider, Entries.mem_of_lookup found, reached, rfl⟩
        obtain ⟨other, again, equal⟩ := sameFields_iff.mp fields _ met
        cases found.symm.trans again
        exact below_of_same_meet narrower wider equal
  | .list _, .any | .dict _ _, .any => fun _ => .any _
  | .list _, .none | .list _, .bool | .list _, .int | .list _, .str | .list _, .dict _ _
  | .dict _ _, .none | .dict _ _, .bool | .dict _ _, .int | .dict _ _, .str
  | .dict _ _, .list _ => by simp [meet, same]
  termination_by left => sizeOf left

theorem same_meet_of_below {left right : Schema} (below : Below left right)
    (distinct : left.Distinct) : (left.meet right).same left = true := by
  induction below with
  | none wider => cases wider <;> rfl
  | any narrower =>
      rw [meet_any]
      exact distinct.same_self
  | bool => rfl
  | int => rfl
  | str => rfl
  | list elements induction =>
      cases distinct with
      | list within => exact induction within
  | dict keys fields values induction valuesInduction =>
      rename_i lefts rights _ _
      cases distinct with
      | dict distinctKeys each rest =>
          have found : ∀ entry ∈ lefts, lefts.lookup entry.1 = some entry.2 :=
            fun entry member => Entries.lookup_of_mem distinctKeys member
          simp only [meet, same, Bool.and_eq_true, beq_iff_eq]
          refine ⟨⟨length_meetFields_eq_iff.mpr ?_, sameFields_iff.mpr ?_⟩, valuesInduction rest⟩
          · intro entry member
            exact keys entry.1 entry.2 (found entry member)
          · intro entry member
            obtain ⟨key, met⟩ := entry
            obtain ⟨left, right, origin, reached, rfl⟩ := mem_meetFields_iff.mp member
            exact ⟨left, found _ origin,
              induction key left right (found _ origin) reached (each _ origin)⟩

/-- The meet of both schemas is the first one. -/
def Refines (left right : Schema) : Prop := (left.meet right).same left = true

theorem refines_iff_below {left right : Schema} (distinct : left.Distinct) :
    left.Refines right ↔ Below left right :=
  ⟨below_of_same_meet left right, fun below => same_meet_of_below below distinct⟩

theorem Distinct.meet {left right : Schema} (first : left.Distinct) (second : right.Distinct) :
    (left.meet right).Distinct := by
  induction first generalizing right with
  | any => rwa [any_meet]
  | list within induction =>
      cases second with
      | any => exact .list within
      | list others => exact .list (induction others)
      | _ => exact .none
  | dict keys each rest induction restInduction =>
      cases second with
      | any => exact .dict keys each rest
      | dict otherKeys otherEach otherRest =>
          refine .dict ((keys_meetFields_sublist _ _).nodup keys) ?_ (restInduction otherRest)
          intro entry member
          obtain ⟨key, met⟩ := entry
          obtain ⟨left, right, onLeft, reached, rfl⟩ := mem_meetFields_iff.mp member
          exact induction _ onLeft (otherEach _ (Entries.mem_of_lookup reached))
      | _ => exact .none
  | _ => cases second <;> constructor

theorem meetAll_induction {holds : Schema → Prop} {schemas : List Schema} (any : holds .any)
    (meet : ∀ left right : Schema, holds left → holds right → holds (left.meet right))
    (each : ∀ schema ∈ schemas, holds schema) : holds (meetAll schemas) := by
  have general : ∀ start : Schema, holds start → holds (schemas.foldl Schema.meet start) := by
    induction schemas with
    | nil => exact fun _ started => started
    | cons first rest induction =>
        obtain ⟨here, later⟩ := List.forall_mem_cons.mp each
        exact fun start started => induction later (start.meet first)
            (meet start first started here)
  exact general .any any

theorem distinct_meetAll {schemas : List Schema} (distinct : ∀ schema ∈ schemas, schema.Distinct) :
    (meetAll schemas).Distinct :=
  meetAll_induction .any (fun _ _ first second => first.meet second) distinct

theorem keys_ofMembers (members : List (String × Json)) :
    Entries.keys (ofMembers members) = Entries.keys members := by
  simp [ofMembers_eq_map, Entries.keys]

theorem values_ofMembers (members : List (String × Json)) :
    Entries.values (ofMembers members) = members.map fun member => of member.2 := by
  simp [ofMembers_eq_map, Entries.values]

theorem lookup_ofMembers (members : List (String × Json)) (key : String) :
    (ofMembers members).lookup key = (members.lookup key).map of := by
  induction members with
  | nil => rfl
  | cons member rest induction =>
      obtain ⟨name, value⟩ := member
      simp only [ofMembers, List.lookup_cons, induction]
      split <;> rfl

theorem distinct_of {value : Json} (wellFormed : value.WellFormed) : (of value).Distinct := by
  induction wellFormed with
  | null => exact .none
  | bool value => exact .bool
  | int value => exact .int
  | float value => exact .none
  | string value => exact .str
  | array each induction =>
      simp only [of, ofElements_eq_map]
      exact .list (distinct_meetAll (List.forall_mem_map.mpr induction))
  | object keys each induction =>
      simp only [of, ofFields, values_ofMembers]
      refine .dict (by rwa [keys_ofMembers]) ?_
          (distinct_meetAll (List.forall_mem_map.mpr induction))
      rw [ofMembers_eq_map]
      exact List.forall_mem_map.mpr induction

theorem distinct_common {values : List Json} (wellFormed : ∀ value ∈ values, value.WellFormed) :
    (common values).Distinct :=
  distinct_meetAll
      (List.forall_mem_map.mpr fun value member => distinct_of (wellFormed value member))

theorem below_list_iff {element : Schema} {elements : List Json} :
    Below (.list element) (of (.array elements)) ↔
        ∀ value ∈ elements, Below element (of value) := by
  simp only [of, ofElements_eq_map]
  constructor
  · intro below
    cases below with
    | list within => exact List.forall_mem_map.mp (below_meetAll_iff.mp within)
  · exact fun each => .list (below_meetAll_iff.mpr (List.forall_mem_map.mpr each))

theorem below_dict_iff {fields : List (String × Schema)} {values : Schema}
    {members : List (String × Json)} :
    Below (.dict fields values) (of (.object members)) ↔
      (∀ key field, fields.lookup key = some field →
        ∃ value, members.lookup key = some value ∧ Below field (of value)) ∧
      ∀ member ∈ members, Below values (of member.2) := by
  simp only [of, ofFields, values_ofMembers]
  constructor
  · intro below
    cases below with
    | dict keys each rest =>
        refine ⟨fun key field found => ?_, List.forall_mem_map.mp (below_meetAll_iff.mp rest)⟩
        obtain ⟨wider, reached⟩ := keys key field found
        have within := each key field wider found reached
        rw [lookup_ofMembers] at reached
        obtain ⟨value, held, rfl⟩ := Option.map_eq_some_iff.mp reached
        exact ⟨value, held, within⟩
  · intro both
    obtain ⟨each, rest⟩ := both
    refine .dict ?_ ?_ (below_meetAll_iff.mpr (List.forall_mem_map.mpr rest))
    · intro key field found
      obtain ⟨value, held, _⟩ := each key field found
      exact ⟨of value, by simp [lookup_ofMembers, held]⟩
    · intro key field wider found reached
      obtain ⟨value, held, below⟩ := each key field found
      rw [lookup_ofMembers, held] at reached
      cases reached
      exact below

theorem exists_elements_of_below {element : Schema} {value : Json}
    (below : Below (.list element) (of value)) : ∃ elements, value = .array elements := by
  cases value with
  | array elements => exact ⟨elements, rfl⟩
  | number value => cases value <;> cases below
  | _ => cases below

theorem exists_members_of_below {fields : List (String × Schema)} {values : Schema} {value : Json}
    (below : Below (.dict fields values) (of value)) : ∃ members, value = .object members := by
  cases value with
  | object members => exact ⟨members, rfl⟩
  | number value => cases value <;> cases below
  | _ => cases below

end Schema

end FilterSynthesis
