import FilterSynthesis.Json.Basic

/-!
Schemas classify JSON values by shape. Two schemas have a meet, which keeps what both agree on:
`any` is no evidence yet and gives way to everything, `none` is evidence that does not fit together
and absorbs everything.
-/

namespace FilterSynthesis

inductive Schema where
  | none
  | any
  | bool
  | int
  | str
  | list (element : Schema)
  /-- `values` describes what all values of the object have in common. -/
  | dict (fields : List (String × Schema)) (values : Schema)
  deriving Repr, Inhabited

namespace Schema

mutual

/-- A dict keeps the keys that occur on both sides, in the order of the left. -/
def meet : Schema → Schema → Schema
  | .any, right => right
  | left, .any => left
  | .none, _ => .none
  | _, .none => .none
  | .bool, .bool => .bool
  | .int, .int => .int
  | .str, .str => .str
  | .list left, .list right => .list (left.meet right)
  | .dict lefts left, .dict rights right => .dict (meetFields lefts rights) (left.meet right)
  | _, _ => .none

def meetFields : List (String × Schema) → List (String × Schema) → List (String × Schema)
  | [], _ => []
  | (key, left) :: lefts, rights =>
      match rights.lookup key with
      | some right => (key, left.meet right) :: meetFields lefts rights
      | Option.none => meetFields lefts rights

end

def meetAll (schemas : List Schema) : Schema := schemas.foldl meet .any

/-- The dict whose values have in common what its fields have in common. -/
def ofFields (fields : List (String × Schema)) : Schema :=
  .dict fields (meetAll (Entries.values fields))

mutual

/-- Null and numbers other than integers fit no schema. -/
def of : Json → Schema
  | .null => .none
  | .bool _ => .bool
  | .number (.int _) => .int
  | .number _ => .none
  | .string _ => .str
  | .array elements => .list (meetAll (ofElements elements))
  | .object members => ofFields (ofMembers members)

def ofElements : List Json → List Schema
  | [] => []
  | element :: rest => of element :: ofElements rest

def ofMembers : List (String × Json) → List (String × Schema)
  | [] => []
  | (key, value) :: rest => (key, of value) :: ofMembers rest

end

theorem ofElements_eq_map (elements : List Json) : ofElements elements = elements.map of := by
  induction elements with
  | nil => rfl
  | cons element rest induction => simp [ofElements, induction]

theorem ofMembers_eq_map (members : List (String × Json)) :
    ofMembers members = members.map fun member => (member.1, of member.2) := by
  induction members with
  | nil => rfl
  | cons member rest induction => simp [ofMembers, induction]

def common (values : List Json) : Schema := meetAll (values.map of)

def isNone : Schema → Bool
  | .none => true
  | _ => false

mutual

def same : Schema → Schema → Bool
  | .none, .none => true
  | .any, .any => true
  | .bool, .bool => true
  | .int, .int => true
  | .str, .str => true
  | .list left, .list right => left.same right
  | .dict lefts left, .dict rights right =>
      lefts.length == rights.length && sameFields lefts rights && left.same right
  | _, _ => false

def sameFields : List (String × Schema) → List (String × Schema) → Bool
  | [], _ => true
  | (key, left) :: lefts, rights =>
      (match rights.lookup key with
        | some right => left.same right
        | Option.none => false) && sameFields lefts rights

end

def IsOpenDict : Schema → Prop
  | .any => True
  | .dict _ _ => True
  | _ => False

theorem isOpenDict_of_meet {left right : Schema} {fields : List (String × Schema)}
    {values : Schema} (equal : left.meet right = .dict fields values) :
    left.IsOpenDict ∧ right.IsOpenDict := by
  cases left <;> cases right <;> simp_all [meet, IsOpenDict]

theorem isOpenDict_of_foldl {schemas : List Schema} {start : Schema}
    {fields : List (String × Schema)} {values : Schema}
    (equal : schemas.foldl meet start = .dict fields values) :
    start.IsOpenDict ∧ ∀ schema ∈ schemas, schema.IsOpenDict := by
  induction schemas generalizing start with
  | nil =>
      simp only [List.foldl_nil] at equal
      simp [equal, IsOpenDict]
  | cons schema rest induction =>
      obtain ⟨met, members⟩ := induction equal
      have both : start.IsOpenDict ∧ schema.IsOpenDict := by
        cases result : start.meet schema with
        | any =>
            cases start <;> cases schema <;> simp_all [meet, IsOpenDict]
        | dict _ _ => exact isOpenDict_of_meet result
        | _ => simp [result, IsOpenDict] at met
      simp only [List.mem_cons, forall_eq_or_imp]
      exact ⟨both.1, both.2, members⟩

theorem isObject_of_common {values : List Json} {fields : List (String × Schema)}
    {rest : Schema} (equal : common values = .dict fields rest) {value : Json}
    (member : value ∈ values) : ∃ members, value = .object members := by
  have openDict := (isOpenDict_of_foldl equal).2 (of value) (List.mem_map_of_mem member)
  cases value with
  | object members => exact ⟨members, rfl⟩
  | number value => cases value <;> simp [of, IsOpenDict] at openDict
  | _ => simp [of, IsOpenDict] at openDict

end Schema

end FilterSynthesis
