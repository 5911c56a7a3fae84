import FilterSynthesis.Document.Basic
import FilterSynthesis.Proofs.Double.Rounding
import FilterSynthesis.Proofs.Json.Handover
import FilterSynthesis.Proofs.Program.Faithfulness
import FilterSynthesis.Proofs.Program.Injectivity

/-!
Selecting by an entry keeps the values whose entry equals the literal. Integers are compared exactly
as long as both fit a signed word; the least literal is read as a binary64 number, and so is an
entry beyond the signed words, so at these two ends a literal also keeps its neighbours. -/

namespace FilterSynthesis

open scoped Arithmetic

namespace Double

theorem order_eq_iff {left right : Double} : left.order right = .eq ↔ left.rank = right.rank :=
  compare_eq_iff_eq

theorem negative_ofQuotient (negative : Bool) (numerator denominator : Nat) :
    (ofQuotient negative numerator denominator).negative = negative := by
  unfold ofQuotient
  split <;> rfl

theorem magnitude_ofInt_natAbs (value : Int) :
    (ofInt value).magnitude = (ofInt value.natAbs).magnitude := by
  unfold ofInt ofQuotient
  rw [Int.natAbs_natCast]
  split <;> rfl

theorem rank_ofInt (value : Int) :
    (ofInt value).rank =
      if value < 0 then -((ofInt value.natAbs).magnitude : Int)
      else (ofInt value.natAbs).magnitude := by
  have sign : (ofInt value).negative = decide (value < 0) := negative_ofQuotient ..
  simp only [rank, sign, decide_eq_true_eq, magnitude_ofInt_natAbs value]

/-! Natural numbers that are rounded to `2 ^ 63`: a tie goes there from either side. -/

theorem magnitude_eq_of_le {value : Nat} (less : value ≤ 2 ^ 63) :
    (ofInt value).magnitude = (ofInt (2 ^ 63 : Nat)).magnitude ↔ 2 ^ 63 - 512 ≤ value := by
  constructor
  · intro same
    by_contra small
    have below : (ofInt value).magnitude ≤ (ofInt (2 ^ 63 - 513 : Nat)).magnitude :=
      magnitude_ofInt_mono (by omega)
    have apart : (ofInt (2 ^ 63 - 513 : Nat)).magnitude < (ofInt (2 ^ 63 : Nat)).magnitude := by
      decide
    omega
  · intro near
    have tie : (ofInt (2 ^ 63 - 512 : Nat)).magnitude = (ofInt (2 ^ 63 : Nat)).magnitude := by
      decide
    exact Nat.le_antisymm (magnitude_ofInt_mono less) (tie ▸ magnitude_ofInt_mono near)

theorem magnitude_eq_of_ge {value : Nat} (more : 2 ^ 63 ≤ value) :
    (ofInt value).magnitude = (ofInt (2 ^ 63 : Nat)).magnitude ↔ value ≤ 2 ^ 63 + 1024 := by
  constructor
  · intro same
    by_contra great
    have above : (ofInt (2 ^ 63 + 1025 : Nat)).magnitude ≤ (ofInt value).magnitude :=
      magnitude_ofInt_mono (by omega)
    have apart : (ofInt (2 ^ 63 : Nat)).magnitude < (ofInt (2 ^ 63 + 1025 : Nat)).magnitude := by
      decide
    omega
  · intro near
    have tie : (ofInt (2 ^ 63 + 1024 : Nat)).magnitude = (ofInt (2 ^ 63 : Nat)).magnitude := by
      decide
    exact Nat.le_antisymm (tie ▸ magnitude_ofInt_mono near) (magnitude_ofInt_mono more)

theorem magnitude_pos : 0 < (ofInt (2 ^ 63 : Nat)).magnitude := by decide

/-- A signed word and an unsigned one beyond it run together just around `2 ^ 63`. -/
theorem rank_eq_iff_of_beyond {signed beyond : Int} (less : signed < 2 ^ 63)
    (more : 2 ^ 63 ≤ beyond) :
    (ofInt beyond).rank = (ofInt signed).rank ↔
      2 ^ 63 - 512 ≤ signed ∧ beyond ≤ 2 ^ 63 + 1024 := by
  have upper := magnitude_eq_of_ge (show 2 ^ 63 ≤ beyond.natAbs by omega)
  have above : (ofInt (2 ^ 63 : Nat)).magnitude ≤ (ofInt beyond.natAbs).magnitude :=
    magnitude_ofInt_mono (by omega)
  rw [rank_ofInt, rank_ofInt, if_neg (by omega)]
  have positive := magnitude_pos
  split
  · omega
  · have lower := magnitude_eq_of_le (show signed.natAbs ≤ 2 ^ 63 by omega)
    have below : (ofInt signed.natAbs).magnitude ≤ (ofInt (2 ^ 63 : Nat)).magnitude :=
      magnitude_ofInt_mono (by omega)
    omega

theorem rank_eq_least_iff {value : Int} (least : -2 ^ 63 ≤ value) :
    (ofInt value).rank = (ofInt (2 ^ 63)).negate.rank ↔ value ≤ -2 ^ 63 + 512 := by
  have positive := magnitude_pos
  have rank : (ofInt (2 ^ 63)).negate.rank = -((ofInt (2 ^ 63 : Nat)).magnitude : Int) := by
    decide
  rw [rank, rank_ofInt]
  split
  · have lower := magnitude_eq_of_le (show value.natAbs ≤ 2 ^ 63 by omega)
    omega
  · omega

end Double

namespace Json

/-- What literals are compared with: booleans, integers of 64 bits and strings. -/
def IsComparable : Json → Prop
  | .bool _ | .string _ => True
  | .number (.int value) => Number.IsWord value
  | _ => False

theorem order_ne_eq {left right : Json} (apart : left.kindRank ≠ right.kindRank) :
    left.order right ≠ .eq := by
  cases left <;> cases right <;> first
    | exact absurd rfl apart
    | simpa only [order, ne_eq, compare_eq_iff_eq] using apart

theorem order_bool_eq_iff (left right : Bool) :
    (bool left).order (bool right) = .eq ↔ left = right := by
  have ranks : (bool left).order (bool right) =
      compare (bool left).kindRank (bool right).kindRank := by
    rw [order] <;> exact nofun
  rw [ranks]
  cases left <;> cases right <;> decide

inductive IsExact : Json → Prop
  | null : IsExact .null
  | bool (value : Bool) : IsExact (.bool value)
  | int (value : Int) : IsExact (.number (.int value))
  | string (value : String) : IsExact (.string value)
  | array {elements : List Json} (each : ∀ element ∈ elements, IsExact element) :
      IsExact (.array elements)
  | object {members : List (String × Json)} (each : ∀ member ∈ members, IsExact member.2) :
      IsExact (.object members)

theorem rereadElements?_eq_self {elements : List Json}
    (each : ∀ element ∈ elements, element.reread? = some element) :
    rereadElements? elements = some elements := by
  induction elements with
  | nil => rfl
  | cons element rest induction =>
      obtain ⟨here, later⟩ := List.forall_mem_cons.mp each
      simp only [rereadElements?, here, induction later]

theorem rereadMembers?_eq_self {members : List (String × Json)}
    (each : ∀ member ∈ members, member.2.reread? = some member.2) :
    rereadMembers? members = some members := by
  induction members with
  | nil => rfl
  | cons member rest induction =>
      obtain ⟨here, later⟩ := List.forall_mem_cons.mp each
      simp only [rereadMembers?, here, induction later]

theorem IsExact.reread?_eq_self {value : Json} (exact : value.IsExact) :
    value.reread? = some value := by
  induction exact with
  | null | bool | int | string => rfl
  | array _ induction => rw [reread?, rereadElements?_eq_self induction, Option.map_some]
  | object _ induction => rw [reread?, rereadMembers?_eq_self induction, Option.map_some]

theorem IsExact.handedOn?_eq_self {value : Json} (exact : value.IsExact)
    (shallow : value.depth ≤ outputNesting) : value.handedOn? = some value :=
  handedOn?_eq_some_iff.mpr ⟨shallow, exact.reread?_eq_self⟩

end Json

namespace Literal

/-- Integers that the literal keeps besides its own value: either it or the entry fits no signed
word where they are compared, and both are rounded to the same binary64 number. -/
def AlsoMatches : Literal → Json → Prop
  | .int value, .number (.int entry) =>
      value = Int64.minValue ∧ entry ≤ -2 ^ 63 + 512 ∨
        2 ^ 63 - 512 ≤ value.toInt ∧ 2 ^ 63 ≤ entry ∧ entry ≤ 2 ^ 63 + 1024
  | _, _ => False

theorem value_minValue :
    (Literal.int Int64.minValue).value = .number (.float (Double.ofInt (2 ^ 63)).negate) := by
  rw [Literal.value, if_pos rfl]

theorem value_int {value : Int64} (other : value ≠ Int64.minValue) :
    (Literal.int value).value = .number (.int value.toInt) := by
  rw [Literal.value, if_neg other]

theorem order_int_eq_iff {entry : Int} (word : Number.IsWord entry) (value : Int64) :
    (Json.number (.int entry)).order (Literal.int value).value = .eq ↔
      entry = value.toInt ∨ AlsoMatches (.int value) (.number (.int entry)) := by
  obtain ⟨least, _⟩ := word
  have signed : Number.IsSigned value.toInt := ⟨value.le_toInt, value.toInt_lt⟩
  by_cases lowest : value = Int64.minValue
  · subst lowest
    have negated : Int64.minValue.toInt = -2 ^ 63 := rfl
    have asFloats : (Json.number (.int entry)).order (Literal.int Int64.minValue).value =
        (Double.ofInt entry).order (Double.ofInt (2 ^ 63)).negate := by
      rw [value_minValue, Json.order]
      rfl
    rw [asFloats, Double.order_eq_iff, Double.rank_eq_least_iff least]
    simp only [AlsoMatches, true_and, negated]
    omega
  · have compared : (Json.number (.int entry)).order (Literal.int value).value =
        Number.order (.int entry) (.int value.toInt) := by
      rw [value_int lowest, Json.order]
    simp only [compared, Number.order, signed, and_true, AlsoMatches, lowest, false_and, false_or]
    by_cases within : entry < 2 ^ 63
    · rw [if_pos ⟨least, within⟩, compare_eq_iff_eq]
      omega
    · have beyond : 2 ^ 63 ≤ entry := Int.not_lt.mp within
      rw [if_neg fun fits => within fits.2, Double.order_eq_iff,
        Double.rank_eq_iff_of_beyond signed.2 beyond]
      have apart := signed.2
      omega

theorem order_eq_iff {entry : Json} (comparable : entry.IsComparable) (literal : Literal) :
    entry.order literal.value = .eq ↔ entry = literal.toJson ∨ literal.AlsoMatches entry := by
  cases literal with
  | bool value =>
      cases entry with
      | bool held =>
          rw [Literal.value, Json.order_bool_eq_iff]
          simp [toJson, AlsoMatches]
      | number held | string held =>
          refine iff_of_false (Json.order_ne_eq ?_) (by simp [toJson, AlsoMatches])
          cases value <;> simp [Json.kindRank, Literal.value]
      | _ => cases comparable
  | int value =>
      obtain ⟨number, equal⟩ := exists_value_int value
      cases entry with
      | number held =>
          cases held with
          | int held =>
              rw [order_int_eq_iff comparable]
              simp [toJson]
          | _ => cases comparable
      | bool held =>
          refine iff_of_false (Json.order_ne_eq ?_) (by simp [toJson, AlsoMatches])
          rw [equal]
          cases held <;> simp [Json.kindRank]
      | string held =>
          refine iff_of_false (Json.order_ne_eq ?_) (by simp [toJson, AlsoMatches])
          rw [equal]
          simp [Json.kindRank]
      | _ => cases comparable
  | str value =>
      cases entry with
      | string held =>
          rw [Literal.value, Json.order, Std.LawfulEqCmp.compare_eq_iff_eq]
          simp [toJson, AlsoMatches]
      | bool held =>
          refine iff_of_false (Json.order_ne_eq ?_) (by simp [toJson, AlsoMatches])
          cases held <;> simp [Json.kindRank, Literal.value]
      | number held =>
          refine iff_of_false (Json.order_ne_eq ?_) (by simp [toJson, AlsoMatches])
          simp [Json.kindRank, Literal.value]
      | _ => cases comparable

end Literal

theorem Filter.oracle_select {key : String} {members : List (String × Json)} {entry : Json}
    (found : members.lookup key = some entry) (literal : Literal) :
    oracle (Operator.select key literal).text (.object members) =
      if entry.order literal.value = .eq then (Json.object members).handedOn?.map ([·])
      else some [] := by
  have held : (Json.object members).held key = entry := by
    rw [Json.held, Json.lookup?, found, Option.getD_some]
  have text : (Operator.select key literal).text = Pipeline.text [.select key literal] := rfl
  have object : (Json.object members).isObject = true := rfl
  rw [text, Filter.oracle_pipeline, Pipeline.meaning_singleton, Operator.meaning, if_pos object,
    held, Option.bind_some]
  split
  · cases handed : (Json.object members).handedOn? <;> simp [handed]
  · rfl

/-- Selecting by an entry that is a boolean, an integer of 64 bits or a string keeps the object just
if the entry is the value of the literal, or one of the neighbours that the least literal and the
greatest ones also take. The object is kept as it is handed on: unchanged if it holds no binary64
number, and not at all if it is nested too deep. -/
theorem select_keeps_equal_values (key : String) (literal : Literal)
    (members : List (String × Json)) (entry : Json) (found : members.lookup key = some entry)
    (comparable : entry.IsComparable) :
    (entry = literal.toJson ∨ literal.AlsoMatches entry →
        Filter.oracle (Operator.select key literal).text (.object members) =
          (Json.object members).handedOn?.map ([·])) ∧
      (¬ (entry = literal.toJson ∨ literal.AlsoMatches entry) →
        Filter.oracle (Operator.select key literal).text (.object members) = some []) ∧
      (outputNesting < (Json.object members).depth → (Json.object members).handedOn? = none) ∧
      ((Json.object members).depth ≤ outputNesting →
        ((Json.object members).WellFormed → ∃ back, (Json.object members).handedOn? = some back) ∧
          ((Json.object members).IsExact →
            (Json.object members).handedOn? = some (.object members))) := by
  rw [← Literal.order_eq_iff comparable, Filter.oracle_select found]
  refine ⟨fun equal => if_pos equal, fun apart => if_neg apart, fun deep => ?_,
    fun shallow => ⟨?_, ?_⟩⟩
  · exact Option.eq_none_iff_forall_ne_some.mpr fun back handed =>
      Nat.not_le_of_lt deep (Json.handedOn?_eq_some_iff.mp handed).1
  · intro wellFormed
    obtain ⟨back, handed, _⟩ := wellFormed.exists_handedOn shallow
    exact ⟨back, handed⟩
  · exact fun exact => exact.handedOn?_eq_self shallow

theorem select_keeps_greatest :
    let kept : List (String × Json) := [("a b", .number (.int (2 ^ 63 - 1))), ("c", .array [.null])]
    let dropped : List (String × Json) := [("a b", .number (.int (2 ^ 63 - 2)))]
    let literal := Literal.int Int64.maxValue
    kept.lookup "a b" = some literal.toJson ∧ literal.toJson.IsComparable ∧
      (Json.object kept).IsExact ∧
      Filter.oracle (Operator.select "a b" literal).text (.object kept) = some [.object kept] ∧
      Filter.oracle (Operator.select "a b" literal).text (.object dropped) = some [] := by
  intro kept dropped literal
  have comparable : literal.toJson.IsComparable := show Number.IsWord _ by decide
  have lesser : (Json.number (.int (2 ^ 63 - 2))).IsComparable := show Number.IsWord _ by decide
  have exact : (Json.object kept).IsExact := by
    refine .object ?_
    simp [kept, Json.IsExact.int, Json.IsExact.array, Json.IsExact.null]
  obtain ⟨keeps, _, _, handed⟩ := select_keeps_equal_values "a b" literal kept _ rfl comparable
  obtain ⟨_, drops, _, _⟩ := select_keeps_equal_values "a b" literal dropped _ rfl lesser
  refine ⟨rfl, comparable, exact, ?_, drops ?_⟩
  · rw [keeps (.inl rfl), (handed (by decide)).2 exact]
    rfl
  · rintro (equal | neighbour)
    · cases equal
    · simp [Literal.AlsoMatches, literal] at neighbour

theorem greatest_literal_keeps_successor :
    let members : List (String × Json) := [("k", .number (.int (2 ^ 63)))]
    let literal := Literal.int Int64.maxValue
    members.lookup "k" = some (.number (.int (2 ^ 63))) ∧
      (Json.number (.int (2 ^ 63))).IsComparable ∧
      Json.number (.int (2 ^ 63)) ≠ literal.toJson ∧
      Filter.oracle (Operator.select "k" literal).text (.object members) =
          some [.object members] := by
  intro members literal
  refine ⟨rfl, show Number.IsWord _ by decide, nofun, ?_⟩
  rw [Filter.oracle_select rfl, if_pos (by decide)]
  rfl

end FilterSynthesis
