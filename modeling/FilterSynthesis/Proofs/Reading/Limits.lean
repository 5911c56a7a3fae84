import FilterSynthesis.Proofs.Entries
import FilterSynthesis.Proofs.Json.WellFormed
import FilterSynthesis.Reading.Record

namespace FilterSynthesis

structure Json.FitsIn (room : Nat) (value : Json) : Prop where
  wellFormed : value.WellFormed
  shallow : value.depth ≤ room

namespace Json

variable {room : Nat}

theorem FitsIn.array {elements : List Json} (each : ∀ element ∈ elements, element.FitsIn room) :
    (Json.array elements).FitsIn (room + 1) where
  wellFormed := .array fun element member => (each element member).wellFormed
  shallow := depth_array_le_iff.mpr fun element member => (each element member).shallow

theorem FitsIn.object {members : List (String × Json)} (keys : (Entries.keys members).Nodup)
    (each : ∀ member ∈ members, member.2.FitsIn room) :
    (Json.object members).FitsIn (room + 1) where
  wellFormed := .object keys fun member listed => (each member listed).wellFormed
  shallow := by
    rw [depth, Nat.add_le_add_iff_right, depthOfMembers_le_iff]
    exact fun member listed => (each member listed).shallow

end Json

namespace Reading

/-- Whatever is read has the property. -/
def Reader.Ensures {α : Type} {bytes : Bytes} (read : Reader α bytes) (holds : α → Prop) : Prop :=
  ∀ parsed, read = .ok parsed → holds parsed.value

namespace Reader

variable {α β : Type} {part bytes : Bytes} {read : Reader α bytes} {holds : α → Prop}

@[simp] theorem ensures_error (fault : Fault Nat) :
    Ensures (.error fault : Reader α bytes) holds := by
  intro parsed answer
  cases answer

@[simp] theorem ensures_ok_iff {parsed : Parsed α bytes} :
    Ensures (.ok parsed : Reader α bytes) holds ↔ holds parsed.value := by
  constructor
  · exact fun ensures => ensures parsed rfl
  · rintro property _ ⟨⟩
    exact property

@[simp] theorem ensures_map_iff {change : α → β} {holds : β → Prop} :
    (read.map change).Ensures holds ↔ read.Ensures fun value => holds (change value) := by
  cases read <;> simp [Reader.map, Parsed.map]

@[simp] theorem ensures_within_iff {step : PathStep} :
    (read.within step).Ensures holds ↔ read.Ensures holds := by
  cases read <;> simp [Reader.within]

@[simp] theorem ensures_widen_iff {read : Reader α part} {bound : part.length ≤ bytes.length} :
    (read.widen bound).Ensures holds ↔ read.Ensures holds := by
  cases read <;> simp [Reader.widen, Parsed.widen]

@[simp] theorem ensures_later_iff {read : Reader α part} {fewer : part.length < bytes.length} :
    (read.later fewer).Ensures holds ↔ read.Ensures holds := ensures_widen_iff

@[simp] theorem ensures_behind_iff {byte : UInt8} :
    (read.behind : Reader α (byte :: bytes)).Ensures holds ↔ read.Ensures holds :=
  ensures_widen_iff

theorem Ensures.mono {weaker : α → Prop} (ensures : read.Ensures holds)
    (weakens : ∀ value, holds value → weaker value) : read.Ensures weaker :=
  fun parsed answer => weakens parsed.value (ensures parsed answer)

theorem ensures_of_forall (always : ∀ value, holds value) : read.Ensures holds :=
  fun parsed _ => always parsed.value

end Reader

section

variable {α σ : Type} {limit : Nat} {holds : α → Prop} {keeps : σ → Prop}

theorem ensures_readItemsFrom
    {item : (index : Nat) → (part : Bytes) → part.length < limit → Reader α part}
    (each : ∀ index part shorter, (item index part shorter).Ensures holds)
    (index : Nat) (bytes : Bytes) (fits : bytes.length < limit) :
    (readItemsFrom limit item index bytes fits).Ensures (∀ value ∈ ·, holds value) := by
  have first : ∀ {index : Nat} {bytes : Bytes} {fits : bytes.length < limit}
      {parsed : Parsed α bytes}, (item index bytes fits).within (.index index) = .ok parsed →
        holds parsed.value :=
    fun answer => Reader.ensures_within_iff.mpr (each _ _ _) _ answer
  fun_induction readItemsFrom limit item index bytes fits with
  | case3 index bytes fits value after shorter answer =>
      exact Reader.ensures_ok_iff.mpr (List.forall_mem_singleton.mpr (first answer))
  | case6 index bytes fits value after shorter answer _ _ _ _ _ _ _ _ _ _ _ induction =>
      rw [Reader.ensures_later_iff, Reader.ensures_map_iff]
      exact induction.mono fun _ others => List.forall_mem_cons.mpr ⟨first answer, others⟩
  | _ => exact Reader.ensures_error _

theorem ensures_readItems
    {item : (index : Nat) → (part : Bytes) → part.length < limit → Reader α part}
    (each : ∀ index part shorter, (item index part shorter).Ensures holds)
    (bytes : Bytes) (fits : bytes.length < limit) :
    (readItems limit item bytes fits).Ensures (∀ value ∈ ·, holds value) := by
  unfold readItems
  split
  · exact Reader.ensures_error _
  · dsimp only
    split
    · exact Reader.ensures_ok_iff.mpr (List.forall_mem_nil _)
    · exact Reader.ensures_widen_iff.mpr (ensures_readItemsFrom each 0 _ _)

theorem ensures_readMember {member : (part : Bytes) → part.length < limit → Reader σ part}
    (each : ∀ part shorter, (member part shorter).Ensures keeps)
    (bytes : Bytes) (fits : bytes.length < limit) :
    (readMember limit member bytes fits).Ensures keeps := by
  unfold readMember
  split
  · exact Reader.ensures_error _
  · split
    · exact Reader.ensures_later_iff.mpr (each _ _)
    · exact Reader.ensures_error _

/-- What every member keeps, the whole object keeps. -/
theorem ensures_readMembersFrom {check : σ → String → Option Cause}
    {member : σ → String → (part : Bytes) → part.length < limit → Reader σ part}
    (each : ∀ state key part shorter, keeps state → (member state key part shorter).Ensures keeps)
    {state : σ} (kept : keeps state) (bytes : Bytes) (fits : bytes.length < limit) :
    (readMembersFrom limit check member state bytes fits).Ensures keeps := by
  have left : ∀ {state : σ} {key : String} {part : Bytes} {shorter : part.length < limit}
      {parsed : Parsed σ part}, keeps state →
        readMember limit (member state key) part shorter = .ok parsed → keeps parsed.value :=
    fun kept answer =>
      ensures_readMember (fun part shorter => each _ _ part shorter kept) _ _ _ answer
  fun_induction readMembersFrom limit check member state bytes fits with
  | case5 state bytes fits key afterKey keyShorter _ _ value after shorter answer =>
      have held := left kept answer
      exact Reader.ensures_ok_iff.mpr held
  | case7 state bytes fits key afterKey keyShorter _ _ value after shorter answer _ _ _ _ _ _ _ _ _
      _ _ induction =>
      exact Reader.ensures_later_iff.mpr (induction (left kept answer))
  | _ => exact Reader.ensures_error _

theorem ensures_readMembers {check : σ → String → Option Cause}
    {member : σ → String → (part : Bytes) → part.length < limit → Reader σ part}
    (each : ∀ state key part shorter, keeps state → (member state key part shorter).Ensures keeps)
    {state : σ} (kept : keeps state) (bytes : Bytes) (fits : bytes.length < limit) :
    (readMembers limit check member state bytes fits).Ensures keeps := by
  unfold readMembers
  split
  · exact Reader.ensures_error _
  · dsimp only
    split
    · exact Reader.ensures_ok_iff.mpr kept
    · split
      · exact Reader.ensures_widen_iff.mpr (ensures_readMembersFrom each kept _ _)
      · exact Reader.ensures_error _

end

structure MembersFit (room : Nat) (members : List (String × Json)) : Prop where
  distinct : (Entries.keys members).Nodup
  each : ∀ member ∈ members, member.2.FitsIn room

theorem MembersFit.nil {room : Nat} : MembersFit room [] := ⟨List.nodup_nil, by simp⟩

theorem MembersFit.put {room : Nat} {members : List (String × Json)} {value : Json}
    (fit : MembersFit room members) (fits : value.FitsIn room) (key : String) :
    MembersFit room (Entries.put key value members) :=
  ⟨Entries.nodup_keys_put fit.distinct key value, Entries.forall_mem_put fits fit.each key⟩

theorem ensures_readWord {α : Type} {holds : α → Prop} {value : α} (property : holds value)
    (letters : List Char) (bytes : Bytes) : (readWord value letters bytes).Ensures holds := by
  unfold readWord
  split
  · exact Reader.ensures_error _
  · split
    · exact Reader.ensures_ok_iff.mpr property
    · exact Reader.ensures_error _

theorem wellFormed_ofWord (negative : Bool) (word : Nat) :
    (Json.number (ofWord negative word)).WellFormed := by
  unfold ofWord
  split
  · exact .int _
  · split
    · exact .int _
    · exact .float _

theorem wellFormed_of_asNumber {bytes : Bytes} {negative : Bool}
    {read : Except (Fault Nat) (Double × Rest bytes)} {number : Number} {rest : Rest bytes}
    (answer : asNumber negative read = .ok (number, rest)) :
    (Json.number number).WellFormed := by
  cases read with
  | error fault => cases answer
  | ok parsed =>
      cases answer
      exact .float _

theorem wellFormed_of_integral {negative : Bool} {word dropped : Nat} {bytes : Bytes}
    {number : Number} {rest : Rest bytes}
    (answer : integral negative word dropped bytes = .ok (number, rest)) :
    (Json.number number).WellFormed := by
  unfold integral at answer
  split at answer
  · cases answer
    exact wellFormed_ofWord negative word
  · exact wellFormed_of_asNumber answer

theorem wellFormed_of_readTail {negative : Bool} {word dropped : Nat} {bytes : Bytes}
    {number : Number} {rest : Rest bytes}
    (answer : readTail negative word dropped bytes = .ok (number, rest)) :
    (Json.number number).WellFormed := by
  unfold readTail at answer
  split at answer
  · exact wellFormed_of_integral answer
  · split at answer
    · split at answer
      · cases answer
        exact .float _
      · cases answer
    · split at answer
      · exact wellFormed_of_asNumber answer
      · exact wellFormed_of_integral answer

theorem ensures_readUnsigned (negative : Bool) (bytes : Bytes) :
    (readUnsigned negative bytes).Ensures fun number => (Json.number number).WellFormed := by
  unfold readUnsigned
  split
  · exact Reader.ensures_error _
  · split
    · exact Reader.ensures_error _
    · split
      · exact Reader.ensures_ok_iff.mpr (wellFormed_ofWord negative 0)
      · split
        · exact Reader.ensures_error _
        · split
          · rename_i answer
            exact Reader.ensures_ok_iff.mpr (wellFormed_of_readTail answer)
          · exact Reader.ensures_error _
    · dsimp only
      split
      · rename_i answer
        exact Reader.ensures_ok_iff.mpr (wellFormed_of_readTail answer)
      · exact Reader.ensures_error _

theorem ensures_readNumber (bytes : Bytes) :
    (readNumber bytes).Ensures fun number => (Json.number number).WellFormed := by
  unfold readNumber
  split
  · exact ensures_readUnsigned false []
  · split
    · exact Reader.ensures_behind_iff.mpr (ensures_readUnsigned true _)
    · exact ensures_readUnsigned false _

theorem ensures_readValue (room : Nat) (bytes : Bytes) :
    (readValue room bytes).Ensures (·.FitsIn room) := by
  induction length : bytes.length using Nat.strongRecOn generalizing room bytes with
  | ind length induction =>
      rw [readValue]
      split
      · exact Reader.ensures_error _
      · rename_i first rest spaced
        have inner : ∀ part : Bytes, part.length < (first :: rest).length →
            (readValue (room - 1) part).Ensures (·.FitsIn (room - 1)) := by
          intro part shorter
          have bound := length_le_of_dropBlanks spaced
          exact induction part.length (by omega) _ part rfl
        dsimp only
        rw [Reader.ensures_widen_iff]
        split
        · exact ensures_readWord ⟨.null, Nat.zero_le _⟩ _ _
        · exact ensures_readWord ⟨.bool true, Nat.zero_le _⟩ _ _
        · exact ensures_readWord ⟨.bool false, Nat.zero_le _⟩ _ _
        · rw [Reader.ensures_map_iff]
          exact Reader.ensures_of_forall fun text => ⟨.string text, Nat.zero_le _⟩
        · split
          · exact Reader.ensures_error _
          · rename_i some
            rw [Reader.ensures_widen_iff, Reader.ensures_map_iff]
            refine (ensures_readItems (fun _ => inner) _ _).mono fun elements each => ?_
            have fits := Json.FitsIn.array each
            rwa [Nat.sub_add_cancel (Nat.pos_of_ne_zero some)] at fits
        · split
          · exact Reader.ensures_error _
          · rename_i some
            rw [Reader.ensures_widen_iff, Reader.ensures_map_iff]
            have none : MembersFit (room - 1) [] := .nil
            refine (ensures_readMembers ?_ none _ _).mono fun members fit => ?_
            · intro members key part shorter fit
              rw [Reader.ensures_map_iff, Reader.ensures_within_iff]
              exact (inner part shorter).mono fun value fits => fit.put fits key
            · have fits := Json.FitsIn.object fit.distinct fit.each
              rwa [Nat.sub_add_cancel (Nat.pos_of_ne_zero some)] at fits
        · split
          · rw [Reader.ensures_map_iff]
            exact (ensures_readNumber _).mono fun number wellFormed => ⟨wellFormed, Nat.zero_le _⟩
          · exact Reader.ensures_error _

section

variable {α σ : Type} {holds : α → Prop} {keeps : σ → Prop}

theorem ensures_expectList {room : Nat} {expected : String}
    {item : (room : Nat) → (part : Bytes) → Reader α part}
    (each : ∀ part, (item (room - 1) part).Ensures holds) (bytes : Bytes) :
    (expectList room expected item bytes).Ensures (∀ value ∈ ·, holds value) := by
  unfold expectList
  split
  · exact Reader.ensures_error _
  · dsimp only
    split
    · split
      · exact Reader.ensures_error _
      · rw [Reader.ensures_later_iff]
        exact ensures_readItems (fun _ part _ => each part) _ _
    · exact Reader.ensures_error _

theorem ensures_readSlotsFrom {field : σ → String → (part : Bytes) → Reader σ part}
    (each : ∀ state name part, keeps state → (field state name part).Ensures keeps)
    (index : Nat) (name : String) (names : List String) {state : σ} (kept : keeps state)
    (bytes : Bytes) : (readSlotsFrom field index name names state bytes).Ensures keeps := by
  have left : ∀ {index : Nat} {name : String} {state : σ} {bytes : Bytes}
      {parsed : Parsed σ bytes}, keeps state →
        (field state name bytes).within (.index index) = .ok parsed → keeps parsed.value :=
    fun kept answer => Reader.ensures_within_iff.mpr (each _ _ _ kept) _ answer
  fun_induction readSlotsFrom field index name names state bytes with
  | case2 index name state bytes next after shorter answer =>
      rw [Reader.ensures_later_iff, Reader.ensures_map_iff]
      have held := left kept answer
      exact Reader.ensures_of_forall fun _ => held
  | case4 index name state bytes next after shorter answer =>
      have held := left kept answer
      exact Reader.ensures_ok_iff.mpr held
  | case7 index name state bytes next after shorter answer _ _ _ _ _ _ _ _ _ _ _ _ _ induction =>
      exact Reader.ensures_later_iff.mpr (induction (left kept answer))
  | _ => exact Reader.ensures_error _

theorem ensures_readSlots {field : σ → String → (part : Bytes) → Reader σ part}
    (each : ∀ state name part, keeps state → (field state name part).Ensures keeps)
    (names : List String) {state : σ} (kept : keeps state) (bytes : Bytes) :
    (readSlots field names state bytes).Ensures keeps := by
  unfold readSlots
  split
  · exact Reader.ensures_error _
  · dsimp only
    split
    · rw [Reader.ensures_widen_iff, Reader.ensures_map_iff]
      exact Reader.ensures_of_forall fun _ => kept
    · split
      · exact Reader.ensures_ok_iff.mpr kept
      · rw [Reader.ensures_widen_iff]
        exact ensures_readSlotsFrom each _ _ _ kept _

variable {format : RecordFormat σ α}

theorem ensures_completed
    (completes : ∀ state result, keeps state → format.complete state = .ok result → holds result)
    {missing : String → Cause} {bytes : Bytes} {read : Reader σ bytes}
    (ensures : read.Ensures keeps) : (completed format missing read).Ensures holds := by
  unfold completed
  split
  · exact Reader.ensures_error _
  · rename_i state rest shorter
    split
    · rename_i result complete
      exact Reader.ensures_ok_iff.mpr
        (completes state result (Reader.ensures_ok_iff.mp ensures) complete)
    · exact Reader.ensures_error _

theorem ensures_expectRecord
    {field : (room : Nat) → σ → String → (part : Bytes) → Reader σ part} {room : Nat}
    (start : keeps format.start)
    (each : ∀ state name part, keeps state → (field (room - 1) state name part).Ensures keeps)
    (completes : ∀ state result, keeps state → format.complete state = .ok result → holds result)
    (bytes : Bytes) : (expectRecord format field room bytes).Ensures holds := by
  unfold expectRecord
  split
  · exact Reader.ensures_error _
  · dsimp only
    split
    · split
      · exact Reader.ensures_error _
      · split
        · rw [Reader.ensures_later_iff]
          exact ensures_completed completes (ensures_readSlots each _ start _)
        · rw [Reader.ensures_later_iff]
          refine ensures_completed completes (ensures_readMembers (fun state key part _ kept => ?_)
            start _ _)
          rw [Reader.ensures_within_iff]
          split
          · exact each state key part kept
          · rw [Reader.ensures_map_iff]
            exact Reader.ensures_of_forall fun _ => kept
    · exact Reader.ensures_error _

end

end Reading

end FilterSynthesis
