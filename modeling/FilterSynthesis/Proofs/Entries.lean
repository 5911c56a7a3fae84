import FilterSynthesis.Entries
import Mathlib.Data.List.Perm.Subperm

namespace FilterSynthesis.Entries

variable {α β : Type}

theorem same_keys_iff {lefts : Entries α} {rights : Entries β}
    (distinctLeft : (keys lefts).Nodup) (distinctRight : (keys rights).Nodup) :
    (∀ key, key ∈ keys lefts ↔ key ∈ keys rights) ↔
      lefts.length = rights.length ∧ ∀ entry ∈ lefts, entry.1 ∈ keys rights := by
  constructor
  · intro agree
    have permuted := (List.perm_ext_iff_of_nodup distinctLeft distinctRight).mpr agree
    constructor
    · simpa [keys] using permuted.length_eq
    · intro entry member
      exact (agree entry.1).mp (List.mem_map_of_mem member)
  · intro covered
    obtain ⟨lengths, found⟩ := covered
    have within : keys lefts ⊆ keys rights := by
      intro key listed
      obtain ⟨entry, member, rfl⟩ := List.mem_map.mp listed
      exact found entry member
    have permuted : (keys lefts).Perm (keys rights) := by
      apply (distinctLeft.subperm within).perm_of_length_le
      simp [keys, lengths]
    exact fun key => permuted.mem_iff

theorem nodup_keys_put {entries : Entries α} (distinct : (keys entries).Nodup) (key : String)
    (value : α) : (keys (put key value entries)).Nodup := by
  rw [keys_put]
  split
  · exact distinct
  · rename_i fresh
    exact (List.perm_append_singleton key (keys entries)).nodup_iff.mpr
      (List.nodup_cons.mpr ⟨fresh, distinct⟩)

theorem forall_mem_put {holds : α → Prop} {entries : Entries α} {value : α} (new : holds value)
    (each : ∀ entry ∈ entries, holds entry.2) (key : String) :
    ∀ entry ∈ put key value entries, holds entry.2 := by
  induction entries with
  | nil => exact List.forall_mem_singleton.mpr new
  | cons first rest induction =>
      obtain ⟨here, there⟩ := List.forall_mem_cons.mp each
      rw [put]
      split
      · exact List.forall_mem_cons.mpr ⟨new, there⟩
      · exact List.forall_mem_cons.mpr ⟨here, induction there⟩

end FilterSynthesis.Entries
