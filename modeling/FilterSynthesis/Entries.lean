namespace FilterSynthesis

/-- A dictionary that remembers the order in which its keys came. -/
abbrev Entries (α : Type) := List (String × α)

namespace Entries

variable {α : Type}

def keys (entries : Entries α) : List String := entries.map (·.1)

def values (entries : Entries α) : List α := entries.map (·.2)

@[simp] theorem keys_nil : keys ([] : Entries α) = [] := rfl

@[simp] theorem keys_cons (entry : String × α) (rest : Entries α) :
    keys (entry :: rest) = entry.1 :: keys rest := rfl

/-- A new key comes last; a key already there keeps its place and takes the new value. -/
def put (key : String) (value : α) : Entries α → Entries α
  | [] => [(key, value)]
  | entry :: rest =>
      if entry.1 = key then (key, value) :: rest else entry :: put key value rest

theorem keys_put (key : String) (value : α) (entries : Entries α) :
    keys (put key value entries) =
      if key ∈ keys entries then keys entries else keys entries ++ [key] := by
  induction entries with
  | nil => rfl
  | cons entry rest induction =>
      by_cases same : entry.1 = key
      · simp [put, same]
      · have other : key ≠ entry.1 := fun equal => same equal.symm
        by_cases member : key ∈ keys rest <;>
          simp [put, same, other, induction, member]

theorem put_of_notMem {key : String} {entries : Entries α} (fresh : key ∉ keys entries)
    (value : α) : put key value entries = entries ++ [(key, value)] := by
  induction entries with
  | nil => rfl
  | cons entry rest induction =>
      simp only [keys_cons, List.mem_cons, not_or] at fresh
      simp only [put, if_neg (Ne.symm fresh.1), induction fresh.2, List.cons_append]

theorem mem_of_lookup {entries : Entries α} {key : String} {value : α}
    (found : entries.lookup key = some value) : (key, value) ∈ entries := by
  obtain ⟨before, after, rfl, _⟩ := List.lookup_eq_some_iff.mp found
  exact List.mem_append_right _ List.mem_cons_self

theorem mem_keys_iff {entries : Entries α} {key : String} :
    key ∈ keys entries ↔ ∃ value, entries.lookup key = some value := by
  rw [← Option.isSome_iff_exists, List.lookup_isSome_iff]
  simp [keys]

theorem lookup_of_mem {entries : Entries α} (distinct : (keys entries).Nodup) {key : String}
    {value : α} (member : (key, value) ∈ entries) : entries.lookup key = some value := by
  obtain ⟨before, after, rfl⟩ := List.append_of_mem member
  refine List.lookup_eq_some_iff.mpr ⟨before, after, rfl, fun entry earlier => ?_⟩
  have apart := (List.nodup_append.mp (by simpa [keys] using distinct)).2.2
  have differs := apart entry.1 (List.mem_map_of_mem earlier) key List.mem_cons_self
  simpa using Ne.symm differs

end Entries

end FilterSynthesis
