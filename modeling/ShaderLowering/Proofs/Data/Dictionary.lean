import ShaderLowering.Data.Dictionary

/-!
# Inserting several entries

What is found in a dictionary into which the entries of a list have been inserted.  As
long as the keys of the list differ, the order of its entries does not matter.

## Main statements

* `Dictionary.get?_eq_some_iff` — what is found is an entry.
* `Dictionary.get?_insertAll_of_mem`, `Dictionary.get?_insertAll_of_notMem` — what is
  found after inserting several entries.
* `Dictionary.get?_insertAll_of_perm` — in whatever order.
-/

namespace ShaderLowering.Dictionary

variable {κ ν : Type} [DecidableEq κ]

/-- A value that is found is one of the entries. -/
theorem mem_entries_of_get? {d : Dictionary κ ν} {key : κ} {value : ν}
    (h : d.get? key = some value) : (key, value) ∈ d.entries := by
  obtain ⟨before, after, entries_eq, -⟩ := List.lookup_eq_some_iff.1 h
  rw [entries_eq]
  exact List.mem_append_right _ List.mem_cons_self

/-- What is found under a key is the entry with that key. -/
theorem get?_eq_some_iff {d : Dictionary κ ν} {key : κ} {value : ν} :
    d.get? key = some value ↔ (key, value) ∈ d.entries := by
  constructor
  · exact mem_entries_of_get?
  · intro entry
    obtain ⟨before, after, entries_eq⟩ := List.append_of_mem entry
    have distinct := d.distinct
    rw [entries_eq, List.map_append, List.nodup_append] at distinct
    refine List.lookup_eq_some_iff.2 ⟨before, after, entries_eq, ?_⟩
    intro e earlier
    have differs := distinct.2.2 e.1 (List.mem_map_of_mem earlier) key (by simp)
    simpa using Ne.symm differs

@[simp] theorem insertAll_nil (d : Dictionary κ ν) : d.insertAll [] = d := rfl

@[simp] theorem insertAll_cons (d : Dictionary κ ν) (key : κ) (value : ν)
    (entries : List (κ × ν)) :
    d.insertAll ((key, value) :: entries) = (d.insert key value).insertAll entries := rfl

/-- A key that no inserted entry has keeps its value. -/
theorem get?_insertAll_of_notMem (d : Dictionary κ ν) {entries : List (κ × ν)} {key : κ}
    (h : key ∉ entries.map Prod.fst) : (d.insertAll entries).get? key = d.get? key := by
  induction entries generalizing d with
  | nil => rfl
  | cons e entries ih =>
    obtain ⟨k, v⟩ := e
    simp only [List.map_cons, List.mem_cons, not_or] at h
    rw [insertAll_cons, ih (d.insert k v) h.2, get?_insert, if_neg h.1]

/-- A key that one inserted entry has, and no other one, gets its value. -/
theorem get?_insertAll_of_mem (d : Dictionary κ ν) {entries : List (κ × ν)}
    (distinct : (entries.map Prod.fst).Nodup) {key : κ} {value : ν}
    (h : (key, value) ∈ entries) : (d.insertAll entries).get? key = some value := by
  induction entries generalizing d with
  | nil => cases h
  | cons e entries ih =>
    obtain ⟨k, v⟩ := e
    rw [List.map_cons, List.nodup_cons] at distinct
    rw [insertAll_cons]
    rcases List.mem_cons.1 h with here | later
    · obtain ⟨rfl, rfl⟩ := Prod.mk.inj here
      rw [get?_insertAll_of_notMem _ distinct.1, get?_insert, if_pos rfl]
    · exact ih (d.insert k v) distinct.2 later

/-- What is found after inserting entries with distinct keys does not depend on their
order. -/
theorem get?_insertAll_of_perm (d : Dictionary κ ν) {entries others : List (κ × ν)}
    (distinct : (entries.map Prod.fst).Nodup) (perm : others.Perm entries) (key : κ) :
    (d.insertAll others).get? key = (d.insertAll entries).get? key := by
  have keys : (others.map Prod.fst).Perm (entries.map Prod.fst) := perm.map Prod.fst
  by_cases h : key ∈ entries.map Prod.fst
  · obtain ⟨⟨k, value⟩, entry, rfl⟩ := List.mem_map.1 h
    rw [d.get?_insertAll_of_mem distinct entry,
      d.get?_insertAll_of_mem (keys.nodup_iff.2 distinct) (perm.mem_iff.2 entry)]
  · have missing : key ∉ others.map Prod.fst := fun found => h (keys.mem_iff.1 found)
    rw [d.get?_insertAll_of_notMem h, d.get?_insertAll_of_notMem missing]

end ShaderLowering.Dictionary
