/-!
# Dictionaries

A finite map as a list of entries with distinct keys, in the order in which the
keys were first inserted.  Lookup is linear; the tables of this library are
small, and a list is easy to compute with in proofs.

## Main definitions

* `Dictionary` — the entries, and that their keys differ.
* `Dictionary.insert`, `Dictionary.get?`, `Dictionary.size` — the operations.
-/

namespace ShaderLowering

/-- Entries with `key` bound to `value`, in the place of the old entry if there
is one and at the end otherwise. -/
def bindEntry {κ ν : Type} [DecidableEq κ] (key : κ) (value : ν) : List (κ × ν) → List (κ × ν)
  | [] => [(key, value)]
  | (k, v) :: rest =>
    if k = key then (key, value) :: rest else (k, v) :: bindEntry key value rest

theorem keys_bindEntry {κ ν : Type} [DecidableEq κ] (key : κ) (value : ν) (l : List (κ × ν)) :
    (bindEntry key value l).map Prod.fst
      = if key ∈ l.map Prod.fst then l.map Prod.fst else l.map Prod.fst ++ [key] := by
  induction l with
  | nil => simp [bindEntry]
  | cons e rest ih =>
    obtain ⟨k, v⟩ := e
    by_cases h : k = key
    · simp [bindEntry, h]
    · have h' : ¬ key = k := fun hk => h hk.symm
      by_cases hm : key ∈ rest.map Prod.fst
      · rw [if_pos hm] at ih
        simp only [bindEntry, h, if_false, List.map_cons, ih]
        rw [if_pos (List.mem_cons_of_mem _ hm)]
      · rw [if_neg hm] at ih
        simp only [bindEntry, h, if_false, List.map_cons, ih]
        rw [if_neg (by simp [h']; simpa using hm), List.cons_append]

theorem lookup_bindEntry {κ ν : Type} [DecidableEq κ] (key k : κ) (value : ν)
    (l : List (κ × ν)) :
    (bindEntry key value l).lookup k = if k = key then some value else l.lookup k := by
  induction l with
  | nil =>
    by_cases h : k = key
    · simp [bindEntry, h]
    · have hb : (k == key) = false := by simpa using h
      simp [bindEntry, List.lookup_cons, h, hb]
  | cons e rest ih =>
    obtain ⟨k', v⟩ := e
    by_cases h : k = k'
    · subst h
      by_cases h' : k = key <;> simp [bindEntry, h']
    · have hb : (k == k') = false := by simpa using h
      by_cases h' : k' = key
      · subst h'
        simp [bindEntry, List.lookup_cons, h, hb]
      · simp [bindEntry, List.lookup_cons, h', hb, ih]

/-- A finite map, as entries with distinct keys. -/
structure Dictionary (κ ν : Type) where
  entries : List (κ × ν)
  distinct : (entries.map Prod.fst).Nodup

namespace Dictionary

variable {κ ν : Type} [DecidableEq κ]

/-- The dictionary without entries. -/
def empty : Dictionary κ ν :=
  ⟨[], List.nodup_nil⟩

/-- Binds a key, whether or not it is bound already. -/
def insert (d : Dictionary κ ν) (key : κ) (value : ν) : Dictionary κ ν where
  entries := bindEntry key value d.entries
  distinct := by
    rw [keys_bindEntry]
    split
    · exact d.distinct
    · next h =>
      rw [List.nodup_append]
      refine ⟨d.distinct, by simp, ?_⟩
      rintro a ha b hb rfl
      exact h (List.mem_singleton.1 hb ▸ ha)

/-- The value bound to a key. -/
def get? (d : Dictionary κ ν) (key : κ) : Option ν :=
  d.entries.lookup key

/-- The number of keys. -/
def size (d : Dictionary κ ν) : Nat :=
  d.entries.length

/-- Binds every entry of a list, first to last. -/
def insertAll (d : Dictionary κ ν) (entries : List (κ × ν)) : Dictionary κ ν :=
  entries.foldl (fun d e => d.insert e.1 e.2) d

/-- The dictionary of a list of entries, in which a later entry replaces an
earlier one with the same key. -/
def ofList (entries : List (κ × ν)) : Dictionary κ ν :=
  empty.insertAll entries

@[simp] theorem get?_empty (key : κ) : (empty : Dictionary κ ν).get? key = none := rfl

/-- Inserting changes the value of one key only. -/
@[simp] theorem get?_insert (d : Dictionary κ ν) (key k : κ) (value : ν) :
    (d.insert key value).get? k = if k = key then some value else d.get? k :=
  lookup_bindEntry key k value d.entries

end Dictionary

end ShaderLowering
