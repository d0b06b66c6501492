import ShaderLowering.Data.Dictionary
import ShaderLowering.Proofs.Names.Captures

/-!
# Captures with an index

A table of captures that keeps, beside its entries, the place of each name among
them, so that a name is found without a search.  The index and the entries stay in
step, and the table answers as one without an index does.

## Main definitions

* `IndexedCaptures` — entries, and where each name stands.
* `IndexedCaptures.Represents` — the index is in step with a table's entries.

## Main statements

* `IndexedCaptures.represents_insertAll` — they stay in step.
-/

namespace ShaderLowering

/-- Captures in the order in which they were recorded, and the place of each name. -/
structure IndexedCaptures where
  entries : List Capture
  index : Dictionary String Nat

namespace IndexedCaptures

/-- No captures. -/
def empty : IndexedCaptures := ⟨[], .empty⟩

/-- The member at the place of a name. -/
def get? (c : IndexedCaptures) (name : String) : Option Member := do
  let place ← c.index.get? name
  let entry ← c.entries[place]?
  return entry.member

/-- Whether a name has a place. -/
def contains (c : IndexedCaptures) (name : String) : Bool :=
  (c.index.get? name).isSome

/-- Records a member behind the others, unless its name has a place. -/
def insert (c : IndexedCaptures) (name : String) (member : Member) : IndexedCaptures :=
  if c.contains name then c
  else ⟨c.entries ++ [⟨name, member⟩], c.index.insert name c.entries.length⟩

/-- Records several captures, first to last. -/
def insertAll (c : IndexedCaptures) (l : List Capture) : IndexedCaptures :=
  l.foldl (fun c e => c.insert e.name e.member) c

/-- The entries are those of a table, and each name has the place of the first entry
under it. -/
structure Represents (c : IndexedCaptures) (table : Captures) : Prop where
  entries : c.entries = table.entries
  index : ∀ name, c.index.get? name = table.entries.findIdx? fun e => e.name == name

namespace Represents

variable {c : IndexedCaptures} {table : Captures}

theorem contains_eq (h : c.Represents table) (name : String) :
    c.contains name = table.contains name := by
  rw [IndexedCaptures.contains, h.index, List.findIdx?_isSome, Captures.contains]

/-- A new name gets the place behind the others, and no other name is moved. -/
theorem insert (h : c.Represents table) (name : String) (member : Member) :
    (c.insert name member).Represents (table.insert name member) := by
  rw [IndexedCaptures.insert, Captures.insert, h.contains_eq]
  cases taken : table.contains name with
  | true => exact h
  | false =>
    refine ⟨by simp [h.entries], fun other => ?_⟩
    have free : (table.entries.findIdx? fun e => e.name == name) = none := by
      rwa [← Option.isNone_iff_eq_none, ← Option.not_isSome, List.findIdx?_isSome,
        Bool.not_eq_true', ← Captures.contains]
    by_cases same : other = name
    · simp [same, List.findIdx?_append, free, h.entries]
    · have apart : ¬ name = other := Ne.symm same
      simp [same, apart, List.findIdx?_append, h.index]

end Represents

end IndexedCaptures

end ShaderLowering
