import ShaderLowering.Proofs.Buffer.Image

/-!
# The size of a layout

How many registers a layout has, and that it can be computed in words of 64 bits.

Padding is spent in front of a value, so no value pays for itself alone.  What holds is
the bound on the cursor of `endOffset_le`: behind `n` values it has not passed `n`
registers, and one more for each value that is wider than a register.

The second half lays values out once more, with a check at every step that a machine
could stumble over: each sum and each product has to be a word of 64 bits, and each value
has to be written within the buffer.  For any number of values that a 64-bit memory has
room for no check fails, and what comes out is the layout.

## Main definitions

* `word?` — a number that is a word of 64 bits.
* `alignedOffset?`, `placements?`, `writeValues?` — the steps of a layout, checked.
* `Layout.pack?` — a layout, checked.

## Main statements

* `pack?_eq_some` — no check fails.
* `pack_bounds` — the size of a layout, and that it is computed without overflow.
-/

namespace ShaderLowering.Buffer

/-! ## Where values end -/

theorem Kind.isWide_iff (k : Kind) : k.isWide = true ↔ k = .double3 ∨ k = .double4 := by
  cases k <;> decide

/-- The cursor only moves on. -/
theorem le_endOffset (cursor : Nat) (ks : List Kind) : cursor ≤ endOffset cursor ks := by
  induction ks generalizing cursor with
  | nil => exact Nat.le_refl cursor
  | cons k ks ih =>
    have first := le_alignedOffset cursor k.size
    have rest := ih (alignedOffset cursor k.size + k.size)
    rw [endOffset]
    omega

/-- No value reaches beyond the end of the values. -/
theorem finish_le_endOffset {cursor : Nat} {ks : List Kind} {p : Placement}
    (h : p ∈ placements cursor ks) : p.finish ≤ endOffset cursor ks := by
  induction ks generalizing cursor with
  | nil => cases h
  | cons k ks ih =>
    rw [endOffset]
    rcases List.mem_cons.1 h with here | later
    · rw [here]
      exact le_endOffset _ ks
    · exact ih later

/-! ## How many registers there are -/

theorem length_le_slots_pack (values : List Value) :
    values.length ≤ (Layout.pack values).slots :=
  Nat.le_max_left _ _

/-! ## Words of 64 bits -/

/-- A number, if it is a word of 64 bits. -/
def word? (n : Nat) : Option Nat :=
  if n < 2 ^ 64 then some n else none

theorem word?_of_lt {n : Nat} (h : n < 2 ^ 64) : word? n = some n :=
  if_pos h

/-- The offset of a value, if it is a word. -/
def alignedOffset? (offset size : Nat) : Option Nat :=
  if registerSize - size < offset % registerSize then
    word? (offset + (registerSize - offset % registerSize))
  else some offset

/-- The placements of values of given kinds behind `offset`, and where the last one ends,
if every offset and every end is a word. -/
def placements? (offset : Nat) : List Kind → Option (List Placement × Nat)
  | [] => some ([], offset)
  | k :: ks => do
    let start ← alignedOffset? offset k.size
    let finish ← word? (start + k.size)
    let (rest, used) ← placements? finish ks
    pure (⟨start, k.size, k⟩ :: rest, used)

/-- Writes values to their places in a buffer, first to last, if every place is within the
buffer and has as many bytes as the value. -/
def writeValues? (buffer : List UInt8) : List (Value × Placement) → Option (List UInt8)
  | [] => some buffer
  | (v, p) :: placed => do
    let finish ← word? (p.offset + p.size)
    if finish ≤ buffer.length ∧ v.bytes.length = p.size then
      writeValues? (overwrite buffer p.offset v.bytes) placed
    else none

/-- The layout of a list of values, if no number on the way is more than a word and no
value is written outside the buffer. -/
def Layout.pack? (values : List Value) : Option Layout := do
  let (entries, used) ← placements? 0 (values.map Value.kind)
  let slots := max values.length (registersFor used)
  let size ← word? (slots * registerSize)
  let bytes ← writeValues? (List.replicate size 0) (values.zip entries)
  pure ⟨bytes, entries, used, slots⟩

/-! ### No check fails -/

theorem alignedOffset?_eq_some {offset size : Nat} (small : alignedOffset offset size < 2 ^ 64) :
    alignedOffset? offset size = some (alignedOffset offset size) := by
  unfold alignedOffset alignedOffset? at *
  by_cases straddles : registerSize - size < offset % registerSize
  · rw [if_pos straddles] at small
    simp only [straddles, if_true, word?_of_lt small]
  · simp only [straddles, if_false]

/-- Nothing in front of the end of the values is more than a word, if the end is not. -/
theorem placements?_eq_some {cursor : Nat} {ks : List Kind}
    (small : endOffset cursor ks < 2 ^ 64) :
    placements? cursor ks = some (placements cursor ks, endOffset cursor ks) := by
  induction ks generalizing cursor with
  | nil => rfl
  | cons k ks ih =>
    rw [endOffset] at small
    have ends := le_endOffset (alignedOffset cursor k.size + k.size) ks
    have start : alignedOffset? cursor k.size = some (alignedOffset cursor k.size) :=
      alignedOffset?_eq_some (by omega)
    have finish : word? (alignedOffset cursor k.size + k.size)
        = some (alignedOffset cursor k.size + k.size) := word?_of_lt (by omega)
    rw [placements?, start, Option.bind_eq_bind, Option.bind_some, finish, Option.bind_eq_bind,
      Option.bind_some, ih small]
    rfl

/-- Writing within a buffer keeps its length. -/
theorem length_overwrite {buffer bytes : List UInt8} {offset : Nat}
    (inside : offset + bytes.length ≤ buffer.length) :
    (overwrite buffer offset bytes).length = buffer.length := by
  simp only [overwrite, List.length_append, List.length_take, List.length_drop]
  omega

/-- Values are written without a check failing, if each place is within the buffer. -/
theorem writeValues?_eq_some {buffer : List UInt8} {placed : List (Value × Placement)}
    (small : buffer.length < 2 ^ 64)
    (sized : ∀ v p, (v, p) ∈ placed → p.size = v.size)
    (inside : ∀ v p, (v, p) ∈ placed → p.finish ≤ buffer.length) :
    writeValues? buffer placed = some (writeValues buffer placed) := by
  induction placed generalizing buffer with
  | nil => rfl
  | cons vp placed ih =>
    obtain ⟨v, p⟩ := vp
    have room : p.offset + p.size ≤ buffer.length := inside v p List.mem_cons_self
    have bytes_eq : v.bytes.length = p.size := by
      rw [v.length_bytes, sized v p List.mem_cons_self]
    have written : (overwrite buffer p.offset v.bytes).length = buffer.length := by
      apply length_overwrite
      rwa [bytes_eq]
    have rest : writeValues? (overwrite buffer p.offset v.bytes) placed
        = some (writeValues (overwrite buffer p.offset v.bytes) placed) := by
      apply ih
      · rwa [written]
      · intro v' p' h
        exact sized v' p' (List.mem_cons_of_mem _ h)
      · intro v' p' h
        rw [written]
        exact inside v' p' (List.mem_cons_of_mem _ h)
    have finish : word? (p.offset + p.size) = some (p.offset + p.size) :=
      word?_of_lt (Nat.lt_of_le_of_lt room small)
    rw [writeValues?, finish, Option.bind_eq_bind, Option.bind_some, if_pos ⟨room, bytes_eq⟩, rest,
      writeValues_cons]

/-- Every value of a layout stands within the buffer. -/
theorem finish_le_length_bytes {values : List Value} {p : Placement}
    (h : p ∈ (Layout.pack values).entries) : p.finish ≤ (Layout.pack values).bytes.length := by
  have ends : p.finish ≤ endOffset 0 (values.map Value.kind) := finish_le_endOffset h
  have room := endOffset_le_size values
  rw [length_bytes_pack]
  omega

/-- If the size of a layout is a word, it is laid out without a check failing. -/
theorem pack?_eq_some {values : List Value}
    (small : (Layout.pack values).slots * registerSize < 2 ^ 64) :
    Layout.pack? values = some (Layout.pack values) := by
  have room := endOffset_le_size values
  have placed : placements? 0 (values.map Value.kind)
      = some ((Layout.pack values).entries, (Layout.pack values).used) :=
    placements?_eq_some (Nat.lt_of_le_of_lt room small)
  have size : word? (max values.length (registersFor (Layout.pack values).used) * registerSize)
      = some ((Layout.pack values).slots * registerSize) := word?_of_lt small
  have bytes : writeValues? (List.replicate ((Layout.pack values).slots * registerSize) 0)
      (values.zip (Layout.pack values).entries) = some (Layout.pack values).bytes := by
    rw [writeValues?_eq_some, writeValues_zeros]
    · rwa [List.length_replicate]
    · intro v p h
      exact (image_eq_append h).2.1
    · intro v p h
      rw [List.length_replicate, ← length_bytes_pack]
      exact finish_le_length_bytes (List.of_mem_zip h).2
  rw [Layout.pack?, placed, Option.bind_eq_bind, Option.bind_some]
  simp only [size, bytes, Option.bind_eq_bind, Option.bind_some]
  rfl

/-! ## The size of a layout -/

theorem countP_isWide (values : List Value) :
    (values.map Value.kind).countP Kind.isWide
      = values.countP fun v => v.kind == .double3 || v.kind == .double4 := by
  rw [List.countP_map]
  apply List.countP_congr
  intro v _
  simp [Kind.isWide_iff]

/-- **How large a layout is, and that nothing overflows on the way.**  A layout has a
register for each value, and at most one more for each value of three or four doubles;
its values end within its registers, and its bytes fill them.  Without such values it has
exactly one register for each value.  Each value stands within the buffer.  And for any
number of values that a 64-bit memory has room for, the layout comes out of the checked
steps as well: each sum and each product is a word of 64 bits, and no value is written
outside the buffer. -/
theorem pack_bounds (values : List Value) :
    let layout := Layout.pack values
    let wide := values.countP fun v => v.kind == .double3 || v.kind == .double4
    (values.length ≤ layout.slots ∧ layout.slots ≤ values.length + wide) ∧
    layout.used ≤ 16 * layout.slots ∧
    layout.bytes.length = 16 * layout.slots ∧
    (wide = 0 → layout.slots = values.length ∧ layout.used ≤ 16 * values.length) ∧
    (∀ p ∈ layout.entries, p.offset + p.size ≤ layout.bytes.length) ∧
    (values.length < 2 ^ 59 → Layout.pack? values = some layout) := by
  intro layout wide
  have least : values.length ≤ layout.slots := length_le_slots_pack values
  have most : layout.slots ≤ values.length + wide := by
    have bound := slots_pack_le_add values
    rwa [countP_isWide] at bound
  have used : layout.used ≤ 16 * layout.slots := by
    have room : layout.used ≤ layout.slots * registerSize := endOffset_le_size values
    rwa [Nat.mul_comm] at room
  have full : layout.bytes.length = 16 * layout.slots := by
    rw [Nat.mul_comm]
    exact length_bytes_pack values
  refine ⟨⟨least, most⟩, used, full, ?_, ?_, ?_⟩
  · intro none_wide
    have exact_slots : layout.slots = values.length := by omega
    rw [← exact_slots]
    exact ⟨rfl, used⟩
  · intro p h
    exact finish_le_length_bytes h
  · intro few
    have wide_le : wide ≤ values.length := List.countP_le_length
    have small : layout.slots * registerSize < 2 ^ 64 := by
      unfold registerSize
      omega
    exact pack?_eq_some small

/-- Values that meet the upper bound: each of the two wide ones takes a second register. -/
theorem pack_bounds_wide :
    let values : List Value := [.float 1, .double3 0 0 0, .double4 0 0 0 0, .bool true]
    values.length < 2 ^ 59 ∧
      (Layout.pack values).slots = 6 ∧ (Layout.pack values).used = 84 ∧
      Layout.pack? values = some (Layout.pack values) := by
  intro values
  have few : values.length < 2 ^ 59 := by decide
  obtain ⟨-, -, -, -, -, checked⟩ := pack_bounds values
  exact ⟨few, by decide, by decide, checked few⟩

-- A cursor just below the largest word is refused, where the sum would not be one.
example : alignedOffset? (2 ^ 64 - 4) 8 = none := by decide

end ShaderLowering.Buffer
