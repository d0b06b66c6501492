import Mathlib.Algebra.Group.Nat.Defs
import ShaderLowering.Proofs.Buffer.Legal

/-!
# The bytes of a layout

What the bytes of a constant buffer hold.  They are zeros over which the values have
been written, one after the other, at places that were chosen before the first one
was written.  No value is written over another one, so that each is found where it was
put, component by component and least significant byte first, and whatever lies between
the values is still zero.

A list of kinds is all that is needed to read the values back: it gives the places, and
the kind at a place says how its bytes are to be read.

## Main definitions

* `overwrite`, `writeValues` — writing into a buffer that is there.
* `Kind.read` — the value of a kind that bytes spell.
* `Layout.unpack` — the values of given kinds in the bytes of a buffer.

## Main statements

* `image_eq_append` — the bytes of a value stand unchanged at its place.
* `writeValues_zeros` — the bytes of several values are what writing them leaves.
* `Value.read_bytes` — the bytes of a value spell it.
* `pack_bytes` — what the bytes of a layout hold, and that nothing is lost.
-/

namespace ShaderLowering.Buffer

/-! ## Components -/

/-- The bits of a component as a number. -/
def Lane.number : Lane → Nat
  | word bits | float bits => bits.toNat
  | double bits => bits.toNat

/-- The number of bytes of a component. -/
def Lane.width : Lane → Nat
  | word _ | float _ => 4
  | double _ => 8

/-- The number of bytes of each component of a kind. -/
def Kind.laneWidth : Kind → Nat
  | double | double2 | double3 | double4 => 8
  | _ => 4

theorem Kind.laneWidth_pos (k : Kind) : 0 < k.laneWidth := by
  cases k <;> decide

/-- The byte at a place of a number is its digit there. -/
theorem getElem?_bytesOf {count index : Nat} (n : Nat) (h : index < count) :
    (bytesOf count n)[index]? = some (UInt8.ofNat (n / 256 ^ index)) := by
  induction count generalizing n index with
  | zero => omega
  | succ count ih =>
    cases index with
    | zero => simp [bytesOf]
    | succ index =>
      rw [bytesOf, List.getElem?_cons_succ, ih _ (Nat.lt_of_succ_lt_succ h), Nat.div_div_eq_div_mul,
        Nat.pow_succ']

namespace Lane

theorem bytes_eq (l : Lane) : l.bytes = bytesOf l.width l.number := by
  cases l <;> rfl

@[simp] theorem length_bytes_lane (l : Lane) : l.bytes.length = l.width := by
  rw [bytes_eq, length_bytesOf]

theorem number_lt (l : Lane) : l.number < 256 ^ l.width := by
  cases l with
  | word bits => exact bits.toNat_lt
  | float bits => exact bits.toNat_lt
  | double bits => exact bits.toNat_lt

/-- Nothing is cut off a component. -/
theorem numberOf_bytes (l : Lane) : numberOf l.bytes = l.number := by
  rw [bytes_eq, numberOf_bytesOf]
  exact Nat.mod_eq_of_lt l.number_lt

end Lane

/-- Among components of one width, the bytes of each stand behind those of the ones
before it. -/
theorem getElem?_flatMap_bytes {ls : List Lane} {width place index : Nat} {l : Lane}
    (uniform : ∀ l ∈ ls, l.width = width) (hl : ls[place]? = some l) (hi : index < width) :
    (ls.flatMap Lane.bytes)[place * width + index]?
      = some (UInt8.ofNat (l.number / 256 ^ index)) := by
  induction ls generalizing place with
  | nil => cases hl
  | cons first ls ih =>
    obtain ⟨first_width, uniform⟩ := List.forall_mem_cons.1 uniform
    have first_length : first.bytes.length = width := first.length_bytes_lane.trans first_width
    rw [List.flatMap_cons]
    cases place with
    | zero =>
      obtain rfl : first = l := Option.some.inj hl
      rw [Nat.zero_mul, Nat.zero_add, List.getElem?_append_left (first_length ▸ hi),
        first.bytes_eq]
      exact getElem?_bytesOf _ (first_width ▸ hi)
    | succ place =>
      have behind : (place + 1) * width + index = first.bytes.length + (place * width + index) := by
        rw [first_length, Nat.succ_mul]
        omega
      rw [behind, List.getElem?_append_right (Nat.le_add_right _ _), Nat.add_sub_cancel_left]
      exact ih uniform hl

namespace Value

/-- All components of a value have the width that its kind says. -/
theorem width_of_mem_lanes (v : Value) : ∀ l ∈ v.lanes, l.width = v.kind.laneWidth := by
  cases v <;> simp [lanes, kind, Lane.width, Kind.laneWidth]

/-- The components of a value fill its place. -/
theorem size_eq_mul (v : Value) : v.size = v.lanes.length * v.kind.laneWidth := by
  cases v <;> rfl

end Value

/-! ## Reading values -/

/-- The numbers that bytes spell, one for each `width` of them. -/
def numbersOf (width : Nat) : (count : Nat) → List UInt8 → List Nat
  | 0, _ => []
  | count + 1, bytes =>
    numberOf (bytes.take width) :: numbersOf width count (bytes.drop width)

/-- The value of a kind whose components have some bits.  A truth value has no word but
zero and one. -/
def Kind.ofNumbers : Kind → List Nat → Option Value
  | bool, [0] => some (.bool false)
  | bool, [1] => some (.bool true)
  | bool2, [x, y] => some (.bool2 (.ofNat x) (.ofNat y))
  | bool3, [x, y, z] => some (.bool3 (.ofNat x) (.ofNat y) (.ofNat z))
  | bool4, [x, y, z, w] => some (.bool4 (.ofNat x) (.ofNat y) (.ofNat z) (.ofNat w))
  | int, [x] => some (.int (UInt32.ofNat x).toInt32)
  | int2, [x, y] => some (.int2 (UInt32.ofNat x).toInt32 (UInt32.ofNat y).toInt32)
  | int3, [x, y, z] =>
    some (.int3 (UInt32.ofNat x).toInt32 (UInt32.ofNat y).toInt32 (UInt32.ofNat z).toInt32)
  | int4, [x, y, z, w] =>
    some (.int4 (UInt32.ofNat x).toInt32 (UInt32.ofNat y).toInt32 (UInt32.ofNat z).toInt32
      (UInt32.ofNat w).toInt32)
  | uint, [x] => some (.uint (.ofNat x))
  | uint2, [x, y] => some (.uint2 (.ofNat x) (.ofNat y))
  | uint3, [x, y, z] => some (.uint3 (.ofNat x) (.ofNat y) (.ofNat z))
  | uint4, [x, y, z, w] => some (.uint4 (.ofNat x) (.ofNat y) (.ofNat z) (.ofNat w))
  | float, [x] => some (.float (.ofNat x))
  | float2, [x, y] => some (.float2 (.ofNat x) (.ofNat y))
  | float3, [x, y, z] => some (.float3 (.ofNat x) (.ofNat y) (.ofNat z))
  | float4, [x, y, z, w] => some (.float4 (.ofNat x) (.ofNat y) (.ofNat z) (.ofNat w))
  | vector2, [x, y] => some (.vector2 (.ofNat x) (.ofNat y))
  | vector3, [x, y, z] => some (.vector3 (.ofNat x) (.ofNat y) (.ofNat z))
  | vector4, [x, y, z, w] => some (.vector4 (.ofNat x) (.ofNat y) (.ofNat z) (.ofNat w))
  | double, [x] => some (.double (.ofNat x))
  | double2, [x, y] => some (.double2 (.ofNat x) (.ofNat y))
  | double3, [x, y, z] => some (.double3 (.ofNat x) (.ofNat y) (.ofNat z))
  | double4, [x, y, z, w] => some (.double4 (.ofNat x) (.ofNat y) (.ofNat z) (.ofNat w))
  | _, _ => none

/-- The value of a kind that bytes spell. -/
def Kind.read (k : Kind) (bytes : List UInt8) : Option Value :=
  k.ofNumbers (numbersOf k.laneWidth (k.size / k.laneWidth) bytes)

/-- Components of one width are read off their bytes one by one. -/
theorem numbersOf_flatMap_bytes {ls : List Lane} {width : Nat}
    (uniform : ∀ l ∈ ls, l.width = width) :
    numbersOf width ls.length (ls.flatMap Lane.bytes) = ls.map Lane.number := by
  induction ls with
  | nil => rfl
  | cons l ls ih =>
    obtain ⟨first, uniform⟩ := List.forall_mem_cons.1 uniform
    have length_eq : l.bytes.length = width := l.length_bytes_lane.trans first
    rw [List.flatMap_cons, List.length_cons, numbersOf, List.take_left' length_eq,
      List.drop_left' length_eq, l.numberOf_bytes, ih uniform, List.map_cons]

/-- The bits of its components make a value up. -/
theorem Value.ofNumbers_lanes (v : Value) :
    v.kind.ofNumbers (v.lanes.map Lane.number) = some v := by
  cases v with
  | bool x => cases x <;> rfl
  | _ => simp [kind, lanes, Lane.number, Kind.ofNumbers]

/-- **The bytes of a value spell it**, whatever its kind and its bits. -/
theorem Value.read_bytes (v : Value) : v.kind.read v.bytes = some v := by
  have count : v.kind.size / v.kind.laneWidth = v.lanes.length := by
    change v.size / v.kind.laneWidth = _
    rw [v.size_eq_mul, Nat.mul_div_cancel _ v.kind.laneWidth_pos]
  rw [Kind.read, count, bytes, numbersOf_flatMap_bytes v.width_of_mem_lanes, v.ofNumbers_lanes]

/-! ## The bytes of several values -/

/-- The first of several values starts at the first place that fits, and the others
follow behind it. -/
theorem placements_map_cons (cursor : Nat) (v : Value) (vs : List Value) :
    placements cursor ((v :: vs).map Value.kind)
      = ⟨alignedOffset cursor v.size, v.size, v.kind⟩
        :: placements (alignedOffset cursor v.size + v.size) (vs.map Value.kind) := rfl

theorem endOffset_map_cons (cursor : Nat) (v : Value) (vs : List Value) :
    endOffset cursor ((v :: vs).map Value.kind)
      = endOffset (alignedOffset cursor v.size + v.size) (vs.map Value.kind) := rfl

/-- The bytes of a value stand unchanged at its place, which is as large as its kind
says. -/
theorem image_eq_append {cursor : Nat} {vs : List Value} {v : Value} {p : Placement}
    (h : (v, p) ∈ vs.zip (placements cursor (vs.map Value.kind))) :
    p.kind = v.kind ∧ p.size = v.size ∧ ∃ before after,
      image cursor vs = before ++ v.bytes ++ after ∧ cursor + before.length = p.offset := by
  induction vs generalizing cursor with
  | nil => cases h
  | cons first vs ih =>
    have le_start := le_alignedOffset cursor first.size
    rw [placements_map_cons, List.zip_cons_cons] at h
    rcases List.mem_cons.1 h with here | later
    · obtain ⟨rfl, rfl⟩ := Prod.mk.inj here
      refine ⟨rfl, rfl, List.replicate (alignedOffset cursor v.size - cursor) 0, _, rfl, ?_⟩
      rw [List.length_replicate]
      exact Nat.add_sub_cancel' le_start
    · obtain ⟨kind_eq, size_eq, before, after, split, place⟩ := ih later
      let padding := List.replicate (alignedOffset cursor first.size - cursor) (0 : UInt8)
      refine ⟨kind_eq, size_eq, padding ++ first.bytes ++ before, after, ?_, ?_⟩
      · rw [image, split]
        simp only [padding, List.append_assoc]
      · simp only [padding, List.length_append, List.length_replicate, Value.length_bytes]
        omega

/-- Behind a cursor, the bytes of values reach to the end of the last one. -/
theorem length_image (cursor : Nat) (vs : List Value) :
    cursor + (image cursor vs).length = endOffset cursor (vs.map Value.kind) := by
  induction vs generalizing cursor with
  | nil => rfl
  | cons v vs ih =>
    have le_start := le_alignedOffset cursor v.size
    rw [endOffset_map_cons, ← ih, image]
    simp only [List.length_append, List.length_replicate, Value.length_bytes]
    omega

/-- What lies between the values is zero. -/
theorem image_eq_zero {cursor index : Nat} {vs : List Value} {b : UInt8}
    (hb : (image cursor vs)[index]? = some b)
    (free : ∀ p ∈ placements cursor (vs.map Value.kind),
      cursor + index < p.offset ∨ p.finish ≤ cursor + index) : b = 0 := by
  induction vs generalizing cursor index with
  | nil => cases hb
  | cons v vs ih =>
    have le_start := le_alignedOffset cursor v.size
    rw [placements_map_cons] at free
    obtain ⟨here, later⟩ := List.forall_mem_cons.1 free
    simp only [Placement.finish] at here
    rw [image, List.append_assoc] at hb
    rcases here with padding | behind
    · rw [List.getElem?_append_left (by rw [List.length_replicate]; omega)] at hb
      exact List.eq_of_mem_replicate (List.mem_of_getElem? hb)
    · -- Behind the value, the byte is one of the other values' bytes.
      rw [List.getElem?_append_right (by rw [List.length_replicate]; omega),
        List.getElem?_append_right (by rw [List.length_replicate, v.length_bytes]; omega)] at hb
      refine ih hb fun p hp => ?_
      have := later p hp
      simp only [List.length_replicate, Value.length_bytes]
      omega

/-! ## Writing into a buffer -/

/-- Writes bytes over those of a buffer, from an offset on. -/
def overwrite (buffer : List UInt8) (offset : Nat) (bytes : List UInt8) : List UInt8 :=
  buffer.take offset ++ bytes ++ buffer.drop (offset + bytes.length)

/-- Writes values to their places in a buffer, first to last. -/
def writeValues (buffer : List UInt8) (placed : List (Value × Placement)) : List UInt8 :=
  placed.foldl (fun buffer vp => overwrite buffer vp.2.offset vp.1.bytes) buffer

@[simp] theorem writeValues_nil (buffer : List UInt8) : writeValues buffer [] = buffer := rfl

theorem writeValues_cons (buffer : List UInt8) (v : Value) (p : Placement)
    (placed : List (Value × Placement)) :
    writeValues buffer ((v, p) :: placed)
      = writeValues (overwrite buffer p.offset v.bytes) placed := rfl

/-- A buffer that begins with some bytes and is zero behind them. -/
def zerosBehind (before : List UInt8) (size : Nat) : List UInt8 :=
  before ++ List.replicate (size - before.length) 0

/-- Bytes that are written to the zeros of a buffer leave zeros in front of them and
behind them. -/
theorem overwrite_zerosBehind {before bytes : List UInt8} {start size : Nat}
    (behind : before.length ≤ start) (fits : start + bytes.length ≤ size) :
    overwrite (zerosBehind before size) start bytes
      = zerosBehind (before ++ List.replicate (start - before.length) 0 ++ bytes) size := by
  obtain ⟨gap, rfl⟩ := Nat.exists_eq_add_of_le behind
  have front : (zerosBehind before size).take (before.length + gap)
      = before ++ List.replicate gap 0 := by
    rw [zerosBehind, List.take_length_add_append, List.take_replicate, Nat.min_eq_left (by omega)]
  have back : (zerosBehind before size).drop (before.length + gap + bytes.length)
      = List.replicate (size - (before.length + gap + bytes.length)) 0 := by
    rw [zerosBehind, Nat.add_assoc, List.drop_length_add_append, List.drop_replicate,
      Nat.sub_sub]
  rw [overwrite, front, back, Nat.add_sub_cancel_left, zerosBehind]
  simp only [List.length_append, List.length_replicate]

/-- Writing values behind a cursor leaves their bytes there.  Whatever has been written
before is in front of the cursor, so nothing of it is written over. -/
theorem writeValues_zerosBehind (before : List UInt8) {vs : List Value} {size : Nat}
    (fits : endOffset before.length (vs.map Value.kind) ≤ size) :
    writeValues (zerosBehind before size)
        (vs.zip (placements before.length (vs.map Value.kind)))
      = zerosBehind (before ++ image before.length vs) size := by
  induction vs generalizing before with
  | nil => simp [image]
  | cons v vs ih =>
    let start := alignedOffset before.length v.size
    let written := before ++ List.replicate (start - before.length) 0 ++ v.bytes
    have le_start : before.length ≤ start := le_alignedOffset before.length v.size
    have written_length : written.length = start + v.size := by
      simp only [written, List.length_append, List.length_replicate, Value.length_bytes]
      omega
    have fits_rest : endOffset written.length (vs.map Value.kind) ≤ size := by
      rwa [written_length, ← endOffset_map_cons]
    have fits_first : start + v.bytes.length ≤ size := by
      have := length_image written.length vs
      rw [v.length_bytes]
      omega
    have places : placements before.length ((v :: vs).map Value.kind)
        = ⟨start, v.size, v.kind⟩ :: placements written.length (vs.map Value.kind) := by
      rw [written_length, placements_map_cons]
    have bytes_eq : before ++ image before.length (v :: vs)
        = written ++ image written.length vs := by
      rw [image, written_length]
      simp only [written, start, List.append_assoc]
    rw [places, List.zip_cons_cons, writeValues_cons, overwrite_zerosBehind le_start fits_first,
      ih written fits_rest, bytes_eq]

/-! ## Layouts -/

/-- The values of given kinds in the bytes of a buffer.  Where they stand follows from
the kinds. -/
def Layout.unpack (kinds : List Kind) (bytes : List UInt8) : Option (List Value) :=
  (placements 0 kinds).mapM fun p => p.kind.read ((bytes.drop p.offset).take p.size)

/-- The room in use is within the buffer. -/
theorem endOffset_le_size (values : List Value) :
    endOffset 0 (values.map Value.kind) ≤ (Layout.pack values).slots * registerSize := by
  change _ ≤ max values.length (registersFor (endOffset 0 (values.map Value.kind))) * registerSize
  unfold registersFor registerSize
  omega

theorem bytes_pack (values : List Value) :
    (Layout.pack values).bytes
      = zerosBehind (image 0 values) ((Layout.pack values).slots * registerSize) := by
  have used := length_image 0 values
  rw [Nat.zero_add] at used
  rw [zerosBehind, used]
  rfl

/-- The bytes of a layout are what is left of zeros when the values have been written over
them. -/
theorem writeValues_zeros (values : List Value) :
    writeValues (List.replicate ((Layout.pack values).slots * registerSize) 0)
        (values.zip (Layout.pack values).entries)
      = (Layout.pack values).bytes := by
  have written := writeValues_zerosBehind [] (endOffset_le_size values)
  exact written.trans (bytes_pack values).symm

/-- A buffer has as many bytes as its registers. -/
theorem length_bytes_pack (values : List Value) :
    (Layout.pack values).bytes.length = (Layout.pack values).slots * registerSize := by
  have used := length_image 0 values
  have room := endOffset_le_size values
  rw [bytes_pack, zerosBehind, List.length_append, List.length_replicate]
  omega

/-- A buffer holds the bytes of each value at its place. -/
theorem slice_bytes_pack {values : List Value} {v : Value} {p : Placement}
    (h : (v, p) ∈ values.zip (Layout.pack values).entries) :
    ((Layout.pack values).bytes.drop p.offset).take p.size = v.bytes := by
  obtain ⟨-, size_eq, before, after, split, place⟩ := image_eq_append h
  rw [Nat.zero_add] at place
  rw [bytes_pack, zerosBehind, split, List.append_assoc, List.append_assoc, ← place,
    List.drop_left, size_eq, ← v.length_bytes, List.take_left]

/-- A place within a slice of a buffer is a place of the buffer. -/
theorem getElem?_of_slice {buffer bytes : List UInt8} {offset size index : Nat}
    (h : (buffer.drop offset).take size = bytes) (hi : index < bytes.length) :
    buffer[offset + index]? = bytes[index]? := by
  subst h
  rw [List.length_take] at hi
  rw [List.getElem?_take_of_lt (by omega), List.getElem?_drop]

/-- Reading one place after the other reads a list, if each place holds the element of
the list that belongs to it. -/
theorem mapM_eq_some_of_zip {read : Placement → Option Value} {ps : List Placement}
    {vs : List Value} (length_eq : vs.length = ps.length)
    (found : ∀ v p, (v, p) ∈ vs.zip ps → read p = some v) : ps.mapM read = some vs := by
  induction ps generalizing vs with
  | nil => rw [List.eq_nil_of_length_eq_zero length_eq]; rfl
  | cons p ps ih =>
    obtain ⟨v, vs, rfl⟩ := List.exists_cons_of_length_eq_add_one length_eq
    have first : read p = some v := found v p List.mem_cons_self
    have rest : ps.mapM read = some vs :=
      ih (Nat.succ.inj length_eq) fun v p h => found v p (List.mem_cons_of_mem _ h)
    rw [List.mapM_cons, first, rest]
    rfl

@[simp] theorem length_placements (cursor : Nat) (ks : List Kind) :
    (placements cursor ks).length = ks.length := by
  rw [← List.length_map Placement.kind, map_kind_placements]

/-- What has been laid out is read back. -/
theorem unpack_bytes (values : List Value) :
    Layout.unpack (values.map Value.kind) (Layout.pack values).bytes = some values := by
  refine mapM_eq_some_of_zip (by simp) fun v p h => ?_
  have slice := slice_bytes_pack h
  rw [slice, (image_eq_append h).1, v.read_bytes]

/-- **A layout holds every value unchanged, and zeros elsewhere.**  Its bytes are zeros
over which the values are written one after the other, at the places found before.  At
its place each value stands component by component, from the lowest byte of a component
to the highest, and the components fill the place; a byte outside every place is zero.
From their kinds alone the values are read back, so that layouts of the same kinds with
the same bytes are layouts of the same values, bit for bit. -/
theorem pack_bytes (values : List Value) :
    let layout := Layout.pack values
    layout.bytes = writeValues (List.replicate (layout.slots * registerSize) 0)
        (values.zip layout.entries) ∧
    (∀ v p, (v, p) ∈ values.zip layout.entries →
      p.size = v.lanes.length * v.kind.laneWidth ∧
      ∀ place lane, v.lanes[place]? = some lane → ∀ index < v.kind.laneWidth,
        layout.bytes[p.offset + (place * v.kind.laneWidth + index)]?
          = some (UInt8.ofNat (lane.number / 256 ^ index))) ∧
    (∀ index b, layout.bytes[index]? = some b →
      (∀ p ∈ layout.entries, index < p.offset ∨ p.finish ≤ index) → b = 0) ∧
    Layout.unpack (values.map Value.kind) layout.bytes = some values ∧
    ∀ others : List Value, others.map Value.kind = values.map Value.kind →
      (Layout.pack others).bytes = layout.bytes → others = values := by
  intro layout
  refine ⟨?_, fun v p h => ?_, fun index b hb free => ?_, unpack_bytes values,
    fun others kinds_eq bytes_eq => ?_⟩
  · have written := writeValues_zerosBehind [] (endOffset_le_size values)
    exact (bytes_pack values).trans written.symm
  · have size_eq : p.size = v.lanes.length * v.kind.laneWidth :=
      (image_eq_append h).2.1.trans v.size_eq_mul
    refine ⟨size_eq, fun place lane hl index hi => ?_⟩
    have found := getElem?_flatMap_bytes v.width_of_mem_lanes hl hi
    have inside : place * v.kind.laneWidth + index < v.bytes.length :=
      (List.getElem?_eq_some_iff.1 found).1
    rw [getElem?_of_slice (slice_bytes_pack h) inside]
    exact found
  · rw [show layout.bytes = _ from bytes_pack values, zerosBehind] at hb
    rcases Nat.lt_or_ge index (image 0 values).length with inside | behind
    · rw [List.getElem?_append_left inside] at hb
      exact image_eq_zero hb fun p hp => (Nat.zero_add index).symm ▸ free p hp
    · rw [List.getElem?_append_right behind] at hb
      exact List.eq_of_mem_replicate (List.mem_of_getElem? hb)
  · have read := unpack_bytes others
    rw [kinds_eq, bytes_eq, unpack_bytes values] at read
    exact (Option.some.inj read).symm

-- A truth value, a gap, and a wide value whose lowest byte comes first.
example : Layout.unpack [.bool, .double3] (Layout.pack [.bool true, .double3 1 258 0]).bytes
    = some [.bool true, .double3 1 258 0] := by decide

end ShaderLowering.Buffer
