import ShaderLowering.Proofs.Buffer.Image

/-!
# Layouts of more values

What becomes of a layout when more values follow.  Nothing that is there moves or changes,
and where the values go that follow depends on the ones before them in one number only:
how far the last register in use is filled.

The offset of a value goes through the whole list, so everything is said of a cursor first.
The rule that places a value repeats itself register by register; a cursor that is whole
registers further on moves every placement by as much, wide values included, and changes
no byte between the values.

## Main definitions

* `Placement.shift` — a placement further on.
* `relativePlacements` — placements as distances from the cursor.

## Main statements

* `placements_append`, `endOffset_append`, `image_append` — values and the ones that follow.
* `placements_add`, `endOffset_add`, `image_add` — a cursor whole registers further on.
* `relativePlacements_mod` — the register of the cursor does not matter.
* `pack_append` — a layout inside the layout of more values.
-/

namespace ShaderLowering.Buffer

/-! ## Values that follow -/

theorem placements_append (cursor : Nat) (ks more : List Kind) :
    placements cursor (ks ++ more)
      = placements cursor ks ++ placements (endOffset cursor ks) more := by
  induction ks generalizing cursor with
  | nil => rfl
  | cons k ks ih => rw [List.cons_append, placements, ih, placements, endOffset, List.cons_append]

theorem endOffset_append (cursor : Nat) (ks more : List Kind) :
    endOffset cursor (ks ++ more) = endOffset (endOffset cursor ks) more := by
  induction ks generalizing cursor with
  | nil => rfl
  | cons k ks ih => rw [List.cons_append, endOffset, ih, endOffset]

theorem image_append (cursor : Nat) (vs more : List Value) :
    image cursor (vs ++ more)
      = image cursor vs ++ image (endOffset cursor (vs.map Value.kind)) more := by
  induction vs generalizing cursor with
  | nil => rfl
  | cons v vs ih =>
    rw [List.cons_append, image, ih, image, endOffset_map_cons]
    simp only [List.append_assoc]

/-! ## A cursor further on -/

/-- A placement further on by some bytes. -/
def Placement.shift (distance : Nat) (p : Placement) : Placement :=
  { p with offset := distance + p.offset }

/-- Whole registers in front of a cursor do not matter for what fits behind it. -/
theorem alignedOffset_add {registers : Nat} (whole : registerSize ∣ registers)
    (offset size : Nat) :
    alignedOffset (registers + offset) size = registers + alignedOffset offset size := by
  have filled : (registers + offset) % registerSize = offset % registerSize := by
    rw [Nat.add_mod, Nat.mod_eq_zero_of_dvd whole, Nat.zero_add, Nat.mod_mod]
  unfold alignedOffset
  rw [filled]
  split <;> omega

theorem placements_add {registers : Nat} (whole : registerSize ∣ registers) (cursor : Nat)
    (ks : List Kind) :
    placements (registers + cursor) ks = (placements cursor ks).map (.shift registers) := by
  induction ks generalizing cursor with
  | nil => rfl
  | cons k ks ih =>
    rw [placements, alignedOffset_add whole, Nat.add_assoc, ih, placements, List.map_cons]
    rfl

theorem endOffset_add {registers : Nat} (whole : registerSize ∣ registers) (cursor : Nat)
    (ks : List Kind) : endOffset (registers + cursor) ks = registers + endOffset cursor ks := by
  induction ks generalizing cursor with
  | nil => rfl
  | cons k ks ih => rw [endOffset, alignedOffset_add whole, Nat.add_assoc, ih, endOffset]

/-- The gaps between values do not change either. -/
theorem image_add {registers : Nat} (whole : registerSize ∣ registers) (cursor : Nat)
    (vs : List Value) : image (registers + cursor) vs = image cursor vs := by
  induction vs generalizing cursor with
  | nil => rfl
  | cons v vs ih =>
    rw [image, alignedOffset_add whole, Nat.add_sub_add_left, Nat.add_assoc, ih, image]

/-! ## Distances from the cursor -/

/-- The placements of values of given kinds behind a cursor, as distances from it. -/
def relativePlacements (cursor : Nat) (ks : List Kind) : List Placement :=
  (placements cursor ks).map fun p => { p with offset := p.offset - cursor }

/-- Distances from the cursor tell where the values are: none of them is in front of it. -/
theorem map_shift_relativePlacements (cursor : Nat) (ks : List Kind) :
    (relativePlacements cursor ks).map (.shift cursor) = placements cursor ks := by
  rw [relativePlacements, List.map_map]
  conv_rhs => rw [← List.map_id (placements cursor ks)]
  refine List.map_congr_left fun p hp => ?_
  have restored : cursor + (p.offset - cursor) = p.offset :=
    Nat.add_sub_cancel' (le_offset_of_mem_placements hp)
  simp only [Function.comp, Placement.shift, restored, id]

/-- How far the register of the cursor is filled is all that distances from it depend on. -/
theorem relativePlacements_mod (cursor : Nat) (ks : List Kind) :
    relativePlacements (cursor % registerSize) ks = relativePlacements cursor ks := by
  have whole : registerSize ∣ registerSize * (cursor / registerSize) := Nat.dvd_mul_right _ _
  have moved := placements_add whole (cursor % registerSize) ks
  rw [Nat.div_add_mod] at moved
  rw [relativePlacements, relativePlacements, moved, List.map_map]
  refine List.map_congr_left fun p _ => ?_
  have same_distance : registerSize * (cursor / registerSize) + p.offset - cursor
      = p.offset - cursor % registerSize := by
    unfold registerSize
    omega
  simp only [Function.comp, Placement.shift, same_distance]

/-! ## Layouts -/

theorem length_image_zero (values : List Value) :
    (image 0 values).length = (Layout.pack values).used := by
  have ends := length_image 0 values
  rwa [Nat.zero_add] at ends

/-- The bytes in use are the values' and those of the gaps between them. -/
theorem take_used_bytes_pack (values : List Value) :
    (Layout.pack values).bytes.take (Layout.pack values).used = image 0 values := by
  rw [bytes_pack, zerosBehind, ← length_image_zero, List.take_left]

theorem entries_pack_append (xs ys : List Value) :
    (Layout.pack (xs ++ ys)).entries
      = (Layout.pack xs).entries ++ placements (Layout.pack xs).used (ys.map Value.kind) := by
  change placements 0 ((xs ++ ys).map Value.kind) = _
  rw [List.map_append, placements_append]
  rfl

theorem used_pack_append (xs ys : List Value) :
    (Layout.pack (xs ++ ys)).used = endOffset (Layout.pack xs).used (ys.map Value.kind) := by
  change endOffset 0 ((xs ++ ys).map Value.kind) = _
  rw [List.map_append, endOffset_append]
  rfl

/-- The bytes of more values are those of the values in front, those of the values behind,
and zeros. -/
theorem exists_bytes_pack_append (xs ys : List Value) :
    ∃ zeros, (Layout.pack (xs ++ ys)).bytes
      = image 0 xs ++ (image (Layout.pack xs).used ys ++ List.replicate zeros 0) := by
  have images : image 0 (xs ++ ys) = image 0 xs ++ image (Layout.pack xs).used ys :=
    image_append 0 xs ys
  rw [bytes_pack, zerosBehind, images, List.append_assoc]
  exact ⟨_, rfl⟩

/-- **More values leave a layout as it is and continue it.**  The placements of the values
in front, and the bytes they have in use, are those of their own layout.  The values
behind are placed at distances from its end that depend on nothing of the values in front
but how far they fill their last register.  If they fill it, the values behind are laid
out as on their own, that far on: the same placements, the same room and the same bytes in
use. -/
theorem pack_append (xs ys : List Value) :
    let whole := Layout.pack (xs ++ ys)
    let front := Layout.pack xs
    let back := Layout.pack ys
    whole.entries.take xs.length = front.entries ∧
    whole.bytes.take front.used = front.bytes.take front.used ∧
    whole.entries.drop xs.length
      = (relativePlacements (front.used % registerSize) (ys.map Value.kind)).map
          (.shift front.used) ∧
    (front.used % registerSize = 0 →
      whole.entries.drop xs.length = back.entries.map (.shift front.used) ∧
      whole.used = front.used + back.used ∧
      (whole.bytes.drop front.used).take back.used = back.bytes.take back.used) := by
  intro whole front back
  have entries_eq : whole.entries
      = front.entries ++ placements front.used (ys.map Value.kind) := entries_pack_append xs ys
  have front_length : xs.length = front.entries.length := by
    simp [front, Layout.pack]
  have behind : whole.entries.drop xs.length = placements front.used (ys.map Value.kind) := by
    rw [entries_eq, front_length, List.drop_left]
  have used_eq : (image 0 xs).length = front.used := length_image_zero xs
  obtain ⟨zeros, bytes_eq⟩ : ∃ zeros, whole.bytes
      = image 0 xs ++ (image front.used ys ++ List.replicate zeros 0) :=
    exists_bytes_pack_append xs ys
  refine ⟨?_, ?_, ?_, fun full => ?_⟩
  · rw [entries_eq, front_length, List.take_left]
  · rw [take_used_bytes_pack, bytes_eq, ← used_eq, List.take_left]
  · rw [behind, relativePlacements_mod, map_shift_relativePlacements]
  · -- The cursor between the two lists is whole registers behind the beginning.
    have registers : registerSize ∣ front.used := Nat.dvd_of_mod_eq_zero full
    refine ⟨?_, ?_, ?_⟩
    · rw [behind]
      exact placements_add registers 0 _
    · exact (used_pack_append xs ys).trans (endOffset_add registers 0 _)
    · have same_image : image front.used ys = image 0 ys := image_add registers 0 ys
      rw [bytes_eq, ← used_eq, List.drop_left, used_eq, same_image, take_used_bytes_pack,
        ← length_image_zero ys, List.take_left]

/-- Values that fill their register, and wide and narrow ones behind them.  Behind a register
that is half full, the wide one would stand closer to the first. -/
theorem pack_append_filled :
    let front : List Value := [.float3 1 2 3, .float 4]
    let back : List Value := [.float2 5 6, .double3 7 8 9, .bool true]
    (Layout.pack front).used % registerSize = 0 ∧
      (Layout.pack (front ++ back)).entries.drop front.length
        = (Layout.pack back).entries.map (.shift 16) ∧
      (Layout.pack back).entries.map Placement.offset = [0, 16, 40] ∧
      relativePlacements (8 % registerSize) (back.map Value.kind)
        = [⟨0, 8, .float2⟩, ⟨8, 24, .double3⟩, ⟨32, 4, .bool⟩] := by
  intro front back
  have full : (Layout.pack front).used % registerSize = 0 := by decide
  obtain ⟨-, -, -, shifted⟩ := pack_append front back
  obtain ⟨entries_eq, -, -⟩ := shifted full
  exact ⟨full, entries_eq, by decide, by decide⟩

end ShaderLowering.Buffer
