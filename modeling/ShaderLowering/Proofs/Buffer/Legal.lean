import Mathlib.Data.List.Forall2
import ShaderLowering.Buffer.Layout

/-!
# Legal layouts

Where the values of a constant buffer may stand, said without an algorithm: in
order, without overlap, none of them across the boundary of a register unless it is
wider than a register, and then only at the beginning of one.  The offsets that
`Layout.pack` chooses are legal, and no legal offsets are smaller at any place.

The greedy choice is the best one because it is least at each step: whatever
another layout does, the end of a value in it is never in front of the cursor.

## Main definitions

* `Fits` — where one value may stand.
* `IsLegal` — where the values of a list may stand.
* `Kind.isWide` — which values take more than a register.

## Main statements

* `alignedOffset_le` — a value goes to the first place behind the cursor that fits.
* `placements_le` — the placements behind a cursor are the least legal ones.
* `endOffset_le`, `slots_pack_le_add` — how much room values take at most.
* `pack_least` — legality and minimality of a layout.
-/

namespace ShaderLowering.Buffer

/-! ## Where one value may stand -/

/-- Whether a value of a size may stand at an offset. -/
def Fits (offset size : Nat) : Prop :=
  if size ≤ registerSize then
    ∃ register, register * registerSize ≤ offset
      ∧ offset + size ≤ (register + 1) * registerSize
  else registerSize ∣ offset

/-- A value fits when what is in front of it in its register leaves room for it,
where a wide value needs a whole register. -/
theorem fits_iff (offset : Nat) {size : Nat} (positive : 0 < size) :
    Fits offset size ↔ offset % registerSize ≤ registerSize - size := by
  unfold Fits registerSize
  split
  · constructor
    · rintro ⟨register, begins, ends⟩
      omega
    · intro room
      exact ⟨offset / 16, by omega, by omega⟩
  · omega

theorem le_alignedOffset (offset size : Nat) : offset ≤ alignedOffset offset size := by
  unfold alignedOffset
  split <;> omega

/-- The place that is chosen for a value fits. -/
theorem fits_alignedOffset (offset : Nat) {size : Nat} (positive : 0 < size) :
    Fits (alignedOffset offset size) size := by
  rw [fits_iff _ positive]
  unfold alignedOffset registerSize
  split <;> omega

/-- No place between the cursor and the one that is chosen fits. -/
theorem alignedOffset_le {cursor offset size : Nat} (positive : 0 < size)
    (behind : cursor ≤ offset) (fits : Fits offset size) :
    alignedOffset cursor size ≤ offset := by
  rw [fits_iff _ positive] at fits
  unfold alignedOffset
  unfold registerSize at *
  split
  · -- The rest of the current register is too short, so `offset` lies in a later one.
    have later : cursor / 16 < offset / 16 := by
      by_contra same
      have : cursor / 16 = offset / 16 := by omega
      omega
    omega
  · exact behind

/-- Whole words stay aligned to words. -/
theorem dvd_alignedOffset {offset : Nat} (h : 4 ∣ offset) (size : Nat) :
    4 ∣ alignedOffset offset size := by
  unfold alignedOffset registerSize
  split <;> omega

/-! ## Sizes -/

theorem Kind.size_pos (k : Kind) : 0 < k.size := by
  cases k <;> decide

/-- Every value consists of whole words. -/
theorem Kind.dvd_size (k : Kind) : 4 ∣ k.size := by
  cases k <;> decide

/-! ## Where several values may stand -/

/-- Whether values of some sizes may stand at some offsets. -/
structure IsLegal (sizes offsets : List Nat) : Prop where
  /-- Each value has an offset, which fits. -/
  fits : List.Forall₂ Fits offsets sizes
  /-- Each value ends before every later one begins. -/
  ordered : (offsets.zip sizes).Pairwise fun a b => a.1 + a.2 ≤ b.1

/-- A legal layout of more values places the first one, and the others behind it. -/
theorem IsLegal.of_cons {size offset : Nat} {sizes offsets : List Nat}
    (h : IsLegal (size :: sizes) (offset :: offsets)) :
    Fits offset size ∧ (∀ next ∈ offsets, offset + size ≤ next) ∧ IsLegal sizes offsets := by
  obtain ⟨fits, ordered⟩ := h
  obtain ⟨first, rest⟩ := List.forall₂_cons.1 fits
  rw [List.zip_cons_cons, List.pairwise_cons] at ordered
  refine ⟨first, fun next hn => ?_, ⟨rest, ordered.2⟩⟩
  have paired : next ∈ (offsets.zip sizes).map Prod.fst := by
    rwa [List.map_fst_zip (Nat.le_of_eq rest.length_eq)]
  obtain ⟨other, ho, rfl⟩ := List.mem_map.1 paired
  exact ordered.1 other ho

/-! ## The placements that are chosen -/

/-- Where a value ends. -/
def Placement.finish (p : Placement) : Nat :=
  p.offset + p.size

@[simp] theorem map_kind_placements (cursor : Nat) (ks : List Kind) :
    (placements cursor ks).map Placement.kind = ks := by
  induction ks generalizing cursor with
  | nil => rfl
  | cons k ks ih => simp [placements, ih]

@[simp] theorem map_size_placements (cursor : Nat) (ks : List Kind) :
    (placements cursor ks).map Placement.size = ks.map Kind.size := by
  induction ks generalizing cursor with
  | nil => rfl
  | cons k ks ih => simp [placements, ih]

/-- Nothing is placed in front of the cursor. -/
theorem le_offset_of_mem_placements {cursor : Nat} {ks : List Kind} {p : Placement}
    (h : p ∈ placements cursor ks) : cursor ≤ p.offset := by
  induction ks generalizing cursor with
  | nil => cases h
  | cons k ks ih =>
    have first := le_alignedOffset cursor k.size
    rcases List.mem_cons.1 h with rfl | later
    · exact first
    · have := ih later
      omega

theorem dvd_offset_of_mem_placements {cursor : Nat} (hc : 4 ∣ cursor) {ks : List Kind}
    {p : Placement} (h : p ∈ placements cursor ks) : 4 ∣ p.offset := by
  induction ks generalizing cursor with
  | nil => cases h
  | cons k ks ih =>
    have first := dvd_alignedOffset hc k.size
    rcases List.mem_cons.1 h with rfl | later
    · exact first
    · exact ih (Nat.dvd_add first k.dvd_size) later

/-- The placements behind a cursor are legal. -/
theorem isLegal_placements (cursor : Nat) (ks : List Kind) :
    IsLegal (ks.map Kind.size) ((placements cursor ks).map Placement.offset) := by
  induction ks generalizing cursor with
  | nil => exact ⟨.nil, .nil⟩
  | cons k ks ih =>
    obtain ⟨fits, ordered⟩ := ih (alignedOffset cursor k.size + k.size)
    refine ⟨.cons (fits_alignedOffset cursor k.size_pos) fits, ?_⟩
    rw [placements, List.map_cons, List.map_cons, List.zip_cons_cons, List.pairwise_cons]
    refine ⟨fun next hn => ?_, ordered⟩
    obtain ⟨p, hp, offset_eq⟩ := List.mem_map.1 (List.of_mem_zip hn).1
    exact offset_eq ▸ le_offset_of_mem_placements hp

/-- **The placements behind a cursor are the least legal ones**: no legal layout
that keeps behind the cursor puts any of the values further to the front. -/
theorem placements_le {cursor : Nat} {ks : List Kind} {offsets : List Nat}
    (legal : IsLegal (ks.map Kind.size) offsets) (behind : ∀ offset ∈ offsets, cursor ≤ offset) :
    List.Forall₂ (· ≤ ·) ((placements cursor ks).map Placement.offset) offsets := by
  induction ks generalizing cursor offsets with
  | nil =>
    obtain rfl : offsets = [] := List.forall₂_nil_right_iff.1 legal.fits
    exact .nil
  | cons k ks ih =>
    cases offsets with
    | nil => cases legal.fits
    | cons offset offsets =>
      obtain ⟨fits, later, legal⟩ := legal.of_cons
      have first : alignedOffset cursor k.size ≤ offset :=
        alignedOffset_le k.size_pos (behind offset List.mem_cons_self) fits
      -- The value ends here no later than in the other layout, so the rest of that
      -- layout keeps behind the new cursor.
      refine .cons first (ih legal fun next hn => ?_)
      have := later next hn
      omega

/-- The end of the values is the end of the last one. -/
theorem endOffset_eq (cursor : Nat) (ks : List Kind) :
    endOffset cursor ks = ((placements cursor ks).getLast?.map Placement.finish).getD cursor := by
  induction ks generalizing cursor with
  | nil => rfl
  | cons k ks ih =>
    rw [endOffset, ih, placements, List.getLast?_cons]
    cases (placements (alignedOffset cursor k.size + k.size) ks).getLast? <;> rfl

/-! ## How much room values take -/

/-- Whether a value is wider than a register. -/
def Kind.isWide (k : Kind) : Bool :=
  registerSize < k.size

/-- A value takes one register of room, and a wide one takes two. -/
theorem Kind.size_le (k : Kind) : k.size ≤ (if k.isWide then 2 else 1) * registerSize := by
  cases k <;> decide

/-- Values that follow whole registers end within one more register each, and a second
one for each that is wide. -/
theorem endOffset_le {cursor registers : Nat} (h : cursor ≤ registers * registerSize)
    (ks : List Kind) :
    endOffset cursor ks ≤ (registers + (ks.length + ks.countP Kind.isWide)) * registerSize := by
  induction ks generalizing cursor registers with
  | nil => exact h
  | cons k ks ih =>
    have boundary : Fits (registers * registerSize) k.size := by
      rw [fits_iff _ k.size_pos, Nat.mul_mod_left]
      exact Nat.zero_le _
    have first : alignedOffset cursor k.size ≤ registers * registerSize :=
      alignedOffset_le k.size_pos h boundary
    have ends : alignedOffset cursor k.size + k.size
        ≤ (registers + if k.isWide then 2 else 1) * registerSize := by
      rw [Nat.add_mul]
      exact Nat.add_le_add first k.size_le
    refine Nat.le_trans (ih ends) (Nat.mul_le_mul_right _ ?_)
    rw [List.length_cons, List.countP_cons]
    split <;> omega

/-! ## Layouts -/

/-- A layout has no more registers than values, and one more for each value that is wider
than a register. -/
theorem slots_pack_le_add (values : List Value) :
    (Layout.pack values).slots
      ≤ values.length + (values.map Value.kind).countP Kind.isWide := by
  have start : 0 ≤ 0 * registerSize := Nat.zero_le _
  have ends := endOffset_le start (values.map Value.kind)
  rw [List.length_map] at ends
  simp only [Layout.pack, registersFor, registerSize] at ends ⊢
  omega

theorem map_size_eq (values : List Value) :
    values.map Value.size = (values.map Value.kind).map Kind.size := by
  rw [List.map_map]
  rfl

/-- **A layout places its values legally and as far to the front as possible.**  The
offsets are legal and whole words; kinds and sizes are those of the values, in
order; no legal offsets are smaller at any place; and the room in use ends with the
last value. -/
theorem pack_least (values : List Value) :
    IsLegal (values.map Value.size) ((Layout.pack values).entries.map Placement.offset) ∧
    (∀ p ∈ (Layout.pack values).entries, 4 ∣ p.offset) ∧
    (Layout.pack values).entries.map Placement.kind = values.map Value.kind ∧
    (Layout.pack values).entries.map Placement.size = values.map Value.size ∧
    (∀ offsets, IsLegal (values.map Value.size) offsets →
      List.Forall₂ (· ≤ ·) ((Layout.pack values).entries.map Placement.offset) offsets) ∧
    (Layout.pack values).used
      = ((Layout.pack values).entries.getLast?.map Placement.finish).getD 0 := by
  rw [map_size_eq]
  refine ⟨isLegal_placements 0 _, fun p hp => dvd_offset_of_mem_placements (by decide) hp,
    map_kind_placements 0 _, map_size_placements 0 _, fun offsets legal => ?_, endOffset_eq 0 _⟩
  exact placements_le legal fun offset _ => offset.zero_le

-- A wide value starts a register, and so does the one that does not fit behind it.
example : (Layout.pack [.float 0, .double3 0 0 0, .float3 0 0 0]).entries.map Placement.offset
    = [0, 16, 48] := by decide

end ShaderLowering.Buffer
