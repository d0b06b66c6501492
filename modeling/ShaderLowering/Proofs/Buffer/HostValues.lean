import Mathlib.Data.List.Forall2
import ShaderLowering.Proofs.Buffer.Legal
import ShaderLowering.Proofs.Buffer.Requests

/-!
# Host values in a store

From host values to a filled buffer.  Either one of the values has no kind, and then
the first such value is named and the store is what it was; or each of them carries a
buffer value, and then one buffer is made whose bytes are the layout of those values.
It makes no difference whether a value comes bare or wrapped.

A layout fills its registers exactly, so the buffer that is made for it takes all of
its bytes.  The one thing left that can go wrong is memory: the layout may have more
bytes than a 64-bit number counts, for which there have to be more values than a 64-bit
memory holds references to.

## Main definitions

* `HostValue.Carries` — the buffer value in a host value.

## Main statements

* `classifyFrom_of_carries`, `classifyFrom_of_other` — classification of a list.
* `upload_pack` — the bytes of a layout are never refused.
* `allocateValues_spec` — host values in a store.
-/

namespace ShaderLowering.Buffer

/-! ## Classification -/

/-- Whether a host value is a buffer value, bare or wrapped. -/
def HostValue.Carries (h : HostValue) (v : Value) : Prop :=
  h = bare v ∨ h = wrapped v

theorem HostValue.Carries.classify_eq {h : HostValue} {v : Value} (carries : h.Carries v) :
    h.classify = .ok v := by
  rcases carries with rfl | rfl <;> rfl

/-- Where every value carries a buffer value, none is without a kind. -/
theorem other_notMem_of_carries {hs : List HostValue} {vs : List Value}
    (carries : List.Forall₂ HostValue.Carries hs vs) (type : ForeignType) :
    .other type ∉ hs := by
  induction carries with
  | nil => exact List.not_mem_nil
  | cons first rest ih =>
    rintro (_ | ⟨_, later⟩)
    · rcases first with impossible | impossible <;> cases impossible
    · exact ih later

/-- Values that are carried one by one are what the list is classified as. -/
theorem classifyFrom_of_carries (index : Nat) {hs : List HostValue} {vs : List Value}
    (carries : List.Forall₂ HostValue.Carries hs vs) : classifyFrom index hs = .ok vs := by
  induction carries generalizing index with
  | nil => rfl
  | cons first rest ih =>
    rw [classifyFrom, first.classify_eq, ih]
    rfl

/-- The first value without a kind is the one that is named. -/
theorem classifyFrom_of_other (index : Nat) {before after : List HostValue} {vs : List Value}
    (carries : List.Forall₂ HostValue.Carries before vs) (type : ForeignType) :
    classifyFrom index (before ++ .other type :: after)
      = .error (.unsupportedValue (index + before.length) type.name) := by
  induction carries generalizing index with
  | nil => rfl
  | cons first rest ih =>
    rw [List.cons_append, classifyFrom, first.classify_eq, ih, List.length_cons,
      Nat.add_assoc, Nat.add_comm 1]
    rfl

/-- Either all values carry a buffer value, or those in front of a first one without a
kind do. -/
theorem carries_or_exists_other (hs : List HostValue) :
    (∃ vs, List.Forall₂ HostValue.Carries hs vs) ∨
      ∃ before type after vs, hs = before ++ .other type :: after ∧
        List.Forall₂ HostValue.Carries before vs := by
  induction hs with
  | nil => exact .inl ⟨[], .nil⟩
  | cons h hs ih =>
    -- A value that carries another extends whatever is known of the rest of the list.
    have extend {v : Value} (first : h.Carries v) :
        (∃ vs, List.Forall₂ HostValue.Carries (h :: hs) vs) ∨
          ∃ before type after vs, h :: hs = before ++ .other type :: after ∧
            List.Forall₂ HostValue.Carries before vs := by
      rcases ih with ⟨vs, rest⟩ | ⟨before, type, after, vs, rfl, rest⟩
      · exact .inl ⟨v :: vs, .cons first rest⟩
      · exact .inr ⟨h :: before, type, after, v :: vs, rfl, .cons first rest⟩
    cases h with
    | bare v => exact extend (.inl rfl)
    | wrapped v => exact extend (.inr rfl)
    | other type => exact .inr ⟨[], type, hs, [], rfl, .nil⟩

/-! ## Layouts -/

/-- A layout takes two registers for each value at most. -/
theorem slots_pack_le (vs : List Value) : (Layout.pack vs).slots ≤ 2 * vs.length := by
  have slots := slots_pack_le_add vs
  have wide : (vs.map Value.kind).countP Kind.isWide ≤ (vs.map Value.kind).length :=
    List.countP_le_length
  rw [List.length_map] at wide
  omega

theorem size_pack (vs : List Value) :
    (Layout.pack vs).size = (Layout.pack vs).slots * registerSize :=
  length_bytes_pack vs

/-- Values that a 64-bit memory has room for have a layout whose size is a 64-bit
number. -/
theorem size_pack_lt {vs : List Value} (h : vs.length < 2 ^ 59) :
    (Layout.pack vs).size < Store.sizeLimit := by
  have slots := slots_pack_le vs
  rw [size_pack]
  unfold registerSize Store.sizeLimit
  omega

/-- **The bytes of a layout are never refused** by the buffer that is made for it, which
they fill. -/
theorem upload_pack (vs : List Value) :
    (Memory.zeros (Layout.pack vs).slots).upload (Layout.pack vs).bytes
      = .ok ⟨(Layout.pack vs).bytes⟩ := by
  have full : (Layout.pack vs).bytes.length = (Memory.zeros (Layout.pack vs).slots).capacity := by
    rw [Memory.capacity_zeros, length_bytes_pack]
  rw [Memory.upload_of_le (Nat.le_of_eq full), Memory.filled, full, Memory.capacity,
    List.drop_length, List.append_nil]

namespace Store

/-! ## Stores -/

/-- A layout whose size is a 64-bit number gets a buffer of its own. -/
theorem uploadLayout_pack (s : Store) {vs : List Value}
    (small : (Layout.pack vs).size < sizeLimit) :
    s.uploadLayout (Layout.pack vs)
      = (.ok s.buffers.length,
          ⟨s.allocations + 1, s.buffers ++ [⟨(Layout.pack vs).bytes⟩]⟩) := by
  rw [size_pack] at small
  simp only [uploadLayout, allocate_of_lt small, upload_pack, handOut]

/-- Whatever the layout of values fails with, it is not that its bytes do not fit. -/
theorem uploadLayout_pack_ne (s : Store) (vs : List Value) (capacity actual : Nat) :
    (s.uploadLayout (Layout.pack vs)).1
      ≠ .error (.allocation (.sizeMismatch capacity actual)) := by
  rcases Nat.lt_or_ge (Layout.pack vs).size sizeLimit with small | large
  · rw [uploadLayout_pack s small]
    rintro ⟨⟩
  · rw [size_pack] at large
    simp only [uploadLayout, allocate_of_le large]
    rintro ⟨⟩

theorem allocateValues_of_carries (s : Store) {hs : List HostValue} {vs : List Value}
    (carries : List.Forall₂ HostValue.Carries hs vs) :
    s.allocateValues hs = s.uploadLayout (Layout.pack vs) := by
  simp only [allocateValues, Layout.packHost, classifyAll, classifyFrom_of_carries 0 carries,
    Except.map]

theorem allocateValues_of_other (s : Store) {before after : List HostValue} {vs : List Value}
    (carries : List.Forall₂ HostValue.Carries before vs) (type : ForeignType) :
    s.allocateValues (before ++ .other type :: after)
      = (.error (.unsupportedValue before.length type.name), s) := by
  simp only [allocateValues, Layout.packHost, classifyAll,
    classifyFrom_of_other 0 carries type, Except.map, Nat.zero_add]

/-- **Host values in a store.**  If one of them has no kind, the first such value is
named with its index, and the store is unchanged.  Otherwise each of them carries a
buffer value, bare or wrapped; and when the layout of these has a size that is a 64-bit
number, as it has for fewer values than a 64-bit memory holds, one more buffer is made
and counted.  Its bytes are those of the layout, all of its registers.  No host values
are refused because their layout does not fit into the buffer that was made for it. -/
theorem allocateValues_spec (s : Store) (hs : List HostValue) :
    (∀ unsupported, .other unsupported ∈ hs →
      ∃ index type, hs[index]? = some (.other type) ∧
        (∃ earlier, List.Forall₂ HostValue.Carries (hs.take index) earlier) ∧
        s.allocateValues hs = (.error (.unsupportedValue index type.name), s)) ∧
    ((∀ unsupported, .other unsupported ∉ hs) → ∃ vs, List.Forall₂ HostValue.Carries hs vs) ∧
    (∀ vs, List.Forall₂ HostValue.Carries hs vs →
      (hs.length < 2 ^ 59 → (Layout.pack vs).size < sizeLimit) ∧
      ((Layout.pack vs).size < sizeLimit →
        ∃ b : Memory, b.bytes = (Layout.pack vs).bytes ∧
          b.capacity = (Layout.pack vs).slots * registerSize ∧
          s.allocateValues hs
            = (.ok s.buffers.length, ⟨s.allocations + 1, s.buffers ++ [b]⟩))) ∧
    ∀ capacity actual,
      (s.allocateValues hs).1 ≠ .error (.allocation (.sizeMismatch capacity actual)) := by
  refine ⟨fun unsupported found => ?_, fun supported => ?_, fun vs carries => ⟨?_, ?_⟩, ?_⟩
  · rcases carries_or_exists_other hs
      with ⟨vs, carries⟩ | ⟨before, type, after, vs, rfl, carries⟩
    · exact absurd found (other_notMem_of_carries carries unsupported)
    · refine ⟨before.length, type, by simp, ⟨vs, ?_⟩,
        s.allocateValues_of_other carries type⟩
      rwa [List.take_left]
  · rcases carries_or_exists_other hs with carries | ⟨before, type, after, vs, rfl, -⟩
    · exact carries
    · exact absurd (List.mem_append_right before List.mem_cons_self) (supported type)
  · intro few
    exact size_pack_lt (carries.length_eq ▸ few)
  · intro small
    exact ⟨⟨(Layout.pack vs).bytes⟩, rfl, size_pack vs,
      (s.allocateValues_of_carries carries).trans (s.uploadLayout_pack small)⟩
  · intro capacity actual
    rcases carries_or_exists_other hs
      with ⟨vs, carries⟩ | ⟨before, type, after, vs, rfl, carries⟩
    · rw [s.allocateValues_of_carries carries]
      exact s.uploadLayout_pack_ne vs capacity actual
    · rw [s.allocateValues_of_other carries type]
      rintro ⟨⟩

-- The value that is named is the first one without a kind, and nothing is counted.
example : empty.allocateValues [.wrapped (.bool true), .other { name := "i64" },
    .bare (.int 1), .other { name := "u8" }] = (.error (.unsupportedValue 1 "i64"), empty) := by
  decide

end Store

end ShaderLowering.Buffer
