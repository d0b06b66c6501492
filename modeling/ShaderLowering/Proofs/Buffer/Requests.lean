import ShaderLowering.Buffer.Store
import ShaderLowering.Proofs.Buffer.Image

/-!
# Stores over many requests

What a store of constant buffers looks like after any number of requests, and what it
answers to one more of them.  A request for a buffer asks for a number of registers and
for the bytes at their start.  It gets the buffer if its size is a 64-bit number and the
bytes fit; if only the bytes do not fit, the buffer is made and given up again.  An upload
fills a buffer that was handed out before.  `Store.Effect` has one case for each of these,
and everything that holds of a store over many requests is read off it.

## Main definitions

* `Request.wanted?`, `Request.allocates` — the buffer that a request asks for, and
  whether it is made.
* `Store.Effect` — what a request does to a store.
* `Store.Grants` — what a request for a buffer gets.
* `Store.run`, `Store.exchanges` — the store after several requests, and its answers.
* `Register.bytes` — the bytes of a register.

## Main statements

* `effect_perform` — a request has one of its effects.
* `registers_spec` — a buffer of whole registers, as registers.
* `run_spec` — what holds after any requests, and what one more of them does.
-/

namespace ShaderLowering.Buffer

/-! ## Registers -/

/-- The bytes of a register, word by word. -/
def Register.bytes (r : Register) : List UInt8 :=
  [r.x, r.y, r.z, r.w].flatMap fun word => bytesOf 4 word.toNat

/-- Words are wide enough for the numbers that their bytes spell. -/
theorem numberOf_lt (bs : List UInt8) : numberOf bs < 256 ^ bs.length := by
  induction bs with
  | nil => decide
  | cons b bs ih =>
    have hb := b.toNat_lt
    rw [numberOf, List.length_cons, Nat.pow_succ']
    omega

/-- Whole words have the bytes that they were read from. -/
theorem wordsOf_spec (count : Nat) {bytes : List UInt8} (h : bytes.length = 4 * count) :
    (wordsOf bytes).length = count ∧
      (wordsOf bytes).flatMap (fun word => bytesOf 4 word.toNat) = bytes := by
  induction count generalizing bytes with
  | zero => rw [List.eq_nil_of_length_eq_zero h]; exact ⟨rfl, rfl⟩
  | succ count ih =>
    match bytes, h with
    | a :: b :: c :: d :: rest, h =>
      have rest_length : rest.length = 4 * count := by
        simp only [List.length_cons] at h
        omega
      obtain ⟨length_eq, bytes_eq⟩ := ih rest_length
      have small : numberOf [a, b, c, d] < 256 ^ 4 := numberOf_lt [a, b, c, d]
      have word : bytesOf 4 (UInt32.ofNat (numberOf [a, b, c, d])).toNat = [a, b, c, d] := by
        rw [UInt32.toNat_ofNat_of_lt' (Nat.lt_of_lt_of_eq small (by decide))]
        exact bytesOf_numberOf [a, b, c, d]
      refine ⟨by rw [wordsOf, List.length_cons, length_eq], ?_⟩
      rw [wordsOf, List.flatMap_cons, bytes_eq, word]
      rfl

/-- Whole registers have the words that they were made of. -/
theorem registersOf_spec (count : Nat) {words : List UInt32} (h : words.length = 4 * count) :
    (registersOf words).length = count ∧
      (registersOf words).flatMap Register.bytes
        = words.flatMap fun word => bytesOf 4 word.toNat := by
  induction count generalizing words with
  | zero => rw [List.eq_nil_of_length_eq_zero h]; exact ⟨rfl, rfl⟩
  | succ count ih =>
    match words, h with
    | x :: y :: z :: w :: rest, h =>
      have rest_length : rest.length = 4 * count := by
        simp only [List.length_cons] at h
        omega
      obtain ⟨length_eq, bytes_eq⟩ := ih rest_length
      refine ⟨by rw [registersOf, List.length_cons, length_eq], ?_⟩
      rw [registersOf, List.flatMap_cons, bytes_eq]
      simp [Register.bytes]

/-- A buffer of whole registers has that many of them, and their bytes are its bytes. -/
theorem registers_spec {b : Memory} (h : registerSize ∣ b.capacity) :
    b.registers.length = b.capacity / registerSize ∧
      b.registers.flatMap Register.bytes = b.bytes := by
  obtain ⟨count, capacity_eq⟩ := h
  have quotient : b.capacity / registerSize = count := by
    rw [capacity_eq, Nat.mul_div_cancel_left _ (by decide)]
  have bytes_length : b.bytes.length = 4 * (4 * count) := by
    change b.capacity = _
    rw [capacity_eq, registerSize]
    omega
  obtain ⟨words_length, words_bytes⟩ := wordsOf_spec (4 * count) bytes_length
  obtain ⟨registers_length, registers_bytes⟩ := registersOf_spec count words_length
  exact ⟨registers_length.trans quotient.symm, registers_bytes.trans words_bytes⟩

/-! ## What a request asks for -/

/-- Whether a host value has one of the kinds. -/
def HostValue.isSupported (h : HostValue) : Bool :=
  h.classify.isOk

/-- The buffer values among host values. -/
def HostValue.supported (hs : List HostValue) : List Value :=
  hs.filterMap fun h => h.classify.toOption

/-- Host values that are all supported are classified one by one. -/
theorem classifyFrom_of_supported (index : Nat) {hs : List HostValue}
    (h : hs.all HostValue.isSupported = true) :
    classifyFrom index hs = .ok (HostValue.supported hs) := by
  induction hs generalizing index with
  | nil => rfl
  | cons first hs ih =>
    rw [List.all_cons, Bool.and_eq_true] at h
    cases first with
    | bare v => rw [classifyFrom, ih _ h.2]; rfl
    | wrapped v => rw [classifyFrom, ih _ h.2]; rfl
    | other type => cases h.1

/-- Host values of which one is unsupported cannot be classified. -/
theorem exists_classifyFrom_error (index : Nat) {hs : List HostValue}
    (h : hs.all HostValue.isSupported = false) :
    ∃ number typeName, classifyFrom index hs = .error (.unsupportedValue number typeName) := by
  induction hs generalizing index with
  | nil => cases h
  | cons first hs ih =>
    rw [List.all_cons] at h
    cases first with
    | bare v =>
      obtain ⟨number, typeName, failed⟩ := ih (index + 1) h
      exact ⟨number, typeName, by rw [classifyFrom, failed]; rfl⟩
    | wrapped v =>
      obtain ⟨number, typeName, failed⟩ := ih (index + 1) h
      exact ⟨number, typeName, by rw [classifyFrom, failed]; rfl⟩
    | other type => exact ⟨_, _, rfl⟩

/-- The size in registers and the first bytes of the buffer that a request asks for. -/
def Request.wanted? : Request → Option (Nat × List UInt8)
  | allocate slots => some (slots, [])
  | values hs =>
    if hs.all HostValue.isSupported then
      let l := Layout.pack (HostValue.supported hs)
      some (l.slots, l.bytes)
    else none
  | layout l => some (l.slots, l.bytes)
  | upload .. => none

/-- Whether a buffer is made for a request: it asks for one, whose size is a 64-bit
number. -/
def Request.allocates (r : Request) : Bool :=
  r.wanted?.any fun wanted => wanted.1 * registerSize < Store.sizeLimit

theorem Request.allocates_of_wanted {r : Request} {slots : Nat} {bytes : List UInt8}
    (h : r.wanted? = some (slots, bytes)) :
    r.allocates = decide (slots * registerSize < Store.sizeLimit) := by
  rw [allocates, h, Option.any_some]

/-- What a request fails with when its buffer cannot be made or filled. -/
def Request.failure : Request → BufferError → RequestError
  | allocate _, cause | upload .., cause => .buffer cause
  | values _, cause | layout _, cause => .pack (.allocation cause)

/-- A request and the answer to it. -/
structure Exchange where
  request : Request
  answer : Except RequestError Nat

/-- Whether a buffer was made, as the answer tells: a new one was handed out, or there was one
that the bytes for it did not fit into. -/
def Exchange.madeBuffer (x : Exchange) : Bool :=
  match x.request, x.answer with
  | .upload .., _ => false
  | _, .ok _ => true
  | _, .error (.pack (.allocation (.sizeMismatch ..))) => true
  | _, .error _ => false

/-! ## What a request does -/

/-- A buffer with bytes written to its start. -/
def Memory.filled (b : Memory) (bytes : List UInt8) : Memory :=
  ⟨bytes ++ b.bytes.drop bytes.length⟩

theorem Memory.capacity_zeros (slots : Nat) : (zeros slots).capacity = slots * registerSize :=
  List.length_replicate

theorem Memory.capacity_filled {b : Memory} {bytes : List UInt8}
    (fits : bytes.length ≤ b.capacity) : (b.filled bytes).capacity = b.capacity := by
  unfold capacity at *
  rw [filled, List.length_append, List.length_drop, Nat.add_sub_cancel' fits]

/-- A new buffer that is filled has zeros behind the bytes. -/
theorem Memory.filled_zeros (slots : Nat) (bytes : List UInt8) :
    (zeros slots).filled bytes
      = ⟨bytes ++ List.replicate (slots * registerSize - bytes.length) 0⟩ := by
  rw [filled, zeros, List.drop_replicate]

theorem Memory.upload_of_le {b : Memory} {bytes : List UInt8} (h : bytes.length ≤ b.capacity) :
    b.upload bytes = .ok (b.filled bytes) := by
  rw [upload, if_neg (Nat.not_lt.2 h)]
  rfl

theorem Memory.upload_of_lt {b : Memory} {bytes : List UInt8} (h : b.capacity < bytes.length) :
    b.upload bytes = .error (.sizeMismatch b.capacity bytes.length) := by
  rw [upload, if_pos h]

namespace Store

/-- What a request does to a store: the answer, and the store afterwards. -/
inductive Effect (s : Store) : Request → Except RequestError Nat → Store → Prop
  /-- A buffer is made, filled and handed out. -/
  | handedOut {r : Request} {slots : Nat} {bytes : List UInt8}
    (wanted : r.wanted? = some (slots, bytes)) (small : slots * registerSize < sizeLimit)
    (fits : bytes.length ≤ slots * registerSize) :
    Effect s r (.ok s.buffers.length)
      ⟨s.allocations + 1, s.buffers ++ [(Memory.zeros slots).filled bytes]⟩
  /-- A buffer is made and given up, as the bytes for it do not fit. -/
  | givenUp {r : Request} {slots : Nat} {bytes : List UInt8}
    (wanted : r.wanted? = some (slots, bytes)) (small : slots * registerSize < sizeLimit)
    (long : slots * registerSize < bytes.length) :
    Effect s r (.error (r.failure (.sizeMismatch (slots * registerSize) bytes.length)))
      ⟨s.allocations + 1, s.buffers⟩
  /-- No buffer is made, as its size is not a 64-bit number. -/
  | tooLarge {r : Request} {slots : Nat} {bytes : List UInt8}
    (wanted : r.wanted? = some (slots, bytes)) (large : sizeLimit ≤ slots * registerSize) :
    Effect s r (.error (r.failure (.slotOverflow slots))) s
  /-- No buffer is made for host values of which one is unsupported. -/
  | unsupported {hs : List HostValue} {number : Nat} {typeName : String}
    (refused : hs.all HostValue.isSupported = false) :
    Effect s (.values hs) (.error (.pack (.unsupportedValue number typeName))) s
  /-- Bytes are written to the start of a buffer. -/
  | filled {number : Nat} {bytes : List UInt8} {b : Memory}
    (found : s.buffers[number]? = some b) (fits : bytes.length ≤ b.capacity) :
    Effect s (.upload number bytes) (.ok number)
      { s with buffers := s.buffers.set number (b.filled bytes) }
  /-- Bytes do not fit into a buffer, which stays as it is. -/
  | tooLong {number : Nat} {bytes : List UInt8} {b : Memory}
    (found : s.buffers[number]? = some b) (long : b.capacity < bytes.length) :
    Effect s (.upload number bytes) (.error (.buffer (.sizeMismatch b.capacity bytes.length))) s
  /-- No buffer was handed out under a number. -/
  | unknown {number : Nat} {bytes : List UInt8} (missing : s.buffers[number]? = none) :
    Effect s (.upload number bytes) (.error (.unknownBuffer number)) s

theorem allocate_of_lt {s : Store} {slots : Nat} (h : slots * registerSize < sizeLimit) :
    s.allocate slots = (.ok (.zeros slots), ⟨s.allocations + 1, s.buffers⟩) := by
  rw [allocate, if_neg (Nat.not_le.2 h)]

theorem allocate_of_le {s : Store} {slots : Nat} (h : sizeLimit ≤ slots * registerSize) :
    s.allocate slots = (.error (.slotOverflow slots), s) := by
  rw [allocate, if_pos h]

/-- A layout is refused for its size, given up for its bytes, or handed out. -/
theorem uploadLayout_cases (s : Store) (l : Layout) :
    (sizeLimit ≤ l.slots * registerSize ∧
      s.uploadLayout l = (.error (.allocation (.slotOverflow l.slots)), s)) ∨
    (l.slots * registerSize < sizeLimit ∧ l.slots * registerSize < l.bytes.length ∧
      s.uploadLayout l
        = (.error (.allocation (.sizeMismatch (l.slots * registerSize) l.bytes.length)),
          ⟨s.allocations + 1, s.buffers⟩)) ∨
    (l.slots * registerSize < sizeLimit ∧ l.bytes.length ≤ l.slots * registerSize ∧
      s.uploadLayout l = (.ok s.buffers.length,
        ⟨s.allocations + 1, s.buffers ++ [(Memory.zeros l.slots).filled l.bytes]⟩)) := by
  rcases Nat.lt_or_ge (l.slots * registerSize) sizeLimit with small | large
  · rcases Nat.lt_or_ge (l.slots * registerSize) l.bytes.length with long | fits
    · refine .inr (.inl ⟨small, long, ?_⟩)
      rw [← Memory.capacity_zeros] at long ⊢
      simp only [uploadLayout, allocate_of_lt small, Memory.upload_of_lt long]
    · refine .inr (.inr ⟨small, fits, ?_⟩)
      rw [← Memory.capacity_zeros] at fits
      simp only [uploadLayout, allocate_of_lt small, Memory.upload_of_le fits, handOut]
  · refine .inl ⟨large, ?_⟩
    simp only [uploadLayout, allocate_of_le large]

/-- Making a buffer for a layout and filling it has the effect of a request that asks
for it. -/
theorem effect_uploadLayout (s : Store) {r : Request} {l : Layout}
    (wanted : r.wanted? = some (l.slots, l.bytes))
    (packs : ∀ cause, r.failure cause = .pack (.allocation cause)) :
    s.Effect r ((s.uploadLayout l).1.mapError .pack) (s.uploadLayout l).2 := by
  rcases s.uploadLayout_cases l with ⟨large, result⟩ | ⟨small, long, result⟩
      | ⟨small, fits, result⟩ <;> rw [result]
  · have effect : s.Effect r _ _ := .tooLarge wanted large
    rwa [packs] at effect
  · have effect : s.Effect r _ _ := .givenUp wanted small long
    rwa [packs] at effect
  · exact .handedOut wanted small fits

/-- Host values of which one is unsupported change nothing. -/
theorem perform_unsupported (s : Store) {hs : List HostValue}
    (refused : hs.all HostValue.isSupported = false) :
    ∃ index typeName,
      s.perform (.values hs) = (.error (.pack (.unsupportedValue index typeName)), s) := by
  obtain ⟨index, typeName, failed⟩ := exists_classifyFrom_error 0 refused
  have unpacked : Layout.packHost hs = .error (.unsupportedValue index typeName) := by
    rw [Layout.packHost, classifyAll, failed]
    rfl
  refine ⟨index, typeName, ?_⟩
  simp only [perform, allocateValues, unpacked]
  rfl

section Upload

variable {s : Store} {target : Nat} {bytes : List UInt8} {b : Memory}

/-- Bytes that fit into a buffer are written to its start. -/
theorem perform_upload_of_le (found : s.buffers[target]? = some b)
    (fits : bytes.length ≤ b.capacity) :
    s.perform (.upload target bytes)
      = (.ok target, { s with buffers := s.buffers.set target (b.filled bytes) }) := by
  simp only [perform, found, Memory.upload_of_le fits]

/-- Bytes that do not fit into a buffer change nothing. -/
theorem perform_upload_of_lt (found : s.buffers[target]? = some b)
    (long : b.capacity < bytes.length) :
    s.perform (.upload target bytes)
      = (.error (.buffer (.sizeMismatch b.capacity bytes.length)), s) := by
  simp only [perform, found, Memory.upload_of_lt long]

end Upload

/-- **A request has one of its effects**, whatever the store. -/
theorem effect_perform (s : Store) (r : Request) :
    s.Effect r (s.perform r).1 (s.perform r).2 := by
  cases r with
  | allocate slots =>
    have wanted : (Request.allocate slots).wanted? = some (slots, []) := rfl
    rcases Nat.lt_or_ge (slots * registerSize) sizeLimit with small | large
    · simp only [perform, allocate_of_lt small, handOut]
      exact .handedOut wanted small (Nat.zero_le _)
    · simp only [perform, allocate_of_le large]
      exact .tooLarge wanted large
  | values hs =>
    cases supported : hs.all HostValue.isSupported with
    | false =>
      obtain ⟨index, typeName, refused⟩ := s.perform_unsupported supported
      rw [refused]
      exact .unsupported supported
    | true =>
      let l := Layout.pack (HostValue.supported hs)
      have packed : Layout.packHost hs = .ok l := by
        rw [Layout.packHost, classifyAll, classifyFrom_of_supported 0 supported]
        rfl
      have wanted : (Request.values hs).wanted? = some (l.slots, l.bytes) := by
        rw [Request.wanted?, if_pos supported]
      simp only [perform, allocateValues, packed]
      exact s.effect_uploadLayout wanted fun _ => rfl
  | layout l => exact s.effect_uploadLayout rfl fun _ => rfl
  | upload number bytes =>
    cases found : s.buffers[number]? with
    | none =>
      simp only [perform, found]
      exact .unknown found
    | some b =>
      rcases Nat.lt_or_ge b.capacity bytes.length with long | fits
      · rw [perform_upload_of_lt found long]
        exact .tooLong found long
      · rw [perform_upload_of_le found fits]
        exact .filled found fits

/-! ## What a request gets -/

/-- What a request gets that asks for a buffer of some registers, with some bytes at their
start. -/
structure Grants (s : Store) (r : Request) (slots : Nat) (bytes : List UInt8) : Prop where
  /-- If the size is a 64-bit number and the bytes fit, the buffer is handed out: it stands
  behind the others, and has zeros behind the bytes. -/
  handsOut : slots * registerSize < sizeLimit → bytes.length ≤ slots * registerSize →
    s.perform r = (.ok s.buffers.length, ⟨s.allocations + 1,
      s.buffers ++ [⟨bytes ++ List.replicate (slots * registerSize - bytes.length) 0⟩]⟩)
  /-- If only the bytes do not fit, the buffer is counted and given up. -/
  givesUp : slots * registerSize < sizeLimit → slots * registerSize < bytes.length →
    s.perform r = (.error (r.failure (.sizeMismatch (slots * registerSize) bytes.length)),
      ⟨s.allocations + 1, s.buffers⟩)
  /-- If the size is not a 64-bit number, there is no buffer. -/
  refuses : sizeLimit ≤ slots * registerSize →
    s.perform r = (.error (r.failure (.slotOverflow slots)), s)
  /-- So it succeeds in the first of these cases, and only then. -/
  succeeds_iff : (∃ number, (s.perform r).1 = .ok number) ↔
    slots * registerSize < sizeLimit ∧ bytes.length ≤ slots * registerSize

/-- A request for a buffer is answered in one of three ways. -/
theorem Effect.cases_of_wanted {s t : Store} {r : Request} {answer : Except RequestError Nat}
    {slots : Nat} {bytes : List UInt8} (h : s.Effect r answer t)
    (wanted : r.wanted? = some (slots, bytes)) :
    (slots * registerSize < sizeLimit ∧ bytes.length ≤ slots * registerSize ∧
      answer = .ok s.buffers.length ∧
      t = ⟨s.allocations + 1, s.buffers ++ [(Memory.zeros slots).filled bytes]⟩) ∨
    (slots * registerSize < sizeLimit ∧ slots * registerSize < bytes.length ∧
      answer = .error (r.failure (.sizeMismatch (slots * registerSize) bytes.length)) ∧
      t = ⟨s.allocations + 1, s.buffers⟩) ∨
    (sizeLimit ≤ slots * registerSize ∧ answer = .error (r.failure (.slotOverflow slots)) ∧
      t = s) := by
  -- What a request asks for is one thing, so the effect speaks of the same buffer.
  have same {slots' : Nat} {bytes' : List UInt8} (wanted' : r.wanted? = some (slots', bytes')) :
      slots' = slots ∧ bytes' = bytes :=
    Prod.mk.inj (Option.some.inj (wanted'.symm.trans wanted))
  cases h with
  | handedOut wanted' small fits =>
    obtain ⟨rfl, rfl⟩ := same wanted'
    exact .inl ⟨small, fits, rfl, rfl⟩
  | givenUp wanted' small long =>
    obtain ⟨rfl, rfl⟩ := same wanted'
    exact .inr (.inl ⟨small, long, rfl, rfl⟩)
  | tooLarge wanted' large =>
    obtain ⟨rfl, rfl⟩ := same wanted'
    exact .inr (.inr ⟨large, rfl, rfl⟩)
  | unsupported refused =>
    rw [Request.wanted?, if_neg (by simp [refused])] at wanted
    cases wanted
  | filled | tooLong | unknown => cases wanted

/-- A request for a buffer gets what it is granted, whatever the store. -/
theorem grants_of_wanted (s : Store) {r : Request} {slots : Nat} {bytes : List UInt8}
    (wanted : r.wanted? = some (slots, bytes)) : s.Grants r slots bytes := by
  have not_ok {e : RequestError} (failed : (s.perform r).1 = .error e) :
      ¬ ∃ number, (s.perform r).1 = .ok number := by
    rintro ⟨number, succeeded⟩
    cases failed.symm.trans succeeded
  rcases (s.effect_perform r).cases_of_wanted wanted with ⟨small, fits, answered, after⟩
    | ⟨small, long, answered, after⟩ | ⟨large, answered, after⟩
  · rw [Memory.filled_zeros] at after
    exact
      { handsOut _ _ := Prod.ext answered after
        givesUp _ long := absurd fits (Nat.not_le.2 long)
        refuses large := absurd small (Nat.not_lt.2 large)
        succeeds_iff := ⟨fun _ => ⟨small, fits⟩, fun _ => ⟨_, answered⟩⟩ }
  · exact
      { handsOut _ fits := absurd fits (Nat.not_le.2 long)
        givesUp _ _ := Prod.ext answered after
        refuses large := absurd small (Nat.not_lt.2 large)
        succeeds_iff := iff_of_false (not_ok answered) fun h => absurd h.2 (Nat.not_le.2 long) }
  · exact
      { handsOut small := absurd small (Nat.not_lt.2 large)
        givesUp small := absurd small (Nat.not_lt.2 large)
        refuses _ := Prod.ext answered after
        succeeds_iff := iff_of_false (not_ok answered) fun h => absurd h.1 (Nat.not_lt.2 large) }

/-! ## Several requests -/

/-- The store after several requests, whether they fail or not. -/
def run (s : Store) (requests : List Request) : Store :=
  requests.foldl (fun s r => (s.perform r).2) s

/-- The requests with the answers that a store gives to them, one after the other. -/
def exchanges (s : Store) : List Request → List Exchange
  | [] => []
  | r :: requests => ⟨r, (s.perform r).1⟩ :: (s.perform r).2.exchanges requests

/-- Whether every buffer consists of whole registers. -/
def IsWhole (s : Store) : Prop :=
  ∀ b ∈ s.buffers, registerSize ∣ b.capacity

namespace Effect

variable {s t : Store} {r : Request} {answer : Except RequestError Nat}

theorem isWhole (h : s.Effect r answer t) (whole : s.IsWhole) : t.IsWhole := by
  cases h with
  | handedOut wanted small fits =>
    intro b hb
    rcases List.mem_append.1 hb with old | new
    · exact whole b old
    · obtain rfl := List.mem_singleton.1 new
      rw [Memory.capacity_filled (by rwa [Memory.capacity_zeros]), Memory.capacity_zeros]
      exact Nat.dvd_mul_left _ _
  | filled found fits =>
    intro b hb
    rcases List.mem_or_eq_of_mem_set hb with old | rfl
    · exact whole b old
    · rw [Memory.capacity_filled fits]
      exact whole _ (List.mem_of_getElem? found)
  | givenUp | tooLarge | unsupported | tooLong | unknown => exact whole

/-- A request may add a buffer, and leaves the capacities of all others alone. -/
theorem capacities_grow (h : s.Effect r answer t) :
    s.buffers.map Memory.capacity <+: t.buffers.map Memory.capacity := by
  cases h with
  | handedOut wanted small fits =>
    rw [List.map_append]
    exact List.prefix_append _ _
  | @filled number bytes b found fits =>
    obtain ⟨inside, rfl⟩ := List.getElem?_eq_some_iff.1 found
    have same : (s.buffers.set number (s.buffers[number].filled bytes)).map Memory.capacity
        = s.buffers.map Memory.capacity := by
      rw [List.map_set, Memory.capacity_filled fits, ← List.getElem_map Memory.capacity
        (h := by rwa [List.length_map]), List.set_getElem_self]
    exact same ▸ List.prefix_rfl
  | givenUp | tooLarge | unsupported | tooLong | unknown => exact List.prefix_rfl

/-- The answer tells whether a buffer was made, and so does the request alone. -/
theorem madeBuffer_eq (h : s.Effect r answer t) :
    (Exchange.mk r answer).madeBuffer = r.allocates := by
  cases h with
  | handedOut wanted small fits =>
    rw [Request.allocates_of_wanted wanted, decide_eq_true small]
    cases r with
    | allocate | values | layout => rfl
    | upload => cases wanted
  | givenUp wanted small long =>
    rw [Request.allocates_of_wanted wanted, decide_eq_true small]
    cases r with
    | allocate =>
      cases wanted
      exact absurd long (Nat.not_lt_zero _)
    | values | layout => rfl
    | upload => cases wanted
  | tooLarge wanted large =>
    rw [Request.allocates_of_wanted wanted, decide_eq_false (Nat.not_lt.2 large)]
    cases r with
    | allocate | values | layout => rfl
    | upload => cases wanted
  | unsupported refused =>
    rw [Request.allocates, Request.wanted?, if_neg (by simp [refused])]
    rfl
  | filled | tooLong | unknown => rfl

theorem allocations_eq (h : s.Effect r answer t) :
    t.allocations = s.allocations + if (Exchange.mk r answer).madeBuffer then 1 else 0 := by
  rw [h.madeBuffer_eq]
  cases h with
  | handedOut wanted small | givenUp wanted small =>
    rw [Request.allocates_of_wanted wanted, decide_eq_true small, if_pos rfl]
  | tooLarge wanted large =>
    rw [Request.allocates_of_wanted wanted, decide_eq_false (Nat.not_lt.2 large),
      if_neg Bool.false_ne_true, Nat.add_zero]
  | unsupported refused =>
    rw [Request.allocates, Request.wanted?, if_neg (by simp [refused])]
    rfl
  | filled | tooLong | unknown => rfl

/-- A request that fails changes no buffer. -/
theorem buffers_of_error {e : RequestError} (h : s.Effect r (.error e) t) :
    t.buffers = s.buffers := by
  cases h with
  | givenUp | tooLarge | unsupported | tooLong | unknown => rfl

/-- An upload fills one buffer that was handed out before. -/
theorem buffers_of_upload {target number : Nat} {bytes : List UInt8}
    (h : s.Effect (.upload target bytes) (.ok number) t) :
    number = target ∧ ∃ b, s.buffers[target]? = some b ∧ bytes.length ≤ b.capacity ∧
      t.buffers = s.buffers.set target (b.filled bytes) := by
  cases h with
  | handedOut wanted => cases wanted
  | filled found fits => exact ⟨rfl, _, found, fits, rfl⟩

end Effect

theorem isWhole_run {s : Store} (whole : s.IsWhole) (requests : List Request) :
    (s.run requests).IsWhole := by
  induction requests generalizing s with
  | nil => exact whole
  | cons r requests ih => exact ih ((s.effect_perform r).isWhole whole)

/-- Buffers are added at the end, and keep the capacities they were made with. -/
theorem capacities_prefix_run (s : Store) (requests : List Request) :
    s.buffers.map Memory.capacity <+: (s.run requests).buffers.map Memory.capacity := by
  induction requests generalizing s with
  | nil => exact List.prefix_rfl
  | cons r requests ih => exact (s.effect_perform r).capacities_grow.trans (ih _)

/-- Allocations are counted one by one, as the answers tell. -/
theorem allocations_run (s : Store) (requests : List Request) :
    (s.run requests).allocations
      = s.allocations + (s.exchanges requests).countP Exchange.madeBuffer := by
  induction requests generalizing s with
  | nil => rfl
  | cons r requests ih =>
    have first := (s.effect_perform r).allocations_eq
    change ((s.perform r).2.run requests).allocations = _
    rw [ih, first, exchanges, List.countP_cons, Nat.add_assoc, Nat.add_comm (List.countP _ _)]

/-- For which requests buffers are made does not depend on the store. -/
theorem countP_exchanges (s : Store) (requests : List Request) :
    (s.exchanges requests).countP Exchange.madeBuffer = requests.countP Request.allocates := by
  induction requests generalizing s with
  | nil => rfl
  | cons r requests ih =>
    rw [exchanges, List.countP_cons, List.countP_cons, ih, (s.effect_perform r).madeBuffer_eq]

/-- **A store after any requests.**  Every buffer consists of whole registers, whose
bytes are its bytes, and the capacities it has now it has for good.  The allocations are
as many as the answers tell of buffers that were made, handed out or given up, and they
are those of the requests for a buffer whose size is a 64-bit number.  One more request
that fails changes no buffer.  One for a buffer gets it, filled with the bytes and zeros
behind them, exactly when its size is such a number and the bytes fit.  One for host values
of which one is unsupported changes nothing.  An upload that succeeds replaces as many bytes
as it brings at the start of one buffer, and it succeeds exactly when they fit into a
buffer that was handed out; if they do not fit, it is refused with both sizes. -/
theorem run_spec (requests : List Request) :
    let s := empty.run requests
    (∀ b ∈ s.buffers, registerSize ∣ b.capacity ∧
      b.registers.length = b.capacity / registerSize ∧
      b.registers.flatMap Register.bytes = b.bytes) ∧
    (∀ more, s.buffers.map Memory.capacity <+: (s.run more).buffers.map Memory.capacity) ∧
    (s.allocations = (empty.exchanges requests).countP Exchange.madeBuffer ∧
      s.allocations = requests.countP Request.allocates) ∧
    (∀ r e, (s.perform r).1 = .error e → (s.perform r).2.buffers = s.buffers) ∧
    (∀ r slots bytes, r.wanted? = some (slots, bytes) → s.Grants r slots bytes) ∧
    (∀ hs, hs.all HostValue.isSupported = false → ∃ index typeName,
      s.perform (.values hs) = (.error (.pack (.unsupportedValue index typeName)), s)) ∧
    (∀ target bytes,
      ((s.perform (.upload target bytes)).1 = .ok target ↔
        ∃ b, s.buffers[target]? = some b ∧ bytes.length ≤ b.capacity) ∧
      (∀ b, s.buffers[target]? = some b → b.capacity < bytes.length →
        s.perform (.upload target bytes)
          = (.error (.buffer (.sizeMismatch b.capacity bytes.length)), s)) ∧
      ∀ number, (s.perform (.upload target bytes)).1 = .ok number →
        number = target ∧ ∃ b b', s.buffers[target]? = some b ∧
          (s.perform (.upload target bytes)).2.buffers = s.buffers.set target b' ∧
          b'.bytes.take bytes.length = bytes ∧
          b'.bytes.drop bytes.length = b.bytes.drop bytes.length) := by
  intro s
  have whole : s.IsWhole := isWhole_run (by intro b hb; cases hb) requests
  have counted : s.allocations = (empty.exchanges requests).countP Exchange.madeBuffer :=
    (allocations_run empty requests).trans (Nat.zero_add _)
  refine ⟨fun b hb => ⟨whole b hb, registers_spec (whole b hb)⟩, s.capacities_prefix_run,
    ⟨counted, counted.trans (countP_exchanges empty requests)⟩, fun r e failed => ?_,
    fun r slots bytes => s.grants_of_wanted, fun hs => s.perform_unsupported,
    fun target bytes => ⟨⟨fun answered => ?_, ?_⟩, fun _ => perform_upload_of_lt,
      fun number answered => ?_⟩⟩
  · have effect := s.effect_perform r
    rw [failed] at effect
    exact effect.buffers_of_error
  · have effect := s.effect_perform (.upload target bytes)
    rw [answered] at effect
    obtain ⟨-, b, found, fits, -⟩ := effect.buffers_of_upload
    exact ⟨b, found, fits⟩
  · rintro ⟨b, found, fits⟩
    exact congrArg Prod.fst (perform_upload_of_le found fits)
  · have effect := s.effect_perform (.upload target bytes)
    rw [answered] at effect
    obtain ⟨rfl, b, found, -, filled⟩ := effect.buffers_of_upload
    exact ⟨rfl, b, _, found, filled, List.take_left, List.drop_left⟩

-- The buffer of a layout that does not fit is counted, but not handed out.
example : empty.run [.allocate 1, .layout ⟨List.replicate 17 7, [], 17, 1⟩, .upload 0 [5]]
    = ⟨2, [⟨5 :: List.replicate 15 0⟩]⟩ := by decide

end Store

end ShaderLowering.Buffer
