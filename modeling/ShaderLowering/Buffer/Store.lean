import ShaderLowering.Buffer.HostValue

/-!
# A store of constant buffers

Constant buffers in memory.  A store hands buffers out under consecutive numbers
and counts every allocation, also one whose buffer is given up again because it
could not be filled.

## Main definitions

* `Memory` — the bytes of one buffer, with `Memory.upload` and `Memory.registers`.
* `Store` — the buffers handed out and the number of allocations.
* `Request`, `Store.perform` — what can be asked of a store.
-/

namespace ShaderLowering.Buffer

/-! ## One buffer -/

/-- The bytes of one buffer. -/
structure Memory where
  bytes : List UInt8
deriving DecidableEq, Repr

/-- Four 32-bit words. -/
structure Register where
  x : UInt32
  y : UInt32
  z : UInt32
  w : UInt32
deriving DecidableEq, Repr

/-- Words in groups of four. -/
def registersOf : List UInt32 → List Register
  | x :: y :: z :: w :: rest => ⟨x, y, z, w⟩ :: registersOf rest
  | _ => []

namespace Memory

/-- A buffer of zeros. -/
def zeros (slots : Nat) : Memory :=
  ⟨List.replicate (slots * registerSize) 0⟩

/-- The size of a buffer in bytes. -/
def capacity (b : Memory) : Nat :=
  b.bytes.length

/-- A buffer as registers. -/
def registers (b : Memory) : List Register :=
  registersOf (wordsOf b.bytes)

/-- Writes bytes to the start of a buffer, if they fit. -/
def upload (b : Memory) (bytes : List UInt8) : Except BufferError Memory :=
  if b.capacity < bytes.length then .error (.sizeMismatch b.capacity bytes.length)
  else .ok ⟨bytes ++ b.bytes.drop bytes.length⟩

end Memory

/-! ## The store -/

/-- The buffers handed out so far, and the number of allocations. -/
structure Store where
  allocations : Nat
  buffers : List Memory
deriving DecidableEq, Repr

/-- What can be asked of a store. -/
inductive Request where
  /-- A new buffer of zeros. -/
  | allocate (slots : Nat)
  /-- A new buffer with the layout of host values. -/
  | values (values : List HostValue)
  /-- A new buffer with the bytes of a layout. -/
  | layout (layout : Layout)
  /-- Bytes for the start of a buffer that was handed out before. -/
  | upload (buffer : Nat) (bytes : List UInt8)
deriving Repr

/-- Why a request fails. -/
inductive RequestError where
  | buffer (cause : BufferError)
  | pack (cause : PackError)
  /-- No buffer was handed out under this number. -/
  | unknownBuffer (number : Nat)
deriving DecidableEq, Repr

/-- The wording of an error. -/
def RequestError.message : RequestError → String
  | buffer cause => cause.message
  | pack cause => cause.message
  | unknownBuffer number => "No buffer " ++ toString number

namespace Store

/-- The store before the first request. -/
def empty : Store := ⟨0, []⟩

/-- The first size in bytes that is not a 64-bit number. -/
def sizeLimit : Nat := 18446744073709551616

/-- Makes a buffer of zeros, and counts it. -/
def allocate (s : Store) (slots : Nat) : Except BufferError Memory × Store :=
  if sizeLimit ≤ slots * registerSize then (.error (.slotOverflow slots), s)
  else (.ok (.zeros slots), { s with allocations := s.allocations + 1 })

/-- Hands a buffer out under the next number. -/
def handOut (s : Store) (b : Memory) : Nat × Store :=
  (s.buffers.length, { s with buffers := s.buffers ++ [b] })

/-- Makes a buffer for a layout and fills it. -/
def uploadLayout (s : Store) (l : Layout) : Except PackError Nat × Store :=
  match s.allocate l.slots with
  | (.error e, s) => (.error (.allocation e), s)
  | (.ok b, s) =>
    match b.upload l.bytes with
    | .error e => (.error (.allocation e), s)
    | .ok b =>
      let (number, s) := s.handOut b
      (.ok number, s)

/-- Makes a buffer for host values and fills it.  Nothing is allocated when a
value is unsupported. -/
def allocateValues (s : Store) (values : List HostValue) : Except PackError Nat × Store :=
  match Layout.packHost values with
  | .error e => (.error e, s)
  | .ok l => s.uploadLayout l

/-- Answers a request with the number of the buffer it is about. -/
def perform (s : Store) : Request → Except RequestError Nat × Store
  | .allocate slots =>
    match s.allocate slots with
    | (.error e, s) => (.error (.buffer e), s)
    | (.ok b, s) =>
      let (number, s) := s.handOut b
      (.ok number, s)
  | .values values =>
    let (answer, s) := s.allocateValues values
    (answer.mapError .pack, s)
  | .layout layout =>
    let (answer, s) := s.uploadLayout layout
    (answer.mapError .pack, s)
  | .upload number bytes =>
    match s.buffers[number]? with
    | none => (.error (.unknownBuffer number), s)
    | some b =>
      match b.upload bytes with
      | .error e => (.error (.buffer e), s)
      | .ok b => (.ok number, { s with buffers := s.buffers.set number b })

end Store

end ShaderLowering.Buffer
