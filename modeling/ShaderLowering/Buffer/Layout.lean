import ShaderLowering.Buffer.Value
import ShaderLowering.Text.Column

/-!
# Constant buffer layout

Values are placed one after the other in registers of sixteen bytes.  A value
that does not fit into what is left of the current register starts the next one;
a value wider than a register always starts on a register boundary.

A layout has one register for each value, which is enough unless wide values
need more.

## Main definitions

* `alignedOffset` — where a value goes.
* `placements`, `endOffset` — where all values go, and where the last one ends.
* `Layout.pack` — the bytes and the placements of a list of values.
* `Layout.report` — a layout as text.
-/

namespace ShaderLowering.Buffer

/-- The number of bytes in a register. -/
def registerSize : Nat := 16

/-- The offset of a value of a size when everything before `offset` is taken.
The room left is compared with the size cut off at a whole register, so that a
wide value stays where it is if a register begins there. -/
def alignedOffset (offset size : Nat) : Nat :=
  if registerSize - size < offset % registerSize then
    offset + (registerSize - offset % registerSize)
  else offset

/-- Where one value is. -/
structure Placement where
  offset : Nat
  size : Nat
  kind : Kind
deriving DecidableEq, Repr

/-- The placements of values of given kinds behind `offset`. -/
def placements (offset : Nat) : List Kind → List Placement
  | [] => []
  | k :: ks =>
    ⟨alignedOffset offset k.size, k.size, k⟩
      :: placements (alignedOffset offset k.size + k.size) ks

/-- The offset behind the last of the values of given kinds that follow `offset`. -/
def endOffset (offset : Nat) : List Kind → Nat
  | [] => offset
  | k :: ks => endOffset (alignedOffset offset k.size + k.size) ks

/-- The bytes of values behind `offset`, with zeros in the gaps. -/
def image (offset : Nat) : List Value → List UInt8
  | [] => []
  | v :: vs =>
    List.replicate (alignedOffset offset v.size - offset) 0 ++ v.bytes
      ++ image (alignedOffset offset v.size + v.size) vs

/-- The number of registers that `used` bytes touch. -/
def registersFor (used : Nat) : Nat :=
  (used + (registerSize - 1)) / registerSize

/-- The bytes of a constant buffer and where its values are. -/
structure Layout where
  bytes : List UInt8
  entries : List Placement
  /-- The offset behind the last value. -/
  used : Nat
  slots : Nat
deriving DecidableEq, Repr

namespace Layout

/-- The size of the whole buffer in bytes. -/
def size (l : Layout) : Nat :=
  l.bytes.length

/-- The layout of a list of values. -/
def pack (values : List Value) : Layout :=
  let kinds := values.map Value.kind
  let used := endOffset 0 kinds
  let slots := max values.length (registersFor used)
  { bytes := image 0 values ++ List.replicate (slots * registerSize - used) 0
    entries := placements 0 kinds
    used := used
    slots := slots }

/-- One line of a report. -/
def reportLine (index : Nat) (p : Placement) : String :=
  "  [" ++ Text.flushRight 2 (toString index) ++ "] " ++ Text.flushLeft 8 p.kind.shaderName
    ++ " @ " ++ Text.flushRight 4 (toString p.offset)
    ++ " (" ++ Text.flushRight 2 (toString p.size) ++ " bytes)\n"

/-- The report lines of placements, counted from `index`. -/
def reportLines (index : Nat) : List Placement → List String
  | [] => []
  | p :: ps => reportLine index p :: reportLines (index + 1) ps

/-- A layout as text. -/
def report (l : Layout) : String :=
  "Total size: " ++ toString l.size ++ " bytes (" ++ toString l.slots ++ " slots, "
    ++ toString l.used ++ " used)\nValues:\n" ++ String.join (reportLines 0 l.entries)

end Layout

end ShaderLowering.Buffer
