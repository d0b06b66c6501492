import ShaderLowering.Buffer.Layout
import ShaderLowering.Log.Line

/-!
# The journal of a layout

What is logged while values are laid out: each gap that is left, and how much
room the values took.

## Main definitions

* `Gap`, `gaps` — the gaps in front of values.
* `Layout.journal` — the log lines of a layout.
-/

namespace ShaderLowering.Buffer

/-- A gap in front of a value: how wide it is, the value's kind, and where it
begins. -/
structure Gap where
  width : Nat
  kind : Kind
  offset : Nat
deriving DecidableEq, Repr

/-- The gaps in front of values of given kinds behind `offset`. -/
def gaps (offset : Nat) : List Kind → List Gap
  | [] => []
  | k :: ks =>
    let start := alignedOffset offset k.size
    (if start = offset then [] else [⟨start - offset, k, offset⟩]) ++ gaps (start + k.size) ks

/-- Who speaks in the log. -/
def speaker : String := "ConstantBufferPacker"

/-- The log line of a gap. -/
def Gap.line (g : Gap) : String :=
  logLine .trace speaker ("Padding " ++ toString g.width ++ " bytes before " ++ g.kind.shaderName
    ++ " at offset " ++ toString g.offset)

/-- The log lines of laying values out. -/
def Layout.journal (values : List Value) : List String :=
  let l := Layout.pack values
  (gaps 0 (values.map Value.kind)).map Gap.line
    ++ [logLine .debug speaker ("Packed " ++ toString values.length ++ " values into "
        ++ toString l.slots ++ " slots (" ++ toString l.used ++ " of " ++ toString l.size
        ++ " bytes used)")]

end ShaderLowering.Buffer
