import ShaderLowering.Buffer.Layout

/-!
# Host values

A value as the host hands it over, with its type known only when it is looked
at.  Values of the supported kinds are accepted whether they are bare or
already wrapped; anything else is refused under the name of its type.

## Main definitions

* `ForeignType` — a type that is not supported.
* `HostValue`, `HostValue.classify` — a host value, and the buffer value it is.
* `BufferError`, `PackError` — why a buffer or a layout cannot be made.
* `classifyAll`, `Layout.packHost` — a list of host values, and its layout.
-/

namespace ShaderLowering.Buffer

/-! ## Types of the host -/

/-- The host type whose values have a kind, by its name. -/
def Kind.hostType : Kind → String
  | bool => "bool" | bool2 => "Bool2" | bool3 => "Bool3" | bool4 => "Bool4"
  | int => "i32" | int2 => "Int2" | int3 => "Int3" | int4 => "Int4"
  | uint => "u32" | uint2 => "UInt2" | uint3 => "UInt3" | uint4 => "UInt4"
  | float => "f32" | float2 => "Float2" | float3 => "Float3" | float4 => "Float4"
  | vector2 => "Vec2" | vector3 => "Vec3" | vector4 => "Vec4"
  | double => "f64" | double2 => "Double2" | double3 => "Double3" | double4 => "Double4"

/-- The supported types: the one of buffer values, and one for each kind. -/
def supportedTypes : List String :=
  "ShaderValue" :: Kind.all.map Kind.hostType

/-- A type of the host that is not supported.  Types from elsewhere have names that say where
they come from, so that no name of a supported type is theirs. -/
structure ForeignType where
  name : String
  foreign : name ∉ supportedTypes := by decide
deriving DecidableEq, Repr

/-! ## Host values -/

/-- A value of the host, by the downcast that finds out what it is. -/
inductive HostValue where
  /-- The downcast to the host type of a kind has found this value. -/
  | bare (value : Value)
  /-- The downcast to buffer values has found one. -/
  | wrapped (value : Value)
  /-- No downcast to a supported type finds anything. -/
  | other (type : ForeignType)
deriving DecidableEq, Repr

/-- Why a buffer cannot be made or filled. -/
inductive BufferError where
  /-- So many slots have a size that is not a 64-bit number. -/
  | slotOverflow (slots : Nat)
  /-- There are more bytes than the buffer holds. -/
  | sizeMismatch (capacity actual : Nat)
deriving DecidableEq, Repr

/-- Why values cannot be put into a new buffer. -/
inductive PackError where
  /-- The value at an index has a type that no kind stands for. -/
  | unsupportedValue (index : Nat) (typeName : String)
  /-- The buffer cannot be made or filled. -/
  | allocation (cause : BufferError)
deriving DecidableEq, Repr

/-- The wording of an error. -/
def BufferError.message : BufferError → String
  | slotOverflow slots => "Buffer creation failed: " ++ toString slots ++ " slots overflow usize"
  | sizeMismatch capacity actual =>
    "Buffer size mismatch: expected at most " ++ toString capacity ++ " bytes, got "
      ++ toString actual ++ " bytes"

/-- The wording of an error. -/
def PackError.message : PackError → String
  | unsupportedValue index typeName =>
    "Value " ++ toString index ++ " has unsupported type " ++ typeName
  | allocation cause => "Constant buffer allocation failed: " ++ cause.message

/-- The buffer value that a host value is, or the name of its type. -/
def HostValue.classify : HostValue → Except String Value
  | bare value | wrapped value => .ok value
  | other type => .error type.name

/-- The buffer values of a list, counted from `index`, or the first one that is
none. -/
def classifyFrom (index : Nat) : List HostValue → Except PackError (List Value)
  | [] => .ok []
  | h :: hs =>
    match h.classify with
    | .error typeName => .error (.unsupportedValue index typeName)
    | .ok v => (classifyFrom (index + 1) hs).map (v :: ·)

/-- The buffer values of a list of host values. -/
def classifyAll (values : List HostValue) : Except PackError (List Value) :=
  classifyFrom 0 values

/-- The layout of a list of host values. -/
def Layout.packHost (values : List HostValue) : Except PackError Layout :=
  (classifyAll values).map Layout.pack

end ShaderLowering.Buffer
