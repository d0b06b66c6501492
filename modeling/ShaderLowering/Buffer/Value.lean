import ShaderLowering.Buffer.Bytes
import ShaderLowering.Decimal.Binary

/-!
# Buffer values

The closed set of scalars and vectors that a constant buffer can hold.  A single
Boolean is a truth value; the components of a Boolean vector are whole 32-bit
words, of which zero is false.  Floats are words of the binary interchange
formats, so that nothing is lost on the way into a buffer.

## Main definitions

* `Kind` — the type of a value, with its size and its shader name.
* `Value` — a value, with its kind and its bytes.
* `Value.same` — equality of values, with floats compared as numbers.
-/

namespace ShaderLowering.Buffer

/-! ## Kinds -/

/-- The type of a value. -/
inductive Kind where
  | bool | bool2 | bool3 | bool4
  | int | int2 | int3 | int4
  | uint | uint2 | uint3 | uint4
  | float | float2 | float3 | float4
  | vector2 | vector3 | vector4
  | double | double2 | double3 | double4
deriving DecidableEq, Repr

namespace Kind

/-- All kinds. -/
def all : List Kind :=
  [bool, bool2, bool3, bool4, int, int2, int3, int4, uint, uint2, uint3, uint4,
    float, float2, float3, float4, vector2, vector3, vector4, double, double2, double3, double4]

/-- The number of bytes a value takes in a buffer. -/
def size : Kind → Nat
  | bool | int | uint | float => 4
  | bool2 | int2 | uint2 | float2 | vector2 | double => 8
  | bool3 | int3 | uint3 | float3 | vector3 => 12
  | bool4 | int4 | uint4 | float4 | vector4 | double2 => 16
  | double3 => 24
  | double4 => 32

/-- The shader name of the type. -/
def shaderName : Kind → String
  | bool => "bool" | bool2 => "bool2" | bool3 => "bool3" | bool4 => "bool4"
  | int => "int" | int2 => "int2" | int3 => "int3" | int4 => "int4"
  | uint => "uint" | uint2 => "uint2" | uint3 => "uint3" | uint4 => "uint4"
  | float => "float"
  | float2 | vector2 => "float2"
  | float3 | vector3 => "float3"
  | float4 | vector4 => "float4"
  | double => "double" | double2 => "double2" | double3 => "double3" | double4 => "double4"

/-- Every kind is listed. -/
theorem mem_all (k : Kind) : k ∈ all := by
  cases k <;> decide

end Kind

/-! ## Values -/

/-- A value of one of the kinds. -/
inductive Value where
  | bool (x : Bool)
  | bool2 (x y : UInt32)
  | bool3 (x y z : UInt32)
  | bool4 (x y z w : UInt32)
  | int (x : Int32)
  | int2 (x y : Int32)
  | int3 (x y z : Int32)
  | int4 (x y z w : Int32)
  | uint (x : UInt32)
  | uint2 (x y : UInt32)
  | uint3 (x y z : UInt32)
  | uint4 (x y z w : UInt32)
  | float (x : UInt32)
  | float2 (x y : UInt32)
  | float3 (x y z : UInt32)
  | float4 (x y z w : UInt32)
  | vector2 (x y : UInt32)
  | vector3 (x y z : UInt32)
  | vector4 (x y z w : UInt32)
  | double (x : UInt64)
  | double2 (x y : UInt64)
  | double3 (x y z : UInt64)
  | double4 (x y z w : UInt64)
deriving DecidableEq, Repr

/-- One component of a value: a plain 32-bit word, or the word of a float. -/
inductive Lane where
  | word (bits : UInt32)
  | float (bits : UInt32)
  | double (bits : UInt64)
deriving DecidableEq, Repr

namespace Lane

/-- The bytes of a component. -/
def bytes : Lane → List UInt8
  | word bits | float bits => bytesOf 4 bits.toNat
  | double bits => bytesOf 8 bits.toNat

/-- Whether two components are equal, floats as numbers. -/
def same : Lane → Lane → Bool
  | word a, word b => a == b
  | float a, float b => Decimal.binary32.same a.toNat b.toNat
  | double a, double b => Decimal.binary64.same a.toNat b.toNat
  | _, _ => false

end Lane

/-- The word of a truth value. -/
def boolWord (x : Bool) : UInt32 :=
  if x then 1 else 0

namespace Value

/-- The kind of a value. -/
def kind : Value → Kind
  | bool .. => .bool | bool2 .. => .bool2 | bool3 .. => .bool3 | bool4 .. => .bool4
  | int .. => .int | int2 .. => .int2 | int3 .. => .int3 | int4 .. => .int4
  | uint .. => .uint | uint2 .. => .uint2 | uint3 .. => .uint3 | uint4 .. => .uint4
  | float .. => .float | float2 .. => .float2 | float3 .. => .float3 | float4 .. => .float4
  | vector2 .. => .vector2 | vector3 .. => .vector3 | vector4 .. => .vector4
  | double .. => .double | double2 .. => .double2 | double3 .. => .double3
  | double4 .. => .double4

/-- The components of a value. -/
def lanes : Value → List Lane
  | bool x => [.word (boolWord x)]
  | bool2 x y | uint2 x y => [.word x, .word y]
  | bool3 x y z | uint3 x y z => [.word x, .word y, .word z]
  | bool4 x y z w | uint4 x y z w => [.word x, .word y, .word z, .word w]
  | int x => [.word x.toUInt32]
  | int2 x y => [.word x.toUInt32, .word y.toUInt32]
  | int3 x y z => [.word x.toUInt32, .word y.toUInt32, .word z.toUInt32]
  | int4 x y z w => [.word x.toUInt32, .word y.toUInt32, .word z.toUInt32, .word w.toUInt32]
  | uint x => [.word x]
  | float x => [.float x]
  | float2 x y | vector2 x y => [.float x, .float y]
  | float3 x y z | vector3 x y z => [.float x, .float y, .float z]
  | float4 x y z w | vector4 x y z w => [.float x, .float y, .float z, .float w]
  | double x => [.double x]
  | double2 x y => [.double x, .double y]
  | double3 x y z => [.double x, .double y, .double z]
  | double4 x y z w => [.double x, .double y, .double z, .double w]

/-- The bytes of a value in a buffer, component by component. -/
def bytes (v : Value) : List UInt8 :=
  v.lanes.flatMap Lane.bytes

/-- The number of bytes a value takes. -/
def size (v : Value) : Nat :=
  v.kind.size

/-- A value takes as many bytes as its kind says. -/
@[simp] theorem length_bytes (v : Value) : v.bytes.length = v.size := by
  cases v <;> rfl

/-- Whether two values are equal: of one kind, with equal components. -/
def same (a b : Value) : Bool :=
  a.kind == b.kind && (a.lanes.zip b.lanes).all fun p => p.1.same p.2

end Value

end ShaderLowering.Buffer
