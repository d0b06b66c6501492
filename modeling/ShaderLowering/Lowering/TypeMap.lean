import ShaderLowering.Data.Dictionary
import ShaderLowering.Error

/-!
# Type maps

Which shader type stands for which host type, by name.

## Main definitions

* `TypeMap`, `TypeMap.builtin` — a map, and the one for the usual host types.
* `TypeMap.map` — the shader type for a host type, or the error that there is none.
-/

namespace ShaderLowering

/-- Shader type names by host type name. -/
structure TypeMap where
  table : Dictionary String String

namespace TypeMap

/-- The built-in entries.  A host type is listed under its qualified and its
short name. -/
def builtinEntries : List (String × String) :=
  [("void", "void"), ("System.Void", "void"),
    ("bool", "bool"), ("System.Boolean", "bool"),
    ("int", "int"), ("System.Int32", "int"),
    ("uint", "uint"), ("System.UInt32", "uint"),
    ("float", "float"), ("System.Single", "float"),
    ("double", "double"), ("System.Double", "double"),
    ("Bool2", "bool2"), ("Bool3", "bool3"), ("Bool4", "bool4"),
    ("Int2", "int2"), ("Int3", "int3"), ("Int4", "int4"),
    ("UInt2", "uint2"), ("UInt3", "uint3"), ("UInt4", "uint4"),
    ("Float2", "float2"), ("Float3", "float3"), ("Float4", "float4"),
    ("Double2", "double2"), ("Double3", "double3"), ("Double4", "double4"),
    ("Float2x2", "float2x2"), ("Float3x3", "float3x3"), ("Float4x4", "float4x4"),
    ("Vector2", "float2"), ("Vector3", "float3"), ("Vector4", "float4"),
    ("System.Numerics.Vector2", "float2"), ("System.Numerics.Vector3", "float3"),
    ("System.Numerics.Vector4", "float4"),
    ("Matrix4x4", "float4x4"), ("System.Numerics.Matrix4x4", "float4x4")]

/-- The map without entries. -/
def empty : TypeMap := ⟨.empty⟩

/-- The built-in map. -/
def builtin : TypeMap := ⟨.ofList builtinEntries⟩

/-- Adds an entry, or replaces the one that is there. -/
def register (t : TypeMap) (host shader : String) : TypeMap :=
  ⟨t.table.insert host shader⟩

/-- Adds several entries, first to last. -/
def registerAll (t : TypeMap) (entries : List (String × String)) : TypeMap :=
  ⟨t.table.insertAll entries⟩

/-- The shader type for a host type name. -/
def lookup (t : TypeMap) (host : String) : Option String :=
  t.table.get? host

/-- The number of host types. -/
def size (t : TypeMap) : Nat :=
  t.table.size

/-- The shader type for a host type, at the same position. -/
def map (t : TypeMap) (type : TypeName) : Except LoweringError TypeName :=
  match t.lookup type.name with
  | some shader => .ok ⟨shader, type.span⟩
  | none => .error (.unmappedType type.name type.span)

/-- Registering changes one host type only. -/
@[simp] theorem lookup_register (t : TypeMap) (host shader name : String) :
    (t.register host shader).lookup name = if name = host then some shader else t.lookup name :=
  t.table.get?_insert host name shader

end TypeMap

end ShaderLowering
