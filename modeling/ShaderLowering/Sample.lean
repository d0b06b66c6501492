import ShaderLowering.Buffer.Store
import ShaderLowering.Names.MemberTable
import ShaderLowering.Settings
import ShaderLowering.Text.Column
import ShaderLowering.Tree.Build

/-!
# A sample

A small method that brightens a colour, lowered and reported on together with
the constant buffer of the members it captures.

## Main definitions

* `method`, `members`, `captured` — the method, what its names mean, and the
  values of the captured members.
* `report` — the report on it.
* `Outcome`, `run` — the program that prints the report.
-/

namespace ShaderLowering.Sample

open Buffer

/-! ## The method -/

/-- The type of colours. -/
def colorType : TypeName := .named "Float3"

/-- Gives a colour a tint, makes it brighter, and keeps it in range. -/
def method : Method :=
  let color := Expr.ident "color"
  let tint := Expr.creation colorType
    [.float 0x3f800000, .ofPath "Settings.Warmth", .float 0x3f000000]
  let exposure := Expr.call (.ofPath "Math.Max") [.ofPath "Settings.Exposure", .float 0]
  { (Method.empty (.named "void") "Brighten").withParameter
      { Parameter.plain colorType "color" with passing := .reference } with
    body :=
      [.declare (.single colorType "tint" (some tint)),
        .expr (.set color (.binary .mul (.binary .mul color (.ident "tint")) exposure)),
        .branch (.ofPath "Settings.Clamp")
          [.expr (.set color (.call (.ident "saturate") [color]))] none] }

/-- The static members that the method reads, and its one function. -/
def members : MemberTable :=
  (((MemberTable.vectorFields.addStatic
      ⟨"Settings", "Warmth", .named "float", .field⟩).addStatic
      ⟨"Settings", "Exposure", .named "float", .property⟩).addStatic
      ⟨"Settings", "Clamp", .named "bool", .field⟩).addAlias "Math.Max" "max"

/-- The values of the captured members, in the order of capture: 0.8, 1.25 and
true. -/
def captured : List HostValue :=
  [.bare (.float 0x3f4ccccd), .bare (.float 0x3fa00000), .bare (.bool true)]

/-- Values of three kinds, to show a layout: true, 5, and the vector 1, 2, 3. -/
def mixed : List Value :=
  [.bool true, .int 5, .float3 0x3f800000 0x40000000 0x40400000]

/-! ## The report -/

/-- A line on a captured member. -/
def captureLine (e : Capture) : String :=
  "  " ++ Text.flushLeft 24 e.name ++ " <- " ++ e.member.qualified ++ "\n"

/-- A line on a register. -/
def registerLine (index : Nat) (r : Register) : String :=
  let components := [r.x, r.y, r.z, r.w].map Decimal.written32
  "  c" ++ toString index ++ ": Vec4(" ++ ", ".intercalate components ++ ")\n"

/-- The report on a lowered method and its constant buffer. -/
def reportOn (m : LoweredMethod) (b : Memory) : String :=
  "=== HLSL ===\n" ++ m.source ++ "\n"
    ++ "\n=== Captured members ===\n" ++ String.join (m.captures.entries.map captureLine)
    ++ "\n=== Constant buffer (" ++ toString b.capacity ++ " bytes) ===\n"
    ++ String.join (b.registers.mapIdx registerLine)
    ++ "\n=== Sample layout ===\n" ++ (Layout.pack mixed).report

/-- The report with given settings, or the wording of what went wrong. -/
def report (s : Settings) : Except String String := do
  let m ← ((s.context members.resolve s.typeMap).lower method).mapError LoweringError.message
  let l ← (Layout.packHost captured).mapError PackError.message
  let b ← ((Memory.zeros l.slots).upload l.bytes).mapError BufferError.message
  return reportOn m b

/-! ## The program -/

/-- How a run of the program ends: its exit status, what it prints, and what it
complains of. -/
structure Outcome where
  status : UInt32
  output : String
  complaint : String

/-- A run of the program, which prints nothing unless the whole report can be made. -/
def run (settings : Except SettingsError Settings) : Outcome :=
  match settings.mapError SettingsError.message >>= report with
  | .ok text => ⟨0, text, ""⟩
  | .error message => ⟨1, "", "Error: " ++ message ++ "\n"⟩

end ShaderLowering.Sample
