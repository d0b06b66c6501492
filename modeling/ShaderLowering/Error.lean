import ShaderLowering.Tree.Basic

/-!
# Why a method cannot be lowered

Three causes, all of them final for the method: a construct that the shader
language does not have, a type without a counterpart, and a member that the
resolver refuses.

## Main definitions

* `Construct` — the constructs that are never lowered.
* `LoweringError`, `LoweringError.message` — the causes and their wording.
-/

namespace ShaderLowering

/-- A construct of the host language that has no shader form. -/
inductive Construct where
  | foreachLoop
  | implicitLocal
  | objectInitializer
  | stringLiteral
  | nullLiteral
  | lambda
deriving DecidableEq, Repr

/-- The name of a construct, for messages. -/
def Construct.text : Construct → String
  | foreachLoop => "foreach loop"
  | implicitLocal => "implicitly typed local"
  | objectInitializer => "object initializer"
  | stringLiteral => "string literal"
  | nullLiteral => "null literal"
  | lambda => "lambda expression"

/-- The cause of a failed lowering. -/
inductive LoweringError where
  /-- A construct without a shader form: the method it is in, its source text, and
  where it is, or the last position seen before it. -/
  | unsupported (method : String) (construct : Construct) (source : String) (span : Span)
  /-- A type without a shader counterpart. -/
  | unmappedType (name : String) (span : Span)
  /-- A member that the resolver refuses. -/
  | unresolved (member : String) (reason : String)
deriving DecidableEq, Repr

/-- The wording of an error. -/
def LoweringError.message : LoweringError → String
  | unsupported method construct source span =>
    "unsupported " ++ construct.text ++ " in `" ++ method ++ "` (" ++ span.text ++ "): `"
      ++ source ++ "`"
  | unmappedType name span => "no HLSL mapping for type `" ++ name ++ "` (" ++ span.text ++ ")"
  | unresolved member reason => "cannot resolve member `" ++ member ++ "`: " ++ reason

end ShaderLowering
