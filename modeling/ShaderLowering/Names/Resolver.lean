import ShaderLowering.Error
import ShaderLowering.Names.Member

/-!
# Resolvers

Lowering does not know what a member access refers to.  It asks a resolver,
which sees the access, with its target lowered already, and which local names
are visible there.

## Main definitions

* `Resolution` — the answers.
* `Resolver` — the function that gives them.
-/

namespace ShaderLowering

/-- What a member access stands for. -/
inductive Resolution where
  /-- A static member whose value the shader has to be given. -/
  | capture (member : Member)
  /-- An expression that replaces the access. -/
  | direct (replacement : Expr)
deriving Repr

/-- Answers what an access stands for, given which names are visible. -/
abbrev Resolver := Access → (String → Bool) → Except LoweringError Resolution

end ShaderLowering
