import ShaderLowering.Tree.Build

/-!
# Cores of expressions

What a tree says apart from how it happens to be written: without parentheses and
without positions.  Two trees with one core mean the same.

## Main definitions

* `Expr.core` — an expression without its parentheses and positions.
-/

namespace ShaderLowering.Expr

mutual

/-- An expression without parentheses and positions, at any depth. -/
def core : Expr → Expr
  | .literal value => .literal value
  | .ident name => .ident name
  | .member target name _ => .access target.core name
  | .call callee args => .call callee.core (cores args)
  | .index target position => .index target.core position.core
  | .cast type operand => .cast (.named type.name) operand.core
  | .creation type args => .creation (.named type.name) (cores args)
  | .creationWith type args fields =>
    .creationWith (.named type.name) (cores args) (fieldCores fields)
  | .defaultOf type => .defaultOf (.named type.name)
  | .unary op operand => .unary op operand.core
  | .binary op lhs rhs => .binary op lhs.core rhs.core
  | .assign op target value => .assign op target.core value.core
  | .conditional cond onTrue onFalse => .conditional cond.core onTrue.core onFalse.core
  | .paren inner => inner.core
  | .lambda params body => .lambda params body.core
termination_by structural e => e

/-- Several expressions without them. -/
def cores : List Expr → List Expr
  | [] => []
  | e :: es => e.core :: cores es
termination_by structural es => es

/-- The fields of an object initialiser without them. -/
def fieldCores : List (String × Expr) → List (String × Expr)
  | [] => []
  | (name, value) :: fields => (name, value.core) :: fieldCores fields
termination_by structural fields => fields

end

end ShaderLowering.Expr
