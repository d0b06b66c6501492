import ShaderLowering.Tree.Basic

/-!
# Operators and keywords

The spelling of operators, how tightly they bind, and the words for the forms of
an expression and for the ways of passing an argument.

## Main definitions

* `Binary.symbol`, `Binary.precedence` — C spelling and C binding strength.
* `Unary.symbol`, `Unary.isPostfix` — spelling and side.
* `Passing.keyword?` — the word in front of a parameter.
* `Expr.form` — the name of an expression's form, for messages.
-/

namespace ShaderLowering

/-- The spelling of a binary operator. -/
def Binary.symbol : Binary → String
  | add => "+" | sub => "-" | mul => "*" | div => "/" | rem => "%"
  | and => "&&" | or => "||"
  | bitAnd => "&" | bitOr => "|" | bitXor => "^" | shl => "<<" | shr => ">>"
  | eq => "==" | ne => "!=" | lt => "<" | le => "<=" | gt => ">" | ge => ">="

/-- How tightly a binary operator binds: a larger number binds tighter.  All of
them are left-associative. -/
def Binary.precedence : Binary → Nat
  | mul | div | rem => 10
  | add | sub => 9
  | shl | shr => 8
  | lt | le | gt | ge => 7
  | eq | ne => 6
  | bitAnd => 5
  | bitXor => 4
  | bitOr => 3
  | and => 2
  | or => 1

/-- The spelling of a unary operator. -/
def Unary.symbol : Unary → String
  | neg => "-" | not => "!" | bitNot => "~"
  | preIncrement | postIncrement => "++"
  | preDecrement | postDecrement => "--"

/-- Whether a unary operator stands behind its operand. -/
def Unary.isPostfix : Unary → Bool
  | postIncrement | postDecrement => true
  | _ => false

/-- The keyword in front of a parameter, if it has one. -/
def Passing.keyword? : Passing → Option String
  | byValue => none
  | input => some "in"
  | output => some "out"
  | reference => some "ref"
  | inout => some "inout"

/-- The name of an expression's form. -/
def Expr.form : Expr → String
  | .literal (.string _) => "string literal"
  | .literal .null => "null literal"
  | .literal _ => "literal"
  | .ident _ => "identifier"
  | .member .. => "member access"
  | .call .. => "invocation"
  | .index .. => "element access"
  | .cast .. => "cast"
  | .creationWith .. => "object initializer"
  | .creation .. => "object creation"
  | .defaultOf _ => "default expression"
  | .unary .. => "unary expression"
  | .binary .. => "binary expression"
  | .assign .. => "assignment"
  | .conditional .. => "conditional expression"
  | .paren _ => "parenthesized expression"
  | .lambda .. => "lambda expression"

end ShaderLowering
