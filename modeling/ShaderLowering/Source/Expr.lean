import ShaderLowering.Decimal.Notation
import ShaderLowering.Text.Quoted
import ShaderLowering.Tree.Operator

/-!
# Source text of expressions

How an expression is written on one line.  Operands of unary, postfix and cast
forms, and of binary operators, are put in parentheses when their own form would
otherwise come apart: an operand of a unary, postfix or cast form unless it
binds tighter than every binary operator, and a child of a binary operator when
it binds looser, or as tight on the right-hand side.

Forms that only the host language has keep their host spelling.

## Main definitions

* `Literal.source`, `Expr.source` — the text of a literal and of an expression.
* `Expr.needsParens`, `Expr.needsParensUnder` — when an operand is parenthesised.
-/

namespace ShaderLowering

/-- Texts with a comma and a space between them. -/
def commaSeparated (texts : List String) : String :=
  String.intercalate ", " texts

/-- A text in parentheses, or as it is. -/
def parenthesizedIf (parens : Bool) (text : String) : String :=
  if parens then "(" ++ text ++ ")" else text

/-- The text of a literal. -/
def Literal.source : Literal → String
  | .bool value => if value then "true" else "false"
  | .int value => toString value.toInt
  | .uint value => toString value.toNat ++ "u"
  | .float bits => Decimal.written32 bits ++ "f"
  | .double bits => Decimal.written64 bits ++ "L"
  | .string value => Text.quote value
  | .null => "null"

namespace Expr

/-- Whether an operand of a unary, postfix or cast form is parenthesised. -/
def needsParens : Expr → Bool
  | .binary .. | .assign .. | .conditional .. | .lambda .. => true
  | _ => false

/-- Whether a child of a binary operator is parenthesised: `right` says on which
side of the operator it stands. -/
def needsParensUnder (parent : Binary) (right : Bool) : Expr → Bool
  | .binary op .. =>
    op.precedence < parent.precedence || (right && op.precedence == parent.precedence)
  | .assign .. | .conditional .. | .lambda .. => true
  | _ => false

mutual

/-- The text of an expression. -/
def source : Expr → String
  | .literal value => value.source
  | .ident name => name
  | .member target name _ => parenthesizedIf target.needsParens target.source ++ "." ++ name
  | .call callee args =>
    parenthesizedIf callee.needsParens callee.source ++ "("
      ++ commaSeparated (sources args) ++ ")"
  | .index target position =>
    parenthesizedIf target.needsParens target.source ++ "[" ++ position.source ++ "]"
  | .cast type operand =>
    "(" ++ type.name ++ ")" ++ parenthesizedIf operand.needsParens operand.source
  | .creation type args => "new " ++ type.name ++ "(" ++ commaSeparated (sources args) ++ ")"
  | .creationWith type args fields =>
    "new " ++ type.name ++ "(" ++ commaSeparated (sources args) ++ ") \x7b "
      ++ commaSeparated (fieldSources fields) ++ " \x7d"
  | .defaultOf type => "default(" ++ type.name ++ ")"
  | .unary op operand =>
    if op.isPostfix then parenthesizedIf operand.needsParens operand.source ++ op.symbol
    else op.symbol ++ parenthesizedIf operand.needsParens operand.source
  | .binary op lhs rhs =>
    parenthesizedIf (lhs.needsParensUnder op false) lhs.source ++ " " ++ op.symbol ++ " "
      ++ parenthesizedIf (rhs.needsParensUnder op true) rhs.source
  | .assign op target value =>
    target.source ++ " " ++ (match op with | none => "" | some o => o.symbol) ++ "= "
      ++ value.source
  | .conditional cond onTrue onFalse =>
    cond.source ++ " ? " ++ onTrue.source ++ " : " ++ onFalse.source
  | .paren inner => "(" ++ inner.source ++ ")"
  | .lambda params body => "(" ++ commaSeparated params ++ ") => " ++ body.source
termination_by structural e => e

/-- The texts of several expressions. -/
def sources : List Expr → List String
  | [] => []
  | e :: es => e.source :: sources es
termination_by structural es => es

/-- The texts of the fields of an object initialiser. -/
def fieldSources : List (String × Expr) → List String
  | [] => []
  | (name, value) :: fields => (name ++ " = " ++ value.source) :: fieldSources fields
termination_by structural fields => fields

end

/-- Several expressions are written one by one. -/
theorem sources_eq_map (es : List Expr) : sources es = es.map source := by
  induction es with
  | nil => rfl
  | cons e es ih => simp [sources, ih]

end Expr

/-- Expressions with commas between them. -/
def Expr.listSource (es : List Expr) : String :=
  commaSeparated (es.map Expr.source)

end ShaderLowering
