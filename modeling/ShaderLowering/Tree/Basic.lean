/-!
# Method trees

The trees that this library rewrites and prints: a method with its parameters
and its body, down to literals.  One type serves the host method and the shader
method; the rewriting in `ShaderLowering.Lowering` only changes which forms
occur.

Floating-point literals are kept as the words that store them, so that two trees
are equal exactly when they are written alike, NaNs and zeros included.

## Main definitions

* `Span` — a position in the host source, or none.
* `TypeName` — a named type and the position where it is written.
* `Literal`, `Unary`, `Binary`, `Expr` — expressions.
* `Declaration`, `Stmt`, `Block` — statements.
* `Attribute`, `Passing`, `Parameter`, `Method` — declarations.
-/

namespace ShaderLowering

/-! ## Positions and types -/

/-- A position in the host source.  Lines are counted from one; line zero means
that the position is not known. -/
structure Span where
  line : UInt32
  column : UInt32
deriving DecidableEq, Repr, Inhabited

namespace Span

/-- The position of a node that stands nowhere in the source. -/
def unknown : Span := ⟨0, 0⟩

/-- Whether a position names a line. -/
def isKnown (s : Span) : Bool :=
  s.line != 0

/-- A position in words. -/
def text (s : Span) : String :=
  if s.isKnown then
    "line " ++ toString s.line.toNat ++ ", column " ++ toString s.column.toNat
  else "unknown location"

end Span

/-- A type referred to by name, and where it is written. -/
structure TypeName where
  name : String
  span : Span
deriving DecidableEq, Repr, Inhabited

/-- A type name that stands nowhere in the source. -/
def TypeName.named (name : String) : TypeName :=
  ⟨name, .unknown⟩

/-! ## Expressions -/

/-- A literal.  Floats are words of the binary interchange formats. -/
inductive Literal where
  | bool (value : Bool)
  | int (value : Int64)
  | uint (value : UInt64)
  | float (bits : UInt32)
  | double (bits : UInt64)
  | string (value : String)
  | null
deriving DecidableEq, Repr

/-- An operator with one operand. -/
inductive Unary where
  | neg | not | bitNot
  | preIncrement | preDecrement | postIncrement | postDecrement
deriving DecidableEq, Repr

/-- An operator between two operands. -/
inductive Binary where
  | add | sub | mul | div | rem
  | and | or | bitAnd | bitOr | bitXor | shl | shr
  | eq | ne | lt | le | gt | ge
deriving DecidableEq, Repr

/-- An expression.

A construction with an object initialiser, `creationWith`, is a form of its own:
an initialiser without fields is not the same as none. -/
inductive Expr where
  | literal (value : Literal)
  | ident (name : String)
  | member (target : Expr) (name : String) (span : Span)
  | call (callee : Expr) (args : List Expr)
  | index (target : Expr) (position : Expr)
  | cast (type : TypeName) (operand : Expr)
  | creation (type : TypeName) (args : List Expr)
  | creationWith (type : TypeName) (args : List Expr) (fields : List (String × Expr))
  | defaultOf (type : TypeName)
  | unary (op : Unary) (operand : Expr)
  | binary (op : Binary) (lhs : Expr) (rhs : Expr)
  /-- An assignment, plain when there is no operator and compound otherwise. -/
  | assign (op : Option Binary) (target : Expr) (value : Expr)
  | conditional (cond : Expr) (onTrue : Expr) (onFalse : Expr)
  | paren (inner : Expr)
  | lambda (params : List String) (body : Expr)
deriving Repr, Inhabited

/-- The parts of a member access `target.name`. -/
structure Access where
  target : Expr
  name : String
  span : Span
deriving Repr, Inhabited

/-- A member access as an expression. -/
def Access.toExpr (a : Access) : Expr :=
  .member a.target a.name a.span

/-! ## Statements -/

/-- One name of a local declaration, with its initialiser. -/
structure Declarator where
  name : String
  init : Option Expr
deriving Repr, Inhabited

/-- A declaration of local variables.  Without a type it is implicitly typed. -/
structure Declaration where
  type : Option TypeName
  declarators : List Declarator
deriving Repr, Inhabited

/-- A statement. -/
inductive Stmt where
  | declare (declaration : Declaration)
  | expr (value : Expr)
  | ret (value : Option Expr)
  | branch (cond : Expr) (onTrue : List Stmt) (onFalse : Option (List Stmt))
  | forLoop (init : Option Stmt) (cond : Option Expr) (step : List Expr) (body : List Stmt)
  | whileLoop (cond : Expr) (body : List Stmt)
  | foreachLoop (type : TypeName) (name : String) (collection : Expr) (body : List Stmt)
  | block (body : List Stmt)
  | breakLoop
  | continueLoop
deriving Repr, Inhabited

/-- The statements between two braces. -/
abbrev Block := List Stmt

/-! ## Declarations -/

/-- An attribute of a parameter or a method. -/
structure Attribute where
  name : String
  arguments : List Expr
deriving Repr, Inhabited

/-- How an argument is passed to a parameter. -/
inductive Passing where
  | byValue | input | output | reference | inout
deriving DecidableEq, Repr, Inhabited

/-- A parameter of a method. -/
structure Parameter where
  attributes : List Attribute
  passing : Passing
  type : TypeName
  name : String
deriving Repr, Inhabited

/-- A method: what is lowered as a whole. -/
structure Method where
  attributes : List Attribute
  returnType : TypeName
  name : String
  parameters : List Parameter
  body : Block
deriving Repr, Inhabited

end ShaderLowering
