import ShaderLowering.Tree.Path

/-!
# Building trees

Short ways to write the trees that carry no position.

## Main definitions

* `Expr.access`, `Expr.zero`, ... — expressions.
* `Declaration.single`, `Declaration.implicit` — declarations of one name.
* `Parameter.plain`, `Method.empty` — declarations to be filled in.
-/

namespace ShaderLowering

namespace Expr

/-- An integer literal. -/
def int (value : Int64) : Expr :=
  .literal (.int value)

/-- A 32-bit float literal, given by its word. -/
def float (bits : UInt32) : Expr :=
  .literal (.float bits)

/-- A member access without a position. -/
def access (target : Expr) (name : String) : Expr :=
  .member target name .unknown

/-- A plain assignment. -/
def set (target : Expr) (value : Expr) : Expr :=
  .assign none target value

/-- The cast of the literal zero: the zero of any numeric or vector type. -/
def zero (type : TypeName) : Expr :=
  .cast type (int 0)

end Expr

namespace Declaration

/-- The declaration of one name. -/
def single (type : TypeName) (name : String) (init : Option Expr) : Declaration :=
  ⟨some type, [⟨name, init⟩]⟩

/-- The declaration of one name whose type is left to its initialiser. -/
def implicit (name : String) (init : Expr) : Declaration :=
  ⟨none, [⟨name, some init⟩]⟩

end Declaration

/-- A parameter passed by value, without attributes. -/
def Parameter.plain (type : TypeName) (name : String) : Parameter :=
  ⟨[], .byValue, type, name⟩

/-- A parameter with one more attribute, which has no arguments. -/
def Parameter.tagged (p : Parameter) (tag : String) : Parameter :=
  { p with attributes := p.attributes ++ [⟨tag, []⟩] }

/-- A method without attributes, parameters or statements. -/
def Method.empty (returnType : TypeName) (name : String) : Method :=
  ⟨[], returnType, name, [], []⟩

/-- A method with one more parameter. -/
def Method.withParameter (m : Method) (p : Parameter) : Method :=
  { m with parameters := m.parameters ++ [p] }

end ShaderLowering
