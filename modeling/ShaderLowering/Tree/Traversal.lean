import ShaderLowering.Tree.Basic

/-!
# Traversing a tree

A `Visitor` says what happens at each kind of node; `Expr.visit`, `Stmt.visit`
and `Method.visit` walk a tree with it and give a tree back.  Each entry of a
visitor is handed the node and the visit of the node's children as an action,
which it runs when, and if, it wants to: what it does before the action happens
on the way down, what it does behind it on the way up.

Children are visited in the order in which they are written, with two
exceptions: the fields of an object initialiser come before the arguments of its
construction, and the attributes of a method are not visited at all.

## Main definitions

* `Visitor` — one entry for each kind of node.
* `Visitor.rebuild` — visits everything and gives the same tree back.
* `Expr.visit`, `Stmt.visit`, `Block.visit`, `Declaration.visit`,
  `Parameter.visit`, `Method.visit` — the walk.
-/

namespace ShaderLowering

/-- What happens at each kind of node.  The last argument of an entry visits the
children. -/
structure Visitor (m : Type → Type) where
  method : Method → m Method → m Method
  parameter : Parameter → m Parameter → m Parameter
  block : Block → m Block → m Block
  stmt : Stmt → m Stmt → m Stmt
  declaration : Declaration → m Declaration → m Declaration
  declarator : Declarator → m Declarator → m Declarator
  expr : Expr → m Expr → m Expr
  /-- Below `expr`: a member access, with the visit of its target. -/
  access : Access → m Expr → m Expr
  /-- Below `expr`: a cast, with the visit of its operand. -/
  cast : TypeName → Expr → m Expr → m Expr
  /-- Below `expr`: a construction, with the visit of its arguments. -/
  creation : TypeName → List Expr → m (List Expr) → m Expr
  /-- Below `expr`: a construction with an object initialiser, with the visit of
  its fields and then its arguments. -/
  creationWith : TypeName → List Expr → List (String × Expr) →
    m (List (String × Expr) × List Expr) → m Expr
  /-- Below `expr`: the default value of a type. -/
  defaultOf : TypeName → m Expr

/-- The visitor that visits every child and changes nothing. -/
def Visitor.rebuild (m : Type → Type) [Monad m] : Visitor m where
  method _ children := children
  parameter _ children := children
  block _ children := children
  stmt _ children := children
  declaration _ children := children
  declarator _ children := children
  expr _ children := children
  access a children := do
    let target ← children
    pure (.member target a.name a.span)
  cast type _ children := do
    let operand ← children
    pure (.cast type operand)
  creation type _ children := do
    let args ← children
    pure (.creation type args)
  creationWith type _ _ children := do
    let (fields, args) ← children
    pure (.creationWith type args fields)
  defaultOf type := pure (.defaultOf type)

variable {m : Type → Type} [Monad m]

/-! ## Expressions -/

namespace Expr

mutual

/-- Walks an expression. -/
def visit (v : Visitor m) : Expr → m Expr
  | .literal value => v.expr (.literal value) (pure (.literal value))
  | .ident name => v.expr (.ident name) (pure (.ident name))
  | .member target name span =>
    v.expr (.member target name span) (v.access ⟨target, name, span⟩ (target.visit v))
  | .call callee args =>
    v.expr (.call callee args) (do
      let callee ← callee.visit v
      let args ← visitAll v args
      pure (.call callee args))
  | .index target position =>
    v.expr (.index target position) (do
      let target ← target.visit v
      let position ← position.visit v
      pure (.index target position))
  | .cast type operand =>
    v.expr (.cast type operand) (v.cast type operand (operand.visit v))
  | .creation type args =>
    v.expr (.creation type args) (v.creation type args (visitAll v args))
  | .creationWith type args fields =>
    v.expr (.creationWith type args fields) (v.creationWith type args fields (do
      let fields ← visitFields v fields
      let args ← visitAll v args
      pure (fields, args)))
  | .defaultOf type => v.expr (.defaultOf type) (v.defaultOf type)
  | .unary op operand =>
    v.expr (.unary op operand) (do
      let operand ← operand.visit v
      pure (.unary op operand))
  | .binary op lhs rhs =>
    v.expr (.binary op lhs rhs) (do
      let lhs ← lhs.visit v
      let rhs ← rhs.visit v
      pure (.binary op lhs rhs))
  | .assign op target value =>
    v.expr (.assign op target value) (do
      let target ← target.visit v
      let value ← value.visit v
      pure (.assign op target value))
  | .conditional cond onTrue onFalse =>
    v.expr (.conditional cond onTrue onFalse) (do
      let cond ← cond.visit v
      let onTrue ← onTrue.visit v
      let onFalse ← onFalse.visit v
      pure (.conditional cond onTrue onFalse))
  | .paren inner =>
    v.expr (.paren inner) (do
      let inner ← inner.visit v
      pure (.paren inner))
  | .lambda params body =>
    v.expr (.lambda params body) (do
      let body ← body.visit v
      pure (.lambda params body))
termination_by structural e => e

/-- Walks several expressions, first to last. -/
def visitAll (v : Visitor m) : List Expr → m (List Expr)
  | [] => pure []
  | e :: es => do
    let e ← e.visit v
    let es ← visitAll v es
    pure (e :: es)
termination_by structural es => es

/-- Walks the values of an object initialiser, first to last. -/
def visitFields (v : Visitor m) : List (String × Expr) → m (List (String × Expr))
  | [] => pure []
  | (name, value) :: fields => do
    let value ← value.visit v
    let fields ← visitFields v fields
    pure ((name, value) :: fields)
termination_by structural fields => fields

end

/-- Walks an expression that may be missing. -/
def visitOption (v : Visitor m) : Option Expr → m (Option Expr)
  | none => pure none
  | some e => do
    let e ← e.visit v
    pure (some e)

end Expr

/-! ## Declarations of locals -/

/-- Walks a declarator. -/
def Declarator.visit (v : Visitor m) (d : Declarator) : m Declarator :=
  v.declarator d (do
    let init ← Expr.visitOption v d.init
    pure ⟨d.name, init⟩)

/-- Walks several declarators, first to last. -/
def Declarator.visitAll (v : Visitor m) : List Declarator → m (List Declarator)
  | [] => pure []
  | d :: ds => do
    let d ← d.visit v
    let ds ← visitAll v ds
    pure (d :: ds)

/-- Walks a local declaration. -/
def Declaration.visit (v : Visitor m) (d : Declaration) : m Declaration :=
  v.declaration d (do
    let declarators ← Declarator.visitAll v d.declarators
    pure ⟨d.type, declarators⟩)

/-! ## Statements -/

mutual

/-- Walks a statement. -/
def Stmt.visit (v : Visitor m) : Stmt → m Stmt
  | .declare declaration =>
    v.stmt (.declare declaration) (do
      let declaration ← declaration.visit v
      pure (.declare declaration))
  | .expr value =>
    v.stmt (.expr value) (do
      let value ← value.visit v
      pure (.expr value))
  | .ret value =>
    v.stmt (.ret value) (do
      let value ← Expr.visitOption v value
      pure (.ret value))
  | .branch cond onTrue onFalse =>
    v.stmt (.branch cond onTrue onFalse) (do
      let cond ← cond.visit v
      let onTrue ← v.block onTrue (Stmt.visitAll v onTrue)
      let onFalse ← Stmt.visitElse v onFalse
      pure (.branch cond onTrue onFalse))
  | .forLoop init cond step body =>
    v.stmt (.forLoop init cond step body) (do
      let init ← Stmt.visitInit v init
      let cond ← Expr.visitOption v cond
      let step ← Expr.visitAll v step
      let body ← v.block body (Stmt.visitAll v body)
      pure (.forLoop init cond step body))
  | .whileLoop cond body =>
    v.stmt (.whileLoop cond body) (do
      let cond ← cond.visit v
      let body ← v.block body (Stmt.visitAll v body)
      pure (.whileLoop cond body))
  | .foreachLoop type name collection body =>
    v.stmt (.foreachLoop type name collection body) (do
      let collection ← collection.visit v
      let body ← v.block body (Stmt.visitAll v body)
      pure (.foreachLoop type name collection body))
  | .block body =>
    v.stmt (.block body) (do
      let body ← v.block body (Stmt.visitAll v body)
      pure (.block body))
  | .breakLoop => v.stmt .breakLoop (pure .breakLoop)
  | .continueLoop => v.stmt .continueLoop (pure .continueLoop)
termination_by structural s => s

/-- Walks several statements, first to last. -/
def Stmt.visitAll (v : Visitor m) : List Stmt → m (List Stmt)
  | [] => pure []
  | s :: rest => do
    let s ← s.visit v
    let rest ← Stmt.visitAll v rest
    pure (s :: rest)
termination_by structural stmts => stmts

/-- Walks the block behind `else`, if there is one. -/
def Stmt.visitElse (v : Visitor m) : Option (List Stmt) → m (Option (List Stmt))
  | none => pure none
  | some body => do
    let body ← v.block body (Stmt.visitAll v body)
    pure (some body)
termination_by structural b => b

/-- Walks the first part of a `for` header, if there is one. -/
def Stmt.visitInit (v : Visitor m) : Option Stmt → m (Option Stmt)
  | none => pure none
  | some init => do
    let init ← init.visit v
    pure (some init)
termination_by structural s => s

end

/-- Walks a block. -/
def Block.visit (v : Visitor m) (b : Block) : m Block :=
  v.block b (Stmt.visitAll v b)

/-! ## Methods -/

/-- Walks the arguments of several attributes. -/
def Attribute.visitAll (v : Visitor m) : List Attribute → m (List Attribute)
  | [] => pure []
  | a :: rest => do
    let arguments ← Expr.visitAll v a.arguments
    let rest ← visitAll v rest
    pure (⟨a.name, arguments⟩ :: rest)

/-- Walks a parameter. -/
def Parameter.visit (v : Visitor m) (p : Parameter) : m Parameter :=
  v.parameter p (do
    let attributes ← Attribute.visitAll v p.attributes
    pure { p with attributes := attributes })

/-- Walks several parameters, first to last. -/
def Parameter.visitAll (v : Visitor m) : List Parameter → m (List Parameter)
  | [] => pure []
  | p :: ps => do
    let p ← p.visit v
    let ps ← visitAll v ps
    pure (p :: ps)

/-- Walks a method: its parameters, then its body. -/
def Method.visit (v : Visitor m) (method : Method) : m Method :=
  v.method method (do
    let parameters ← Parameter.visitAll v method.parameters
    let body ← Block.visit v method.body
    pure { method with parameters := parameters, body := body })

end ShaderLowering
