import ShaderLowering.Tree.Fragment

/-!
# Related walks

Two walks over one tree, by two visitors and in two monads, are related when the
visitors are.  What "related" means for steps is left open, as long as pure steps are
related to themselves and sequencing respects it; what a visitor does at a node may
use the visits of the node's children only as steps that are related already.

## Main definitions

* `StepRelation` — a relation between steps that sequencing respects.
* `Visitor.Related` — two visitors do related things at each kind of node.

## Main statements

* `Expr.visit_related`, `Stmt.visit_related`, `Fragment.visit_related` — their walks
  are related.
-/

namespace ShaderLowering

variable {m n : Type → Type} [Monad m] [Monad n]

/-- A relation between the steps of two monads that sequencing respects. -/
structure StepRelation (m n : Type → Type) [Monad m] [Monad n] where
  Rel : ∀ {α : Type}, m α → n α → Prop
  pure : ∀ {α : Type} (a : α), Rel (Pure.pure a : m α) (Pure.pure a)
  bind : ∀ {α β : Type} {x : m α} {y : n α} {f : α → m β} {g : α → n β},
    Rel x y → (∀ a, Rel (f a) (g a)) → Rel (x >>= f) (y >>= g)

/-- Two visitors do related things at each node, if the visits of its children are
related. -/
structure Visitor.Related (R : StepRelation m n) (v : Visitor m) (w : Visitor n) : Prop where
  method : ∀ node {x y}, R.Rel x y → R.Rel (v.method node x) (w.method node y)
  parameter : ∀ node {x y}, R.Rel x y → R.Rel (v.parameter node x) (w.parameter node y)
  block : ∀ node {x y}, R.Rel x y → R.Rel (v.block node x) (w.block node y)
  stmt : ∀ node {x y}, R.Rel x y → R.Rel (v.stmt node x) (w.stmt node y)
  declaration : ∀ node {x y}, R.Rel x y → R.Rel (v.declaration node x) (w.declaration node y)
  declarator : ∀ node {x y}, R.Rel x y → R.Rel (v.declarator node x) (w.declarator node y)
  expr : ∀ node {x y}, R.Rel x y → R.Rel (v.expr node x) (w.expr node y)
  access : ∀ node {x y}, R.Rel x y → R.Rel (v.access node x) (w.access node y)
  cast : ∀ type operand {x y}, R.Rel x y →
    R.Rel (v.cast type operand x) (w.cast type operand y)
  creation : ∀ type args {x y}, R.Rel x y →
    R.Rel (v.creation type args x) (w.creation type args y)
  creationWith : ∀ type args fields {x y}, R.Rel x y →
    R.Rel (v.creationWith type args fields x) (w.creationWith type args fields y)
  defaultOf : ∀ type, R.Rel (v.defaultOf type) (w.defaultOf type)

variable {R : StepRelation m n} {v : Visitor m} {w : Visitor n}

/-- A result is put together behind related steps. -/
theorem StepRelation.result (R : StepRelation m n) {α β : Type} {x : m α} {y : n α}
    (h : R.Rel x y) (f : α → β) :
    R.Rel (x >>= fun a => Pure.pure (f a)) (y >>= fun a => Pure.pure (f a)) :=
  R.bind h fun a => R.pure (f a)

/-! ## Expressions -/

mutual

theorem Expr.visit_related (h : v.Related R w) : ∀ e : Expr, R.Rel (e.visit v) (e.visit w)
  | .literal _ => h.expr _ (R.pure _)
  | .ident _ => h.expr _ (R.pure _)
  | .member target _ _ => h.expr _ (h.access _ (visit_related h target))
  | .call callee args =>
    h.expr _ (R.bind (visit_related h callee) fun _ => R.result (visitAll_related h args) _)
  | .index target position =>
    h.expr _ (R.bind (visit_related h target) fun _ => R.result (visit_related h position) _)
  | .cast _ operand => h.expr _ (h.cast _ _ (visit_related h operand))
  | .creation _ args => h.expr _ (h.creation _ _ (visitAll_related h args))
  | .creationWith _ args fields =>
    h.expr _ (h.creationWith _ _ _ (R.bind (visitFields_related h fields) fun _ =>
      R.result (visitAll_related h args) _))
  | .defaultOf _ => h.expr _ (h.defaultOf _)
  | .unary _ operand => h.expr _ (R.result (visit_related h operand) _)
  | .binary _ lhs rhs =>
    h.expr _ (R.bind (visit_related h lhs) fun _ => R.result (visit_related h rhs) _)
  | .assign _ target value =>
    h.expr _ (R.bind (visit_related h target) fun _ => R.result (visit_related h value) _)
  | .conditional cond onTrue onFalse =>
    h.expr _ (R.bind (visit_related h cond) fun _ => R.bind (visit_related h onTrue) fun _ =>
      R.result (visit_related h onFalse) _)
  | .paren inner => h.expr _ (R.result (visit_related h inner) _)
  | .lambda _ body => h.expr _ (R.result (visit_related h body) _)
termination_by structural e => e

theorem Expr.visitAll_related (h : v.Related R w) : ∀ es : List Expr,
    R.Rel (Expr.visitAll v es) (Expr.visitAll w es)
  | [] => R.pure _
  | e :: es => R.bind (visit_related h e) fun _ => R.result (visitAll_related h es) _
termination_by structural es => es

theorem Expr.visitFields_related (h : v.Related R w) : ∀ fields : List (String × Expr),
    R.Rel (Expr.visitFields v fields) (Expr.visitFields w fields)
  | [] => R.pure _
  | (_, value) :: fields =>
    R.bind (visit_related h value) fun _ => R.result (visitFields_related h fields) _
termination_by structural fields => fields

end

theorem Expr.visitOption_related (h : v.Related R w) (e : Option Expr) :
    R.Rel (Expr.visitOption v e) (Expr.visitOption w e) := by
  cases e with
  | none => exact R.pure _
  | some e => exact R.result (e.visit_related h) _

/-! ## Statements -/

theorem Declarator.visitAll_related (h : v.Related R w) (ds : List Declarator) :
    R.Rel (Declarator.visitAll v ds) (Declarator.visitAll w ds) := by
  induction ds with
  | nil => exact R.pure _
  | cons d ds ih =>
    have first : R.Rel (d.visit v) (d.visit w) :=
      h.declarator _ (R.result (Expr.visitOption_related h d.init) _)
    exact R.bind first fun _ => R.result ih _

theorem Declaration.visit_related (h : v.Related R w) (d : Declaration) :
    R.Rel (d.visit v) (d.visit w) :=
  h.declaration _ (R.result (Declarator.visitAll_related h d.declarators) _)

mutual

theorem Stmt.visit_related (h : v.Related R w) : ∀ s : Stmt, R.Rel (s.visit v) (s.visit w)
  | .declare d => h.stmt _ (R.result (d.visit_related h) _)
  | .expr value => h.stmt _ (R.result (value.visit_related h) _)
  | .ret value => h.stmt _ (R.result (Expr.visitOption_related h value) _)
  | .branch cond onTrue onFalse =>
    h.stmt _ (R.bind (cond.visit_related h) fun _ =>
      R.bind (h.block _ (visitAll_related h onTrue)) fun _ =>
        R.result (visitElse_related h onFalse) _)
  | .forLoop init cond step body =>
    h.stmt _ (R.bind (visitInit_related h init) fun _ =>
      R.bind (Expr.visitOption_related h cond) fun _ =>
        R.bind (Expr.visitAll_related h step) fun _ =>
          R.result (h.block _ (visitAll_related h body)) _)
  | .whileLoop cond body =>
    h.stmt _ (R.bind (cond.visit_related h) fun _ =>
      R.result (h.block _ (visitAll_related h body)) _)
  | .foreachLoop _ _ collection body =>
    h.stmt _ (R.bind (collection.visit_related h) fun _ =>
      R.result (h.block _ (visitAll_related h body)) _)
  | .block body => h.stmt _ (R.result (h.block _ (visitAll_related h body)) _)
  | .breakLoop => h.stmt _ (R.pure _)
  | .continueLoop => h.stmt _ (R.pure _)
termination_by structural s => s

theorem Stmt.visitAll_related (h : v.Related R w) : ∀ b : List Stmt,
    R.Rel (Stmt.visitAll v b) (Stmt.visitAll w b)
  | [] => R.pure _
  | s :: rest => R.bind (visit_related h s) fun _ => R.result (visitAll_related h rest) _
termination_by structural b => b

theorem Stmt.visitElse_related (h : v.Related R w) : ∀ b : Option (List Stmt),
    R.Rel (Stmt.visitElse v b) (Stmt.visitElse w b)
  | none => R.pure _
  | some body => R.result (h.block _ (visitAll_related h body)) _
termination_by structural b => b

theorem Stmt.visitInit_related (h : v.Related R w) : ∀ init : Option Stmt,
    R.Rel (Stmt.visitInit v init) (Stmt.visitInit w init)
  | none => R.pure _
  | some init => R.result (visit_related h init) _
termination_by structural init => init

end

theorem Block.visit_related (h : v.Related R w) (b : Block) :
    R.Rel (Block.visit v b) (Block.visit w b) :=
  h.block _ (Stmt.visitAll_related h b)

/-! ## Methods -/

theorem Attribute.visitAll_related (h : v.Related R w) (attributes : List Attribute) :
    R.Rel (Attribute.visitAll v attributes) (Attribute.visitAll w attributes) := by
  induction attributes with
  | nil => exact R.pure _
  | cons a rest ih => exact R.bind (Expr.visitAll_related h a.arguments) fun _ => R.result ih _

theorem Parameter.visit_related (h : v.Related R w) (p : Parameter) :
    R.Rel (p.visit v) (p.visit w) :=
  h.parameter _ (R.result (Attribute.visitAll_related h p.attributes) _)

theorem Parameter.visitAll_related (h : v.Related R w) (ps : List Parameter) :
    R.Rel (Parameter.visitAll v ps) (Parameter.visitAll w ps) := by
  induction ps with
  | nil => exact R.pure _
  | cons p ps ih => exact R.bind (p.visit_related h) fun _ => R.result ih _

theorem Method.visit_related (h : v.Related R w) (method : Method) :
    R.Rel (method.visit v) (method.visit w) :=
  h.method _ (R.bind (Parameter.visitAll_related h method.parameters) fun _ =>
    R.result (Block.visit_related h method.body) _)

/-! ## Fragments -/

theorem StepRelation.map [LawfulMonad m] [LawfulMonad n] (R : StepRelation m n) {α β : Type}
    {x : m α} {y : n α} (h : R.Rel x y) (f : α → β) : R.Rel (f <$> x) (f <$> y) := by
  rw [map_eq_pure_bind, map_eq_pure_bind]
  exact R.result h f

theorem Fragment.visit_related [LawfulMonad m] [LawfulMonad n] (h : v.Related R w)
    (f : Fragment) : R.Rel (f.visit v) (f.visit w) := by
  cases f with
  | method x => exact R.map (x.visit_related h) _
  | parameter x => exact R.map (x.visit_related h) _
  | block x => exact R.map (Block.visit_related h x) _
  | declaration x => exact R.map (x.visit_related h) _
  | stmt x => exact R.map (x.visit_related h) _
  | expr x => exact R.map (x.visit_related h) _

end ShaderLowering
