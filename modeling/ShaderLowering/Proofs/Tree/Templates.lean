import ShaderLowering.Tree.Build
import ShaderLowering.Tree.Fragment

/-!
# Templates

A `Template` is a tree with its literals taken out: a list of them, and what becomes of
the tree when a list of expressions is filled in.  Templates are put together like the
trees, child after child, which is what `Applicative` is for.

The order of the literals is that of the text, except that the fields of an object
initialiser come before the arguments of its construction.  The arguments of a method's
own attributes are not taken out.

## Main definitions

* `Template` — a tree with its literals taken out.
* `Expr.template`, `Stmt.template`, `Method.template`, `Fragment.template` — the
  template of a tree.
* `Refills` — filling a template undoes taking the literals out.

## Main statements

* `Fragment.refills` — so it is for every fragment.
-/

namespace ShaderLowering

/-! ## Templates -/

/-- A tree with its literals taken out: the literals, and the tree that has expressions
in their places. -/
@[ext]
structure Template (α : Type) where
  literals : List Literal
  fill : List Expr → α

/-- Templates of children side by side are filled from one list, the first child first. -/
instance : Applicative Template where
  pure a := ⟨[], fun _ => a⟩
  map g t := ⟨t.literals, fun es => g (t.fill es)⟩
  seq t u :=
    { literals := t.literals ++ (u ()).literals
      fill := fun es =>
        t.fill (es.take t.literals.length) ((u ()).fill (es.drop t.literals.length)) }

namespace Template

variable {α β : Type}

theorem literals_map (g : α → β) (t : Template α) : (g <$> t).literals = t.literals := rfl

theorem fill_map (g : α → β) (t : Template α) (es : List Expr) :
    (g <$> t).fill es = g (t.fill es) := rfl

theorem literals_seq (t : Template (α → β)) (u : Template α) :
    (t <*> u).literals = t.literals ++ u.literals := rfl

theorem fill_seq (t : Template (α → β)) (u : Template α) (es : List Expr) :
    (t <*> u).fill es
      = t.fill (es.take t.literals.length) (u.fill (es.drop t.literals.length)) := rfl

end Template

namespace Expr

mutual

/-- The template of an expression. -/
def template : Expr → Template Expr
  | .literal value => ⟨[value], fun es => es.headD (.literal .null)⟩
  | .ident name => pure (.ident name)
  | .member target name span => (.member · name span) <$> target.template
  | .call callee args => .call <$> callee.template <*> templates args
  | .index target position => .index <$> target.template <*> position.template
  | .cast type operand => .cast type <$> operand.template
  | .creation type args => .creation type <$> templates args
  | .creationWith type args fields =>
    (fun fields args => .creationWith type args fields)
      <$> fieldTemplates fields <*> templates args
  | .defaultOf type => pure (.defaultOf type)
  | .unary op operand => .unary op <$> operand.template
  | .binary op lhs rhs => .binary op <$> lhs.template <*> rhs.template
  | .assign op target value => .assign op <$> target.template <*> value.template
  | .conditional cond onTrue onFalse =>
    .conditional <$> cond.template <*> onTrue.template <*> onFalse.template
  | .paren inner => .paren <$> inner.template
  | .lambda params body => .lambda params <$> body.template
termination_by structural e => e

/-- The template of several expressions. -/
def templates : List Expr → Template (List Expr)
  | [] => pure []
  | e :: es => List.cons <$> e.template <*> templates es
termination_by structural es => es

/-- The template of the fields of an object initialiser. -/
def fieldTemplates : List (String × Expr) → Template (List (String × Expr))
  | [] => pure []
  | (name, value) :: fields =>
    (fun value fields => (name, value) :: fields) <$> value.template <*> fieldTemplates fields
termination_by structural fields => fields

end

/-- The template of an expression that may be missing. -/
def optionTemplate : Option Expr → Template (Option Expr)
  | none => pure none
  | some e => some <$> e.template

end Expr

/-- The template of a declarator. -/
def Declarator.template (d : Declarator) : Template Declarator :=
  Declarator.mk d.name <$> Expr.optionTemplate d.init

/-- The template of several declarators. -/
def Declarator.templates : List Declarator → Template (List Declarator)
  | [] => pure []
  | d :: ds => List.cons <$> d.template <*> templates ds

/-- The template of a local declaration. -/
def Declaration.template (d : Declaration) : Template Declaration :=
  Declaration.mk d.type <$> Declarator.templates d.declarators

namespace Stmt

mutual

/-- The template of a statement. -/
def template : Stmt → Template Stmt
  | .declare d => .declare <$> d.template
  | .expr value => .expr <$> value.template
  | .ret value => .ret <$> Expr.optionTemplate value
  | .branch cond onTrue onFalse =>
    .branch <$> cond.template <*> templates onTrue <*> elseTemplate onFalse
  | .forLoop init cond step body =>
    .forLoop <$> initTemplate init <*> Expr.optionTemplate cond <*> Expr.templates step
      <*> templates body
  | .whileLoop cond body => .whileLoop <$> cond.template <*> templates body
  | .foreachLoop type name collection body =>
    .foreachLoop type name <$> collection.template <*> templates body
  | .block body => .block <$> templates body
  | .breakLoop => pure .breakLoop
  | .continueLoop => pure .continueLoop
termination_by structural s => s

/-- The template of several statements. -/
def templates : List Stmt → Template (List Stmt)
  | [] => pure []
  | s :: rest => List.cons <$> s.template <*> templates rest
termination_by structural b => b

/-- The template of the block behind `else`, if there is one. -/
def elseTemplate : Option (List Stmt) → Template (Option (List Stmt))
  | none => pure none
  | some body => some <$> templates body
termination_by structural b => b

/-- The template of the first part of a `for` header, if there is one. -/
def initTemplate : Option Stmt → Template (Option Stmt)
  | none => pure none
  | some init => some <$> init.template
termination_by structural init => init

end

end Stmt

/-- The template of several attributes. -/
def Attribute.templates : List Attribute → Template (List Attribute)
  | [] => pure []
  | a :: rest =>
    (fun arguments rest => ⟨a.name, arguments⟩ :: rest)
      <$> Expr.templates a.arguments <*> templates rest

/-- The template of a parameter. -/
def Parameter.template (p : Parameter) : Template Parameter :=
  (fun attributes => { p with attributes := attributes }) <$> Attribute.templates p.attributes

/-- The template of several parameters. -/
def Parameter.templates : List Parameter → Template (List Parameter)
  | [] => pure []
  | p :: ps => List.cons <$> p.template <*> templates ps

/-- The template of a method. -/
def Method.template (method : Method) : Template Method :=
  (fun parameters body => { method with parameters := parameters, body := body })
    <$> Parameter.templates method.parameters <*> Stmt.templates method.body

/-- The template of a fragment. -/
def Fragment.template : Fragment → Template Fragment
  | method x => .method <$> x.template
  | parameter x => .parameter <$> x.template
  | block x => .block <$> Stmt.templates x
  | declaration x => .declaration <$> x.template
  | stmt x => .stmt <$> x.template
  | expr x => .expr <$> x.template

-- The fields of an initialiser come first, and the arguments of an attribute where it
-- stands.
example :
    (Method.mk [⟨"Numthreads", [.int 8]⟩] (.named "void") "Run"
      [⟨[⟨"Range", [.int 1]⟩], .byValue, .named "int", "n"⟩]
      [.expr (.creationWith (.named "Point") [.int 3] [("X", .int 2)])]).template.literals
      = [.int 1, .int 2, .int 3] := rfl

/-! ## Filling in literals -/

variable {α β γ δ ε : Type}

/-- Whether filling in literals undoes taking them out: a tree's template filled with
its own literals is the tree, and filled with others, as many, it is a tree with these
literals and otherwise the same template. -/
structure Refills (template : α → Template α) (a : α) : Prop where
  restores : (template a).fill ((template a).literals.map .literal) = a
  keeps : ∀ ls, ls.length = (template a).literals.length →
    template ((template a).fill (ls.map .literal)) = ⟨ls, (template a).fill⟩

namespace Refills

theorem of_pure {template : α → Template α} {a : α} (leaf : template a = pure a) :
    Refills template a where
  restores := by rw [leaf]; rfl
  keeps ls length_eq := by
    rw [leaf] at length_eq ⊢
    obtain rfl := List.eq_nil_of_length_eq_zero length_eq
    exact leaf

theorem of_literal (l : Literal) : Refills Expr.template (.literal l) where
  restores := rfl
  keeps ls length_eq := by
    obtain ⟨new, rfl⟩ := List.length_eq_one_iff.1 length_eq
    rfl

/-- A node refills if its only child does. -/
theorem map {template : α → Template α} {template' : β → Template β} {a : α} {b : β}
    (child : Refills template a) (g : α → β) (node : ∀ a, template' (g a) = g <$> template a)
    (built : g a = b) : Refills template' b where
  restores := by
    rw [← built, node]
    exact congrArg g child.restores
  keeps ls length_eq := by
    rw [← built, node] at length_eq ⊢
    change template' (g ((template a).fill (ls.map .literal))) = _
    rw [node, child.keeps ls length_eq]
    rfl

/-- Children side by side refill together. -/
theorem pair {template : α → Template α} {template' : β → Template β} {a : α} {b : β}
    (first : Refills template a) (second : Refills template' b) :
    Refills (fun p => Prod.mk <$> template p.1 <*> template' p.2) (a, b) where
  restores := by
    simp only [Template.literals_seq, Template.literals_map, Template.fill_seq,
      Template.fill_map, List.map_append]
    have front : ((template a).literals.map Expr.literal).length = (template a).literals.length :=
      List.length_map _
    rw [← front, List.take_left, List.drop_left, first.restores, second.restores]
  keeps ls length_eq := by
    simp only [Template.literals_seq, Template.literals_map, List.length_append] at length_eq
    have front : (ls.take (template a).literals.length).length
        = (template a).literals.length := by
      rw [List.length_take]
      omega
    have back : (ls.drop (template a).literals.length).length
        = (template' b).literals.length := by
      rw [List.length_drop]
      omega
    simp only [Template.fill_seq, Template.fill_map, Template.literals_map, ← List.map_take,
      ← List.map_drop, first.keeps _ front, second.keeps _ back]
    apply Template.ext
    · exact List.take_append_drop _ ls
    · funext es
      simp only [Template.fill_seq, Template.fill_map, Template.literals_map, front]

variable {templateA : α → Template α} {templateB : β → Template β} {templateC : γ → Template γ}
  {templateD : δ → Template δ} {template : ε → Template ε} {a : α} {b : β} {c : γ} {d : δ} {e : ε}

/-- A node refills if its two children do. -/
theorem map₂ (g : α → β → ε) (first : Refills templateA a) (second : Refills templateB b)
    (node : ∀ a b, template (g a b) = g <$> templateA a <*> templateB b) (built : g a b = e) :
    Refills template e :=
  (first.pair second).map (fun (a, b) => g a b) (fun (a, b) => node a b) built

/-- A node refills if its three children do. -/
theorem map₃ (g : α → β → γ → ε) (first : Refills templateA a) (second : Refills templateB b)
    (third : Refills templateC c)
    (node : ∀ a b c, template (g a b c) = g <$> templateA a <*> templateB b <*> templateC c)
    (built : g a b c = e) : Refills template e :=
  .map₂ (fun (a, b) c => g a b c) (first.pair second) third (fun (a, b) c => node a b c) built

/-- A node refills if its four children do. -/
theorem map₄ (g : α → β → γ → δ → ε) (first : Refills templateA a)
    (second : Refills templateB b) (third : Refills templateC c) (fourth : Refills templateD d)
    (node : ∀ a b c d,
      template (g a b c d) = g <$> templateA a <*> templateB b <*> templateC c <*> templateD d)
    (built : g a b c d = e) : Refills template e :=
  .map₃ (fun (a, b) c d => g a b c d) (first.pair second) third fourth
    (fun (a, b) c d => node a b c d) built

end Refills

namespace Expr

mutual

theorem refills : ∀ e : Expr, Refills template e
  | .literal _ => .of_literal _
  | .ident _ => .of_pure rfl
  | .member _ name span => (refills _).map (.member · name span) (fun _ => rfl) rfl
  | .call _ _ => .map₂ .call (refills _) (refills_all _) (fun _ _ => rfl) rfl
  | .index _ _ => .map₂ .index (refills _) (refills _) (fun _ _ => rfl) rfl
  | .cast type _ => (refills _).map (.cast type) (fun _ => rfl) rfl
  | .creation type _ => (refills_all _).map (.creation type) (fun _ => rfl) rfl
  | .creationWith type _ _ =>
    .map₂ (fun fields args => .creationWith type args fields) (refills_fields _) (refills_all _)
      (fun _ _ => rfl) rfl
  | .defaultOf _ => .of_pure rfl
  | .unary op _ => (refills _).map (.unary op) (fun _ => rfl) rfl
  | .binary op _ _ => .map₂ (.binary op) (refills _) (refills _) (fun _ _ => rfl) rfl
  | .assign op _ _ => .map₂ (.assign op) (refills _) (refills _) (fun _ _ => rfl) rfl
  | .conditional _ _ _ =>
    .map₃ .conditional (refills _) (refills _) (refills _) (fun _ _ _ => rfl) rfl
  | .paren _ => (refills _).map .paren (fun _ => rfl) rfl
  | .lambda params _ => (refills _).map (.lambda params) (fun _ => rfl) rfl
termination_by structural e => e

theorem refills_all : ∀ es : List Expr, Refills templates es
  | [] => .of_pure rfl
  | _ :: _ => .map₂ List.cons (refills _) (refills_all _) (fun _ _ => rfl) rfl
termination_by structural es => es

theorem refills_fields : ∀ fields : List (String × Expr), Refills fieldTemplates fields
  | [] => .of_pure rfl
  | (name, _) :: _ =>
    .map₂ (fun value fields => (name, value) :: fields) (refills _) (refills_fields _)
      (fun _ _ => rfl) rfl
termination_by structural fields => fields

end

theorem refills_option (e : Option Expr) : Refills optionTemplate e := by
  cases e with
  | none => exact .of_pure rfl
  | some e => exact e.refills.map some (fun _ => rfl) rfl

end Expr

theorem Declarator.refills_all (ds : List Declarator) : Refills Declarator.templates ds := by
  induction ds with
  | nil => exact .of_pure rfl
  | cons d ds ih =>
    have first : Refills Declarator.template d :=
      (Expr.refills_option d.init).map (Declarator.mk d.name) (fun _ => rfl) rfl
    exact .map₂ List.cons first ih (fun _ _ => rfl) rfl

theorem Declaration.refills (d : Declaration) : Refills Declaration.template d :=
  (Declarator.refills_all d.declarators).map (Declaration.mk d.type) (fun _ => rfl) rfl

namespace Stmt

mutual

theorem refills : ∀ s : Stmt, Refills template s
  | .declare d => d.refills.map .declare (fun _ => rfl) rfl
  | .expr value => value.refills.map .expr (fun _ => rfl) rfl
  | .ret value => (Expr.refills_option value).map .ret (fun _ => rfl) rfl
  | .branch cond _ _ =>
    .map₃ .branch cond.refills (refills_all _) (refills_else _) (fun _ _ _ => rfl) rfl
  | .forLoop _ cond step _ =>
    .map₄ .forLoop (refills_init _) (Expr.refills_option cond) (Expr.refills_all step)
      (refills_all _) (fun _ _ _ _ => rfl) rfl
  | .whileLoop cond _ => .map₂ .whileLoop cond.refills (refills_all _) (fun _ _ => rfl) rfl
  | .foreachLoop type name collection _ =>
    .map₂ (.foreachLoop type name) collection.refills (refills_all _) (fun _ _ => rfl) rfl
  | .block _ => (refills_all _).map .block (fun _ => rfl) rfl
  | .breakLoop => .of_pure rfl
  | .continueLoop => .of_pure rfl
termination_by structural s => s

theorem refills_all : ∀ b : List Stmt, Refills templates b
  | [] => .of_pure rfl
  | _ :: _ => .map₂ List.cons (refills _) (refills_all _) (fun _ _ => rfl) rfl
termination_by structural b => b

theorem refills_else : ∀ b : Option (List Stmt), Refills elseTemplate b
  | none => .of_pure rfl
  | some _ => (refills_all _).map some (fun _ => rfl) rfl
termination_by structural b => b

theorem refills_init : ∀ init : Option Stmt, Refills initTemplate init
  | none => .of_pure rfl
  | some _ => (refills _).map some (fun _ => rfl) rfl
termination_by structural init => init

end

end Stmt

theorem Attribute.refills_all (attributes : List Attribute) :
    Refills Attribute.templates attributes := by
  induction attributes with
  | nil => exact .of_pure rfl
  | cons a rest ih =>
    exact .map₂ (fun arguments rest => ⟨a.name, arguments⟩ :: rest)
      (Expr.refills_all a.arguments) ih (fun _ _ => rfl) rfl

theorem Parameter.refills (p : Parameter) : Refills Parameter.template p :=
  (Attribute.refills_all p.attributes).map (fun attributes => { p with attributes := attributes })
    (fun _ => rfl) rfl

theorem Parameter.refills_all (ps : List Parameter) : Refills Parameter.templates ps := by
  induction ps with
  | nil => exact .of_pure rfl
  | cons p ps ih => exact .map₂ List.cons p.refills ih (fun _ _ => rfl) rfl

theorem Method.refills (method : Method) : Refills Method.template method :=
  .map₂ (fun parameters body => { method with parameters := parameters, body := body })
    (Parameter.refills_all method.parameters) (Stmt.refills_all method.body)
    (fun _ _ => rfl) rfl

/-- **Taking literals out can be undone**, with the same literals or with others. -/
theorem Fragment.refills (f : Fragment) : Refills Fragment.template f := by
  cases f with
  | method x => exact x.refills.map .method (fun _ => rfl) rfl
  | parameter x => exact x.refills.map .parameter (fun _ => rfl) rfl
  | block x => exact (Stmt.refills_all x).map .block (fun _ => rfl) rfl
  | declaration x => exact x.refills.map .declaration (fun _ => rfl) rfl
  | stmt x => exact x.refills.map .stmt (fun _ => rfl) rfl
  | expr x => exact x.refills.map .expr (fun _ => rfl) rfl

end ShaderLowering
