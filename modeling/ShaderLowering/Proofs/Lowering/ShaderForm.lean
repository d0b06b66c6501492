import Mathlib.Data.List.Forall2
import ShaderLowering.Proofs.Lowering.Outcome
import ShaderLowering.Proofs.Names.MemberTable

/-!
# The form of lowered methods

What a method looks like behind lowering, when members are resolved by tables.
It is in shader form: nothing is left of the forms that only the host language
has.  And it is the lowered form of its own source: a tree with the same
statements, in which every type is the image of the type it stands for.

The tables matter, because whatever a resolver answers is put into the tree
unseen: a table answers with an identifier or with the access itself, whose
target is lowered already.

## Main definitions

* `Method.isShader` — only forms of the shader language occur.
* `Expr.LoweredTo`, `Stmt.LoweredTo`, `Method.LoweredTo` — what becomes of a form.

## Main statements

* `Method.isShader_of_loweredTo` — a lowered form is a shader form.
* `lower_isShader` — a method that can be lowered is lowered to such a form.
-/

namespace ShaderLowering

/-! ## Shader forms -/

mutual

/-- Whether an expression consists of forms of the shader language. -/
def Expr.isShader : Expr → Bool
  | .literal (.string _) | .literal .null => false
  | .literal _ | .ident _ => true
  | .member target _ _ => target.isShader
  | .call callee args => callee.isShader && Expr.allShader args
  | .index target position => target.isShader && position.isShader
  | .cast _ operand => operand.isShader
  | .creation .. | .creationWith .. | .defaultOf _ | .lambda .. => false
  | .unary _ operand => operand.isShader
  | .binary _ lhs rhs => lhs.isShader && rhs.isShader
  | .assign _ target value => target.isShader && value.isShader
  | .conditional cond onTrue onFalse => cond.isShader && onTrue.isShader && onFalse.isShader
  | .paren inner => inner.isShader
termination_by structural e => e

/-- Whether several expressions do. -/
def Expr.allShader : List Expr → Bool
  | [] => true
  | e :: es => e.isShader && Expr.allShader es
termination_by structural es => es

end

/-- Whether a local declaration has a type and initialisers in shader form. -/
def Declaration.isShader (d : Declaration) : Bool :=
  d.type.isSome && d.declarators.all fun d => d.init.all Expr.isShader

mutual

/-- Whether a statement consists of forms of the shader language. -/
def Stmt.isShader : Stmt → Bool
  | .declare declaration => declaration.isShader
  | .expr value => value.isShader
  | .ret value => value.all Expr.isShader
  | .branch cond onTrue onFalse =>
    cond.isShader && Stmt.allShader onTrue && Stmt.elseIsShader onFalse
  | .forLoop init cond step body =>
    Stmt.initIsShader init && cond.all Expr.isShader && Expr.allShader step && Stmt.allShader body
  | .whileLoop cond body => cond.isShader && Stmt.allShader body
  | .foreachLoop .. => false
  | .block body => Stmt.allShader body
  | .breakLoop | .continueLoop => true
termination_by structural s => s

/-- Whether several statements do. -/
def Stmt.allShader : List Stmt → Bool
  | [] => true
  | s :: rest => s.isShader && Stmt.allShader rest
termination_by structural b => b

/-- Whether the block behind `else` does. -/
def Stmt.elseIsShader : Option (List Stmt) → Bool
  | none => true
  | some body => Stmt.allShader body
termination_by structural b => b

/-- Whether the first part of a `for` header does. -/
def Stmt.initIsShader : Option Stmt → Bool
  | none => true
  | some init => init.isShader
termination_by structural init => init

end

/-- Whether a parameter has no attributes and is not a reference. -/
def Parameter.isShader (p : Parameter) : Bool :=
  p.attributes.isEmpty && p.passing != .reference

/-- Whether a method has no attributes, and parameters and statements in shader
form. -/
def Method.isShader (m : Method) : Bool :=
  m.attributes.isEmpty && m.parameters.all Parameter.isShader && Stmt.allShader m.body

/-! ## Lowered forms -/

section LoweredForms

variable (types : TypeMap)

/-- What becomes of an expression.  A member access keeps its target unless it is
resolved to an identifier as a whole. -/
inductive Expr.LoweredTo : Expr → Expr → Prop where
  | literal {value : Literal} (kept : (Expr.literal value).isShader) :
    LoweredTo (.literal value) (.literal value)
  | ident (name : String) : LoweredTo (.ident name) (.ident name)
  | resolved (target : Expr) (name : String) (span : Span) (replacement : String) :
    LoweredTo (.member target name span) (.ident replacement)
  | member {target target' : Expr} (name : String) (span : Span) (name' : String) :
    LoweredTo target target' → LoweredTo (.member target name span) (.member target' name' span)
  | call {callee callee' : Expr} {args args' : List Expr} :
    LoweredTo callee callee' → List.Forall₂ LoweredTo args args' →
      LoweredTo (.call callee args) (.call callee' args')
  | index {target target' position position' : Expr} :
    LoweredTo target target' → LoweredTo position position' →
      LoweredTo (.index target position) (.index target' position')
  | cast {type type' : TypeName} {operand operand' : Expr} :
    types.map type = .ok type' → LoweredTo operand operand' →
      LoweredTo (.cast type operand) (.cast type' operand')
  | construction {type type' : TypeName} {args args' : List Expr} :
    types.map type = .ok type' → args' ≠ [] → List.Forall₂ LoweredTo args args' →
      LoweredTo (.creation type args) (.call (.ident type'.name) args')
  | zeroOfCreation {type type' : TypeName} :
    types.map type = .ok type' → LoweredTo (.creation type []) (.zero type')
  | zeroOfDefault {type type' : TypeName} :
    types.map type = .ok type' → LoweredTo (.defaultOf type) (.zero type')
  | unary (op : Unary) {operand operand' : Expr} :
    LoweredTo operand operand' → LoweredTo (.unary op operand) (.unary op operand')
  | binary (op : Binary) {lhs lhs' rhs rhs' : Expr} :
    LoweredTo lhs lhs' → LoweredTo rhs rhs' → LoweredTo (.binary op lhs rhs) (.binary op lhs' rhs')
  | assign (op : Option Binary) {target target' value value' : Expr} :
    LoweredTo target target' → LoweredTo value value' →
      LoweredTo (.assign op target value) (.assign op target' value')
  | conditional {cond cond' onTrue onTrue' onFalse onFalse' : Expr} :
    LoweredTo cond cond' → LoweredTo onTrue onTrue' → LoweredTo onFalse onFalse' →
      LoweredTo (.conditional cond onTrue onFalse) (.conditional cond' onTrue' onFalse')
  | paren {inner inner' : Expr} :
    LoweredTo inner inner' → LoweredTo (.paren inner) (.paren inner')

/-- What becomes of a declarator. -/
structure Declarator.LoweredTo (d d' : Declarator) : Prop where
  name_eq : d'.name = d.name
  init : Option.Rel (Expr.LoweredTo types) d.init d'.init

/-- What becomes of a statement: the same statement, with its parts lowered. -/
inductive Stmt.LoweredTo : Stmt → Stmt → Prop where
  | declare {type type' : TypeName} {ds ds' : List Declarator} :
    types.map type = .ok type' → List.Forall₂ (Declarator.LoweredTo types) ds ds' →
      LoweredTo (.declare ⟨some type, ds⟩) (.declare ⟨some type', ds'⟩)
  | expr {value value' : Expr} : value.LoweredTo types value' →
    LoweredTo (.expr value) (.expr value')
  | ret {value value' : Option Expr} : Option.Rel (Expr.LoweredTo types) value value' →
    LoweredTo (.ret value) (.ret value')
  | branch {cond cond' : Expr} {onTrue onTrue' : List Stmt}
    {onFalse onFalse' : Option (List Stmt)} :
    cond.LoweredTo types cond' → List.Forall₂ LoweredTo onTrue onTrue' →
      Option.Rel (List.Forall₂ LoweredTo) onFalse onFalse' →
        LoweredTo (.branch cond onTrue onFalse) (.branch cond' onTrue' onFalse')
  | forLoop {init init' : Option Stmt} {cond cond' : Option Expr} {step step' : List Expr}
      {body body' : List Stmt} :
    Option.Rel LoweredTo init init' → Option.Rel (Expr.LoweredTo types) cond cond' →
      List.Forall₂ (Expr.LoweredTo types) step step' → List.Forall₂ LoweredTo body body' →
        LoweredTo (.forLoop init cond step body) (.forLoop init' cond' step' body')
  | whileLoop {cond cond' : Expr} {body body' : List Stmt} :
    cond.LoweredTo types cond' → List.Forall₂ LoweredTo body body' →
      LoweredTo (.whileLoop cond body) (.whileLoop cond' body')
  | block {body body' : List Stmt} :
    List.Forall₂ LoweredTo body body' → LoweredTo (.block body) (.block body')
  | breakLoop : LoweredTo .breakLoop .breakLoop
  | continueLoop : LoweredTo .continueLoop .continueLoop

/-- What becomes of a parameter. -/
structure Parameter.LoweredTo (p p' : Parameter) : Prop where
  attributes_eq : p'.attributes = []
  passing_eq : p'.passing = p.passing.lowered
  type : types.map p.type = .ok p'.type
  name_eq : p'.name = p.name

/-- What becomes of a method. -/
structure Method.LoweredTo (m m' : Method) : Prop where
  attributes_eq : m'.attributes = []
  returnType : types.map m.returnType = .ok m'.returnType
  name_eq : m'.name = m.name
  parameters : List.Forall₂ (Parameter.LoweredTo types) m.parameters m'.parameters
  body : List.Forall₂ (Stmt.LoweredTo types) m.body m'.body

end LoweredForms

/-! ## Lowered forms are shader forms -/

section IsShader

variable {types : TypeMap}

mutual

theorem Expr.isShader_of_loweredTo :
    ∀ (e : Expr) {e' : Expr}, e.LoweredTo types e' → e'.isShader = true
  | .literal _, _, .literal kept => kept
  | .ident _, _, .ident _ => rfl
  | .member _ _ _, _, .resolved .. => rfl
  | .member target _ _, _, .member _ _ _ ht => by
    simp only [Expr.isShader, Expr.isShader_of_loweredTo target ht]
  | .call callee args, _, .call hc ha => by
    simp only [Expr.isShader, Expr.isShader_of_loweredTo callee hc,
      Expr.allShader_of_loweredTo args ha, Bool.and_self]
  | .index target position, _, .index ht hp => by
    simp only [Expr.isShader, Expr.isShader_of_loweredTo target ht,
      Expr.isShader_of_loweredTo position hp, Bool.and_self]
  | .cast _ operand, _, .cast _ ho => by
    simp only [Expr.isShader, Expr.isShader_of_loweredTo operand ho]
  | .creation _ args, _, .construction _ _ ha => by
    simp only [Expr.isShader, Expr.allShader_of_loweredTo args ha, Bool.and_self]
  | .creation _ _, _, .zeroOfCreation _ => rfl
  | .defaultOf _, _, .zeroOfDefault _ => rfl
  | .unary _ operand, _, .unary _ ho => by
    simp only [Expr.isShader, Expr.isShader_of_loweredTo operand ho]
  | .binary _ lhs rhs, _, .binary _ hl hr => by
    simp only [Expr.isShader, Expr.isShader_of_loweredTo lhs hl,
      Expr.isShader_of_loweredTo rhs hr, Bool.and_self]
  | .assign _ target value, _, .assign _ ht hv => by
    simp only [Expr.isShader, Expr.isShader_of_loweredTo target ht,
      Expr.isShader_of_loweredTo value hv, Bool.and_self]
  | .conditional cond onTrue onFalse, _, .conditional hc ht hf => by
    simp only [Expr.isShader, Expr.isShader_of_loweredTo cond hc,
      Expr.isShader_of_loweredTo onTrue ht, Expr.isShader_of_loweredTo onFalse hf, Bool.and_self]
  | .paren inner, _, .paren hi => by
    simp only [Expr.isShader, Expr.isShader_of_loweredTo inner hi]
termination_by structural e => e

theorem Expr.allShader_of_loweredTo :
    ∀ (es : List Expr) {es' : List Expr}, List.Forall₂ (Expr.LoweredTo types) es es' →
      Expr.allShader es' = true
  | [], _, .nil => rfl
  | e :: es, _, .cons he hes => by
    simp only [Expr.allShader, Expr.isShader_of_loweredTo e he,
      Expr.allShader_of_loweredTo es hes, Bool.and_self]
termination_by structural es => es

end

theorem Expr.all_isShader_of_rel {e e' : Option Expr}
    (h : Option.Rel (Expr.LoweredTo types) e e') : e'.all Expr.isShader = true := by
  cases h with
  | none => rfl
  | some he => exact Expr.isShader_of_loweredTo _ he

theorem Declarator.all_isShader_of_forall₂ {ds ds' : List Declarator}
    (h : List.Forall₂ (Declarator.LoweredTo types) ds ds') :
    (ds'.all fun d => d.init.all Expr.isShader) = true := by
  induction h with
  | nil => rfl
  | cons hd _ ih =>
    rw [List.all_cons, ih, Expr.all_isShader_of_rel hd.init]
    rfl

mutual

theorem Stmt.isShader_of_loweredTo :
    ∀ (s : Stmt) {s' : Stmt}, s.LoweredTo types s' → s'.isShader = true
  | .declare _, _, .declare _ hd => by
    simp only [Stmt.isShader, Declaration.isShader, Option.isSome_some,
      Declarator.all_isShader_of_forall₂ hd, Bool.and_self]
  | .expr value, _, .expr hv => by
    simp only [Stmt.isShader, Expr.isShader_of_loweredTo value hv]
  | .ret _, _, .ret hv => by
    simp only [Stmt.isShader, Expr.all_isShader_of_rel hv]
  | .branch cond onTrue onFalse, _, .branch hc ht hf => by
    simp only [Stmt.isShader, Expr.isShader_of_loweredTo cond hc,
      Stmt.allShader_of_loweredTo onTrue ht, Stmt.elseIsShader_of_loweredTo onFalse hf,
      Bool.and_self]
  | .forLoop init _ step body, _, .forLoop hi hc hs hb => by
    simp only [Stmt.isShader, Stmt.initIsShader_of_loweredTo init hi, Expr.all_isShader_of_rel hc,
      Expr.allShader_of_loweredTo step hs, Stmt.allShader_of_loweredTo body hb, Bool.and_self]
  | .whileLoop cond body, _, .whileLoop hc hb => by
    simp only [Stmt.isShader, Expr.isShader_of_loweredTo cond hc,
      Stmt.allShader_of_loweredTo body hb, Bool.and_self]
  | .block body, _, .block hb => by
    simp only [Stmt.isShader, Stmt.allShader_of_loweredTo body hb]
  | .breakLoop, _, .breakLoop => rfl
  | .continueLoop, _, .continueLoop => rfl
termination_by structural s => s

theorem Stmt.allShader_of_loweredTo :
    ∀ (b : List Stmt) {b' : List Stmt}, List.Forall₂ (Stmt.LoweredTo types) b b' →
      Stmt.allShader b' = true
  | [], _, .nil => rfl
  | s :: rest, _, .cons hs hr => by
    simp only [Stmt.allShader, Stmt.isShader_of_loweredTo s hs, Stmt.allShader_of_loweredTo rest hr,
      Bool.and_self]
termination_by structural b => b

theorem Stmt.elseIsShader_of_loweredTo :
    ∀ (b : Option (List Stmt)) {b' : Option (List Stmt)},
      Option.Rel (List.Forall₂ (Stmt.LoweredTo types)) b b' → Stmt.elseIsShader b' = true
  | none, _, .none => rfl
  | some body, _, .some hb => by
    simp only [Stmt.elseIsShader, Stmt.allShader_of_loweredTo body hb]
termination_by structural b => b

theorem Stmt.initIsShader_of_loweredTo :
    ∀ (init : Option Stmt) {init' : Option Stmt}, Option.Rel (Stmt.LoweredTo types) init init' →
      Stmt.initIsShader init' = true
  | none, _, .none => rfl
  | some init, _, .some hi => by
    simp only [Stmt.initIsShader, Stmt.isShader_of_loweredTo init hi]
termination_by structural init => init

end

theorem Passing.lowered_ne_reference (passing : Passing) : passing.lowered ≠ .reference := by
  cases passing <;> decide

theorem Parameter.all_isShader_of_forall₂ {ps ps' : List Parameter}
    (h : List.Forall₂ (Parameter.LoweredTo types) ps ps') :
    ps'.all Parameter.isShader = true := by
  induction h with
  | nil => rfl
  | cons hp _ ih =>
    rw [List.all_cons, ih, Parameter.isShader, hp.attributes_eq, hp.passing_eq]
    simpa using Passing.lowered_ne_reference _

/-- A lowered method is in shader form. -/
theorem Method.isShader_of_loweredTo {m m' : Method} (h : m.LoweredTo types m') :
    m'.isShader = true := by
  simp only [Method.isShader, h.attributes_eq, List.isEmpty_nil,
    Parameter.all_isShader_of_forall₂ h.parameters, Stmt.allShader_of_loweredTo _ h.body,
    Bool.and_self]

end IsShader

/-! ## What lowering ensures -/

section Ensures

open LowerM

variable (t : MemberTable) (types : TypeMap) (capturePrefix : String)

/-- A table puts nothing into the tree that was not lowered before. -/
theorem ensures_resolve {target target' : Expr} (name : String) (span : Span)
    (ht : target.LoweredTo types target') :
    Ensures ((t.context types capturePrefix).resolve ⟨target', name, span⟩)
      ((Expr.member target name span).LoweredTo types) := by
  refine .resolve _ _ (fun _ _ _ => .resolved ..) fun visible replacement h => ?_
  rcases t.replacement_cases h with ⟨_, _, -, rfl⟩ | rfl
  · exact .resolved ..
  · exact .member _ _ _ ht

mutual

/-- Every expression that can be lowered becomes a lowered form of itself. -/
theorem ensures_expr : ∀ e : Expr,
    Ensures (e.visit (t.context types capturePrefix).rules) (e.LoweredTo types)
  | .literal (.string _) | .literal .null | .creationWith .. | .lambda .. => .refuse ..
  | .literal (.bool _) | .literal (.int _) | .literal (.uint _) | .literal (.float _)
  | .literal (.double _) => .pure (.literal rfl)
  | .ident name => .pure (.ident name)
  | .member target name span => by
    rw [visit_member]
    refine .skip fun _ => (ensures_expr target).bind fun target' ht => ?_
    exact ensures_resolve t types capturePrefix name span ht
  | .call callee args => by
    refine (ensures_expr callee).bind fun callee' hc => ?_
    exact (ensures_exprs args).bind fun args' ha => .pure (.call hc ha)
  | .index target position => by
    refine (ensures_expr target).bind fun target' ht => ?_
    exact (ensures_expr position).bind fun position' hp => .pure (.index ht hp)
  | .cast type operand => by
    rw [visit_cast]
    refine (ensures_expr operand).bind fun operand' ho => ?_
    exact (Ensures.mapType _ type).bind fun type' hm => .pure (.cast hm ho)
  | .creation type args => by
    rw [visit_creation]
    refine (ensures_exprs args).bind fun args' ha => ?_
    refine (Ensures.mapType _ type).bind fun type' hm => ?_
    cases ha with
    | nil => exact .pure (.zeroOfCreation hm)
    | cons he hes => exact .pure (.construction hm (List.cons_ne_nil _ _) (.cons he hes))
  | .defaultOf type => by
    rw [visit_defaultOf]
    exact (Ensures.mapType _ type).bind fun type' hm => .pure (.zeroOfDefault hm)
  | .unary op operand => (ensures_expr operand).bind fun _ ho => .pure (.unary op ho)
  | .binary op lhs rhs => by
    refine (ensures_expr lhs).bind fun lhs' hl => ?_
    exact (ensures_expr rhs).bind fun rhs' hr => .pure (.binary op hl hr)
  | .assign op target value => by
    refine (ensures_expr target).bind fun target' ht => ?_
    exact (ensures_expr value).bind fun value' hv => .pure (.assign op ht hv)
  | .conditional cond onTrue onFalse => by
    refine (ensures_expr cond).bind fun cond' hc => ?_
    refine (ensures_expr onTrue).bind fun onTrue' ht => ?_
    exact (ensures_expr onFalse).bind fun onFalse' hf => .pure (.conditional hc ht hf)
  | .paren inner => (ensures_expr inner).bind fun _ hi => .pure (.paren hi)
termination_by structural e => e

theorem ensures_exprs : ∀ es : List Expr,
    Ensures (Expr.visitAll (t.context types capturePrefix).rules es)
      (List.Forall₂ (Expr.LoweredTo types) es)
  | [] => .pure .nil
  | e :: es => by
    refine (ensures_expr e).bind fun e' he => ?_
    exact (ensures_exprs es).bind fun es' hes => .pure (.cons he hes)
termination_by structural es => es

end

theorem ensures_optional (e : Option Expr) :
    Ensures (Expr.visitOption (t.context types capturePrefix).rules e)
      (Option.Rel (Expr.LoweredTo types) e) := by
  cases e with
  | none => exact .pure .none
  | some e => exact (ensures_expr t types capturePrefix e).bind fun _ he => .pure (.some he)

theorem ensures_declarators (ds : List Declarator) :
    Ensures (Declarator.visitAll (t.context types capturePrefix).rules ds)
      (List.Forall₂ (Declarator.LoweredTo types) ds) := by
  induction ds with
  | nil => exact .pure .nil
  | cons d ds ih =>
    have first : Ensures (d.visit (t.context types capturePrefix).rules)
        (d.LoweredTo types) := by
      rw [visit_declarator]
      exact (ensures_optional t types capturePrefix d.init).bind fun _ hi => .skip fun _ =>
        .pure ⟨rfl, hi⟩
    exact first.bind fun _ hd => ih.bind fun _ hds => .pure (.cons hd hds)

theorem ensures_declaration (d : Declaration) :
    Ensures (d.visit (t.context types capturePrefix).rules)
      fun d' => (Stmt.declare d).LoweredTo types (.declare d') := by
  obtain ⟨type, ds⟩ := d
  cases type with
  | none => exact .refuse ..
  | some type =>
    rw [visit_typed]
    exact (ensures_declarators t types capturePrefix ds).bind fun _ hds =>
      (Ensures.mapType _ type).bind fun _ hm => .pure (.declare hm hds)

mutual

/-- Every statement that can be lowered becomes a lowered form of itself. -/
theorem ensures_stmt : ∀ s : Stmt,
    Ensures (s.visit (t.context types capturePrefix).rules) (s.LoweredTo types)
  | .declare d => (ensures_declaration t types capturePrefix d).bind fun _ hd => .pure hd
  | .expr value => (ensures_expr t types capturePrefix value).bind fun _ hv => .pure (.expr hv)
  | .ret value => (ensures_optional t types capturePrefix value).bind fun _ hv => .pure (.ret hv)
  | .branch cond onTrue onFalse => by
    refine (ensures_expr t types capturePrefix cond).bind fun cond' hc => ?_
    refine (ensures_block onTrue).inFrame.bind fun onTrue' ht => ?_
    exact (ensures_else onFalse).bind fun onFalse' hf => .pure (.branch hc ht hf)
  | .forLoop init cond step body => by
    rw [visit_forLoop]
    refine .inFrame ((ensures_init init).bind fun init' hi => ?_)
    refine (ensures_optional t types capturePrefix cond).bind fun cond' hc => ?_
    refine (ensures_exprs t types capturePrefix step).bind fun step' hs => ?_
    exact (ensures_block body).inFrame.bind fun body' hb => .pure (.forLoop hi hc hs hb)
  | .whileLoop cond body => by
    refine (ensures_expr t types capturePrefix cond).bind fun cond' hc => ?_
    exact (ensures_block body).inFrame.bind fun body' hb => .pure (.whileLoop hc hb)
  | .foreachLoop .. => .refuse ..
  | .block body => (ensures_block body).inFrame.bind fun _ hb => .pure (.block hb)
  | .breakLoop => .pure .breakLoop
  | .continueLoop => .pure .continueLoop
termination_by structural s => s

theorem ensures_block : ∀ b : List Stmt,
    Ensures (Stmt.visitAll (t.context types capturePrefix).rules b)
      (List.Forall₂ (Stmt.LoweredTo types) b)
  | [] => .pure .nil
  | s :: rest => by
    refine (ensures_stmt s).bind fun s' hs => ?_
    exact (ensures_block rest).bind fun rest' hr => .pure (.cons hs hr)
termination_by structural b => b

theorem ensures_else : ∀ b : Option (List Stmt),
    Ensures (Stmt.visitElse (t.context types capturePrefix).rules b)
      (Option.Rel (List.Forall₂ (Stmt.LoweredTo types)) b)
  | none => .pure .none
  | some body => (ensures_block body).inFrame.bind fun _ hb => .pure (.some hb)
termination_by structural b => b

theorem ensures_init : ∀ init : Option Stmt,
    Ensures (Stmt.visitInit (t.context types capturePrefix).rules init)
      (Option.Rel (Stmt.LoweredTo types) init)
  | none => .pure .none
  | some init => (ensures_stmt init).bind fun _ hi => .pure (.some hi)
termination_by structural init => init

end

theorem ensures_parameters (ps : List Parameter) :
    Ensures (Parameter.visitAll (t.context types capturePrefix).rules ps)
      (List.Forall₂ (Parameter.LoweredTo types) ps) := by
  induction ps with
  | nil => exact .pure .nil
  | cons p ps ih =>
    have first : Ensures (p.visit (t.context types capturePrefix).rules) (p.LoweredTo types) := by
      rw [visit_parameter]
      exact (Ensures.mapType _ p.type).bind fun _ hm => .skip fun _ => .pure ⟨rfl, rfl, hm, rfl⟩
    exact first.bind fun _ hp => ih.bind fun _ hps => .pure (.cons hp hps)

theorem ensures_method (m : Method) :
    Ensures ((t.context types capturePrefix).visitParts m) (m.LoweredTo types) := by
  refine (ensures_parameters t types capturePrefix m.parameters).bind fun parameters hp => ?_
  refine (ensures_block t types capturePrefix m.body).inFrame.bind fun body hb => ?_
  exact (Ensures.mapType _ m.returnType).bind fun type hm => .pure ⟨rfl, hm, rfl, hp, hb⟩

end Ensures

/-- **A lowered method is in shader form, and it is the lowered form of its
source**: the same name, parameters and statements, with every type replaced by
its image and every host form by its shader counterpart. -/
theorem lower_isShader (t : MemberTable) (types : TypeMap) (capturePrefix : String) (m : Method)
    (r : LoweredMethod) (h : (t.context types capturePrefix).lower m = .ok r) :
    r.method.isShader = true ∧ m.LoweredTo types r.method := by
  have lowered : m.LoweredTo types r.method :=
    (ensures_method t types capturePrefix m).of_lower h
  exact ⟨Method.isShader_of_loweredTo lowered, lowered⟩

/-- The member that the lowering of `scaled` captures. -/
def scaleSetting : Member :=
  ⟨"Settings", "Scale", .named "float", .field⟩

/-- A method with an attribute, a reference parameter, a default value and a static
member. -/
def scaled : Method where
  attributes := [⟨"Shader", []⟩]
  returnType := .named "float"
  name := "Scaled"
  parameters := [⟨[⟨"In", []⟩], .reference, .named "float", "a"⟩]
  body := [.declare (.single (.named "float") "b" (some (.defaultOf (.named "float")))),
    .branch (.ident "b")
      [.ret (some (.cast (.named "float") (.access (.ident "Settings") "Scale")))] none]

/-- What becomes of `scaled` when `float` stands for `half`. -/
def scaledHalf : LoweredMethod where
  method :=
    { attributes := []
      returnType := .named "half"
      name := "Scaled"
      parameters := [⟨[], .inout, .named "half", "a"⟩]
      body := [.declare (.single (.named "half") "b" (some (.zero (.named "half")))),
        .branch (.ident "b")
          [.ret (some (.cast (.named "half") (.ident "__Settings__Scale")))] none] }
  captures := ⟨[⟨"__Settings__Scale", scaleSetting⟩]⟩

/-- A method with one form of each kind that lowering removes. -/
theorem lower_isShader_scaled :
    ((MemberTable.vectorFields.addStatic scaleSetting).context
        (TypeMap.empty.register "float" "half") "__").lower scaled = .ok scaledHalf ∧
      scaledHalf.method.isShader = true ∧
      scaled.LoweredTo (TypeMap.empty.register "float" "half") scaledHalf.method := by
  have lowered : ((MemberTable.vectorFields.addStatic scaleSetting).context
      (TypeMap.empty.register "float" "half") "__").lower scaled = .ok scaledHalf := by rfl
  exact ⟨lowered, lower_isShader _ _ _ _ _ lowered⟩

end ShaderLowering
