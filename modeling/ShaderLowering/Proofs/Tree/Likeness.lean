import Mathlib.Data.List.Forall2
import ShaderLowering.Error
import ShaderLowering.Names.Resolver
import ShaderLowering.Tree.Path

/-!
# Trees that are alike

Two trees are alike when they have the same form throughout, the same names, literals and
operators in the same places, and at most differ in what a `Likeness` leaves open: the
positions that they carry, how their types are written, and which of its two spellings
the zero of a type has.

## Main definitions

* `Likeness` — what is left open.
* `Likeness.exact`, `Likeness.positions` — nothing is, or only positions are.
* `Expr.Like`, `Stmt.Like`, `Method.Like` — trees that are alike.
* `LoweringError.Like`, `ResultsAlike` — errors that are alike, and results.

## Main statements

* `Expr.Like.path?_eq` — expressions that are alike have the same path.
* `Expr.Like.eq`, `Stmt.Like.eq`, `Method.Like.eq` — where nothing is left open, trees that
  are alike are equal.
-/

namespace ShaderLowering

/-- What may differ between two trees that are alike. -/
structure Likeness where
  /-- A position may stand for another one. -/
  span : Span → Span → Prop
  /-- A type may stand for another one. -/
  type : TypeName → TypeName → Prop
  /-- `default(T)` and `new T()` may stand for one another. -/
  zeros : Prop

/-- Nothing may differ. -/
def Likeness.exact : Likeness where
  span := Eq
  type := Eq
  zeros := False

/-- Only positions may differ, including those of types. -/
def Likeness.positions : Likeness where
  span _ _ := True
  type type type' := type.name = type'.name
  zeros := False

theorem Likeness.name_eq {type type' : TypeName} (h : positions.type type type') :
    type.name = type'.name := h

section Trees

variable (L : Likeness)

/-! ## Expressions -/

/-- Expressions that are alike. -/
inductive Expr.Like : Expr → Expr → Prop where
  | literal (value : Literal) : Like (.literal value) (.literal value)
  | ident (name : String) : Like (.ident name) (.ident name)
  | member {target target' : Expr} (name : String) {span span' : Span} :
    Like target target' → L.span span span' →
      Like (.member target name span) (.member target' name span')
  | call {callee callee' : Expr} {args args' : List Expr} :
    Like callee callee' → List.Forall₂ Like args args' →
      Like (.call callee args) (.call callee' args')
  | index {target target' position position' : Expr} :
    Like target target' → Like position position' →
      Like (.index target position) (.index target' position')
  | cast {type type' : TypeName} {operand operand' : Expr} :
    L.type type type' → Like operand operand' → Like (.cast type operand) (.cast type' operand')
  | creation {type type' : TypeName} {args args' : List Expr} :
    L.type type type' → List.Forall₂ Like args args' →
      Like (.creation type args) (.creation type' args')
  | creationWith {type type' : TypeName} {args args' : List Expr}
      {fields fields' : List (String × Expr)} :
    L.type type type' → List.Forall₂ Like args args' →
      fields.map Prod.fst = fields'.map Prod.fst →
        List.Forall₂ Like (fields.map Prod.snd) (fields'.map Prod.snd) →
          Like (.creationWith type args fields) (.creationWith type' args' fields')
  | defaultOf {type type' : TypeName} :
    L.type type type' → Like (.defaultOf type) (.defaultOf type')
  | defaultAsCreation {type type' : TypeName} :
    L.zeros → L.type type type' → Like (.defaultOf type) (.creation type' [])
  | creationAsDefault {type type' : TypeName} :
    L.zeros → L.type type type' → Like (.creation type []) (.defaultOf type')
  | unary (op : Unary) {operand operand' : Expr} :
    Like operand operand' → Like (.unary op operand) (.unary op operand')
  | binary (op : Binary) {lhs lhs' rhs rhs' : Expr} :
    Like lhs lhs' → Like rhs rhs' → Like (.binary op lhs rhs) (.binary op lhs' rhs')
  | assign (op : Option Binary) {target target' value value' : Expr} :
    Like target target' → Like value value' →
      Like (.assign op target value) (.assign op target' value')
  | conditional {cond cond' onTrue onTrue' onFalse onFalse' : Expr} :
    Like cond cond' → Like onTrue onTrue' → Like onFalse onFalse' →
      Like (.conditional cond onTrue onFalse) (.conditional cond' onTrue' onFalse')
  | paren {inner inner' : Expr} : Like inner inner' → Like (.paren inner) (.paren inner')
  | lambda (params : List String) {body body' : Expr} :
    Like body body' → Like (.lambda params body) (.lambda params body')

/-! ## Statements -/

/-- Declarators that are alike. -/
structure Declarator.Like (d d' : Declarator) : Prop where
  name_eq : d.name = d'.name
  init : Option.Rel (Expr.Like L) d.init d'.init

/-- Local declarations that are alike. -/
structure Declaration.Like (d d' : Declaration) : Prop where
  type : Option.Rel L.type d.type d'.type
  declarators : List.Forall₂ (Declarator.Like L) d.declarators d'.declarators

/-- Statements that are alike. -/
inductive Stmt.Like : Stmt → Stmt → Prop where
  | declare {d d' : Declaration} : d.Like L d' → Like (.declare d) (.declare d')
  | expr {value value' : Expr} : value.Like L value' → Like (.expr value) (.expr value')
  | ret {value value' : Option Expr} :
    Option.Rel (Expr.Like L) value value' → Like (.ret value) (.ret value')
  | branch {cond cond' : Expr} {onTrue onTrue' : List Stmt}
      {onFalse onFalse' : Option (List Stmt)} :
    cond.Like L cond' → List.Forall₂ Like onTrue onTrue' →
      Option.Rel (List.Forall₂ Like) onFalse onFalse' →
        Like (.branch cond onTrue onFalse) (.branch cond' onTrue' onFalse')
  | forLoop {init init' : Option Stmt} {cond cond' : Option Expr} {step step' : List Expr}
      {body body' : List Stmt} :
    Option.Rel Like init init' → Option.Rel (Expr.Like L) cond cond' →
      List.Forall₂ (Expr.Like L) step step' → List.Forall₂ Like body body' →
        Like (.forLoop init cond step body) (.forLoop init' cond' step' body')
  | whileLoop {cond cond' : Expr} {body body' : List Stmt} :
    cond.Like L cond' → List.Forall₂ Like body body' →
      Like (.whileLoop cond body) (.whileLoop cond' body')
  | foreachLoop {type type' : TypeName} (name : String) {collection collection' : Expr}
      {body body' : List Stmt} :
    L.type type type' → collection.Like L collection' → List.Forall₂ Like body body' →
      Like (.foreachLoop type name collection body) (.foreachLoop type' name collection' body')
  | block {body body' : List Stmt} :
    List.Forall₂ Like body body' → Like (.block body) (.block body')
  | breakLoop : Like .breakLoop .breakLoop
  | continueLoop : Like .continueLoop .continueLoop

/-! ## Methods -/

/-- Attributes that are alike. -/
structure Attribute.Like (a a' : Attribute) : Prop where
  name_eq : a.name = a'.name
  arguments : List.Forall₂ (Expr.Like L) a.arguments a'.arguments

/-- Parameters that are alike. -/
structure Parameter.Like (p p' : Parameter) : Prop where
  attributes : List.Forall₂ (Attribute.Like L) p.attributes p'.attributes
  passing_eq : p.passing = p'.passing
  type : L.type p.type p'.type
  name_eq : p.name = p'.name

/-- Methods that are alike. -/
structure Method.Like (m m' : Method) : Prop where
  attributes : List.Forall₂ (Attribute.Like L) m.attributes m'.attributes
  returnType : L.type m.returnType m'.returnType
  name_eq : m.name = m'.name
  parameters : List.Forall₂ (Parameter.Like L) m.parameters m'.parameters
  body : List.Forall₂ (Stmt.Like L) m.body m'.body

/-! ## Results -/

/-- Errors that are alike.  An error about a construct quotes it, and the quoted texts may
differ. -/
inductive LoweringError.Like : LoweringError → LoweringError → Prop where
  | unsupported (method : String) (construct : Construct) (source source' : String)
      {span span' : Span} :
    L.span span span' →
      Like (.unsupported method construct source span) (.unsupported method construct source' span')
  | unmappedType (name : String) {span span' : Span} :
    L.span span span' → Like (.unmappedType name span) (.unmappedType name span')
  | unresolved (member reason : String) :
    Like (.unresolved member reason) (.unresolved member reason)

/-- Answers of a resolver that are alike. -/
inductive Resolution.Like : Resolution → Resolution → Prop where
  | capture (member : Member) : Like (.capture member) (.capture member)
  | direct {replacement replacement' : Expr} :
    replacement.Like L replacement' → Like (.direct replacement) (.direct replacement')

/-- Two results that are both values, which are related, or both errors, which are
alike. -/
inductive ResultsAlike {α β : Type} (Q : α → β → Prop) :
    Except LoweringError α → Except LoweringError β → Prop where
  | ok {a : α} {b : β} : Q a b → ResultsAlike Q (.ok a) (.ok b)
  | error {e e' : LoweringError} : e.Like L e' → ResultsAlike Q (.error e) (.error e')

end Trees

theorem ResultsAlike.imp {L : Likeness} {α β : Type} {P Q : α → β → Prop}
    {x : Except LoweringError α} {y : Except LoweringError β} (h : ResultsAlike L P x y)
    (implied : ∀ a b, P a b → Q a b) : ResultsAlike L Q x y := by
  cases h with
  | ok related => exact .ok (implied _ _ related)
  | error errors => exact .error errors

/-! ## Paths -/

/-- Expressions that are alike have the same path. -/
theorem Expr.Like.path?_eq {L : Likeness} : ∀ {e e' : Expr}, e.Like L e' → e.path? = e'.path?
  | .member target _ _, _, .member name ht _ => by
    simp only [Expr.path?, ht.path?_eq]
  | _, _, .literal _ | _, _, .ident _ | _, _, .call .. | _, _, .index .. | _, _, .cast ..
  | _, _, .creation .. | _, _, .creationWith .. | _, _, .defaultOf _
  | _, _, .defaultAsCreation .. | _, _, .creationAsDefault .. | _, _, .unary ..
  | _, _, .binary .. | _, _, .assign .. | _, _, .conditional .. | _, _, .paren _
  | _, _, .lambda .. => rfl

/-! ## Where nothing is left open -/

mutual

/-- Expressions that are alike where nothing is left open are the same. -/
theorem Expr.Like.eq : ∀ {e e' : Expr}, e.Like .exact e' → e = e'
  | .literal _, _, .literal _ => rfl
  | .ident _, _, .ident _ => rfl
  | .member _ _ _, _, .member _ ht (.refl _) => by rw [ht.eq]
  | .call _ _, _, .call hc ha => by rw [hc.eq, Expr.eq_of_forall₂_like ha]
  | .index _ _, _, .index ht hp => by rw [ht.eq, hp.eq]
  | .cast _ _, _, .cast (.refl _) ho => by rw [ho.eq]
  | .creation _ _, _, .creation (.refl _) ha => by rw [Expr.eq_of_forall₂_like ha]
  | .creationWith _ _ _, _, .creationWith (.refl _) ha names hf => by
    rw [Expr.eq_of_forall₂_like ha, Expr.fields_eq_of_forall₂_like names hf]
  | .defaultOf _, _, .defaultOf (.refl _) => rfl
  | .unary _ _, _, .unary _ ho => by rw [ho.eq]
  | .binary _ _ _, _, .binary _ hl hr => by rw [hl.eq, hr.eq]
  | .assign _ _ _, _, .assign _ ht hv => by rw [ht.eq, hv.eq]
  | .conditional _ _ _, _, .conditional hc ht hf => by rw [hc.eq, ht.eq, hf.eq]
  | .paren _, _, .paren hi => by rw [hi.eq]
  | .lambda _ _, _, .lambda _ hb => by rw [hb.eq]
termination_by structural e => e

theorem Expr.eq_of_forall₂_like :
    ∀ {es es' : List Expr}, List.Forall₂ (Expr.Like .exact) es es' → es = es'
  | [], _, .nil => rfl
  | _ :: _, _, .cons he hes => by rw [he.eq, Expr.eq_of_forall₂_like hes]
termination_by structural es => es

theorem Expr.fields_eq_of_forall₂_like :
    ∀ {fields fields' : List (String × Expr)},
      fields.map Prod.fst = fields'.map Prod.fst →
        List.Forall₂ (Expr.Like .exact) (fields.map Prod.snd) (fields'.map Prod.snd) →
          fields = fields'
  | [], [], _, _ => rfl
  | (name, value) :: fields, (name', value') :: fields', names, .cons hv hf => by
    obtain ⟨(name_eq : name = name'), (names : fields.map Prod.fst = fields'.map Prod.fst)⟩ :=
      List.cons.inj names
    have value_eq : value = value' := hv.eq
    rw [name_eq, value_eq, Expr.fields_eq_of_forall₂_like names hf]
termination_by structural fields => fields

end

/-- Lists whose elements are related one by one, when related elements are equal. -/
theorem eq_of_forall₂ {α : Type} {R : α → α → Prop} (eq : ∀ {a b}, R a b → a = b)
    {l l' : List α} (h : List.Forall₂ R l l') : l = l' := by
  rw [← List.forall₂_eq_eq_eq]
  exact h.imp fun _ _ => eq

theorem eq_of_optionRel {α : Type} {R : α → α → Prop} (eq : ∀ {a b}, R a b → a = b)
    {x x' : Option α} (h : Option.Rel R x x') : x = x' := by
  cases h with
  | none => rfl
  | some hr => rw [eq hr]

theorem Declarator.Like.eq {d d' : Declarator} (h : d.Like .exact d') : d = d' := by
  change Declarator.mk d.name d.init = ⟨d'.name, d'.init⟩
  rw [h.name_eq, eq_of_optionRel Expr.Like.eq h.init]

theorem Declaration.Like.eq {d d' : Declaration} (h : d.Like .exact d') : d = d' := by
  have type_eq : d.type = d'.type := eq_of_optionRel id h.type
  change Declaration.mk d.type d.declarators = ⟨d'.type, d'.declarators⟩
  rw [type_eq, eq_of_forall₂ Declarator.Like.eq h.declarators]

mutual

theorem Stmt.Like.eq : ∀ {s s' : Stmt}, s.Like .exact s' → s = s'
  | .declare _, _, .declare hd => by rw [hd.eq]
  | .expr _, _, .expr hv => by rw [hv.eq]
  | .ret _, _, .ret hv => by rw [eq_of_optionRel Expr.Like.eq hv]
  | .branch _ _ _, _, .branch hc ht hf => by
    rw [hc.eq, Stmt.eq_of_forall₂_like ht, Stmt.else_eq_of_like hf]
  | .forLoop _ _ _ _, _, .forLoop hi hc hs hb => by
    rw [Stmt.init_eq_of_like hi, eq_of_optionRel Expr.Like.eq hc, Expr.eq_of_forall₂_like hs,
      Stmt.eq_of_forall₂_like hb]
  | .whileLoop _ _, _, .whileLoop hc hb => by rw [hc.eq, Stmt.eq_of_forall₂_like hb]
  | .foreachLoop _ _ _ _, _, .foreachLoop _ (.refl _) hc hb => by
    rw [hc.eq, Stmt.eq_of_forall₂_like hb]
  | .block _, _, .block hb => by rw [Stmt.eq_of_forall₂_like hb]
  | .breakLoop, _, .breakLoop => rfl
  | .continueLoop, _, .continueLoop => rfl
termination_by structural s => s

theorem Stmt.eq_of_forall₂_like :
    ∀ {b b' : List Stmt}, List.Forall₂ (Stmt.Like .exact) b b' → b = b'
  | [], _, .nil => rfl
  | _ :: _, _, .cons hs hr => by rw [hs.eq, Stmt.eq_of_forall₂_like hr]
termination_by structural b => b

theorem Stmt.else_eq_of_like :
    ∀ {b b' : Option (List Stmt)}, Option.Rel (List.Forall₂ (Stmt.Like .exact)) b b' → b = b'
  | none, _, .none => rfl
  | some _, _, .some hb => by rw [Stmt.eq_of_forall₂_like hb]
termination_by structural b => b

theorem Stmt.init_eq_of_like :
    ∀ {init init' : Option Stmt}, Option.Rel (Stmt.Like .exact) init init' → init = init'
  | none, _, .none => rfl
  | some _, _, .some hi => by rw [hi.eq]
termination_by structural init => init

end

theorem Attribute.Like.eq {a a' : Attribute} (h : a.Like .exact a') : a = a' := by
  change Attribute.mk a.name a.arguments = ⟨a'.name, a'.arguments⟩
  rw [h.name_eq, Expr.eq_of_forall₂_like h.arguments]

theorem Parameter.Like.eq {p p' : Parameter} (h : p.Like .exact p') : p = p' := by
  have type_eq : p.type = p'.type := h.type
  change Parameter.mk p.attributes p.passing p.type p.name
    = ⟨p'.attributes, p'.passing, p'.type, p'.name⟩
  rw [eq_of_forall₂ Attribute.Like.eq h.attributes, h.passing_eq, type_eq, h.name_eq]

theorem Method.Like.eq {m m' : Method} (h : m.Like .exact m') : m = m' := by
  have returnType_eq : m.returnType = m'.returnType := h.returnType
  change Method.mk m.attributes m.returnType m.name m.parameters m.body
    = ⟨m'.attributes, m'.returnType, m'.name, m'.parameters, m'.body⟩
  rw [eq_of_forall₂ Attribute.Like.eq h.attributes, returnType_eq, h.name_eq,
    eq_of_forall₂ Parameter.Like.eq h.parameters, Stmt.eq_of_forall₂_like h.body]

mutual

theorem Expr.like_self : ∀ e : Expr, e.Like .exact e
  | .literal value => .literal value
  | .ident name => .ident name
  | .member target name _ => .member name target.like_self rfl
  | .call callee args => .call callee.like_self (Expr.all_like_self args)
  | .index target position => .index target.like_self position.like_self
  | .cast _ operand => .cast rfl operand.like_self
  | .creation _ args => .creation rfl (Expr.all_like_self args)
  | .creationWith _ args fields =>
    .creationWith rfl (Expr.all_like_self args) rfl (Expr.fields_like_self fields)
  | .defaultOf _ => .defaultOf rfl
  | .unary op operand => .unary op operand.like_self
  | .binary op lhs rhs => .binary op lhs.like_self rhs.like_self
  | .assign op target value => .assign op target.like_self value.like_self
  | .conditional cond onTrue onFalse =>
    .conditional cond.like_self onTrue.like_self onFalse.like_self
  | .paren inner => .paren inner.like_self
  | .lambda params body => .lambda params body.like_self
termination_by structural e => e

theorem Expr.all_like_self : ∀ es : List Expr, List.Forall₂ (Expr.Like .exact) es es
  | [] => .nil
  | e :: es => .cons e.like_self (Expr.all_like_self es)
termination_by structural es => es

theorem Expr.fields_like_self : ∀ fields : List (String × Expr),
    List.Forall₂ (Expr.Like .exact) (fields.map Prod.snd) (fields.map Prod.snd)
  | [] => .nil
  | (_, value) :: fields => .cons value.like_self (Expr.fields_like_self fields)
termination_by structural fields => fields

end

theorem LoweringError.like_self (e : LoweringError) : e.Like .exact e := by
  cases e with
  | unsupported method construct source _ => exact .unsupported method construct source source rfl
  | unmappedType name _ => exact .unmappedType name rfl
  | unresolved member reason => exact .unresolved member reason

theorem ResultsAlike.self {α : Type} {Q : α → α → Prop} (related : ∀ a, Q a a)
    (x : Except LoweringError α) : ResultsAlike .exact Q x x := by
  cases x with
  | ok a => exact .ok (related a)
  | error e => exact .error e.like_self

end ShaderLowering
