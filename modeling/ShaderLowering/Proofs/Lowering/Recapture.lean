import ShaderLowering.Proofs.Lowering.ShaderForm
import ShaderLowering.Proofs.Lowering.Visibility
import ShaderLowering.Proofs.Names.CaptureName

/-!
# Another capture prefix

A method is lowered twice, under two capture prefixes.  As long as the capture names mean
nothing to the member table, the two lowerings go the same way: both fail, with one
error, or both succeed, with the same captures in the same order, and then the second
tree is the first one with the capture identifiers renamed.

The trees in between are not the same, and the resolver is asked about the accesses to
them.  But wherever they differ they have no path, or one that begins with a capture
name, and then the table does not know the path on either side.  That is the invariant,
`Renamed`.

A capture identifier is one in the place of an access.  An identifier that comes with a
constructed type may be spelled alike, and is not renamed; so the lowered tree is
renamed along the tree that it comes from.

## Main definitions

* `Expr.recapture`, `Stmt.recapture`, `Method.recapture` — renaming the identifiers in
  the places of accesses.
* `InStep` — two lowerings that go the same way.
* `Renamed` — the results of lowering one expression under two prefixes.

## Main statements

* `inStep_expr`, `inStep_stmt`, `inStep_block` — the parts of a method.
* `lower_recapture` — methods under two prefixes.
-/

namespace ShaderLowering

/-! ## Renaming in the places of accesses -/

section Recapture

variable (ρ : String → String)

mutual

/-- A lowered expression with the identifiers renamed that stand where another one has
accesses. -/
def Expr.recapture : Expr → Expr → Expr
  | .member .., .ident name => .ident (ρ name)
  | .member target _ _, .member target' name span => .member (target.recapture target') name span
  | .call callee args, .call callee' args' =>
    .call (callee.recapture callee') (Expr.allRecapture args args')
  | .index target position, .index target' position' =>
    .index (target.recapture target') (position.recapture position')
  | .cast _ operand, .cast type operand' => .cast type (operand.recapture operand')
  | .creation _ args, .call callee args' => .call callee (Expr.allRecapture args args')
  | .unary _ operand, .unary op operand' => .unary op (operand.recapture operand')
  | .binary _ lhs rhs, .binary op lhs' rhs' => .binary op (lhs.recapture lhs') (rhs.recapture rhs')
  | .assign _ target value, .assign op target' value' =>
    .assign op (target.recapture target') (value.recapture value')
  | .conditional cond onTrue onFalse, .conditional cond' onTrue' onFalse' =>
    .conditional (cond.recapture cond') (onTrue.recapture onTrue') (onFalse.recapture onFalse')
  | .paren inner, .paren inner' => .paren (inner.recapture inner')
  | _, e => e
termination_by structural e => e

/-- Several lowered expressions with these identifiers renamed. -/
def Expr.allRecapture : List Expr → List Expr → List Expr
  | e :: es, e' :: es' => e.recapture e' :: Expr.allRecapture es es'
  | _, es => es
termination_by structural es => es

end

/-- A lowered expression that may be missing, with these identifiers renamed. -/
def Expr.optionRecapture : Option Expr → Option Expr → Option Expr
  | some e, some e' => some (e.recapture ρ e')
  | _, e => e

/-- Lowered declarators with these identifiers renamed. -/
def Declarator.allRecapture : List Declarator → List Declarator → List Declarator
  | d :: ds, d' :: ds' =>
    ⟨d'.name, Expr.optionRecapture ρ d.init d'.init⟩ :: Declarator.allRecapture ds ds'
  | _, ds => ds

/-- A lowered declaration with these identifiers renamed. -/
def Declaration.recapture (d d' : Declaration) : Declaration :=
  ⟨d'.type, Declarator.allRecapture ρ d.declarators d'.declarators⟩

mutual

/-- A lowered statement with the identifiers renamed that stand where another one has
accesses. -/
def Stmt.recapture : Stmt → Stmt → Stmt
  | .declare d, .declare d' => .declare (d.recapture ρ d')
  | .expr value, .expr value' => .expr (value.recapture ρ value')
  | .ret value, .ret value' => .ret (Expr.optionRecapture ρ value value')
  | .branch cond onTrue onFalse, .branch cond' onTrue' onFalse' =>
    .branch (cond.recapture ρ cond') (Stmt.allRecapture onTrue onTrue')
      (Stmt.elseRecapture onFalse onFalse')
  | .forLoop init cond step body, .forLoop init' cond' step' body' =>
    .forLoop (Stmt.initRecapture init init') (Expr.optionRecapture ρ cond cond')
      (Expr.allRecapture ρ step step') (Stmt.allRecapture body body')
  | .whileLoop cond body, .whileLoop cond' body' =>
    .whileLoop (cond.recapture ρ cond') (Stmt.allRecapture body body')
  | .block body, .block body' => .block (Stmt.allRecapture body body')
  | _, s => s
termination_by structural s => s

/-- Several lowered statements with these identifiers renamed. -/
def Stmt.allRecapture : List Stmt → List Stmt → List Stmt
  | s :: rest, s' :: rest' => s.recapture s' :: Stmt.allRecapture rest rest'
  | _, b => b
termination_by structural b => b

/-- The lowered block behind `else` with these identifiers renamed. -/
def Stmt.elseRecapture : Option (List Stmt) → Option (List Stmt) → Option (List Stmt)
  | some body, some body' => some (Stmt.allRecapture body body')
  | _, b => b
termination_by structural b => b

/-- The lowered first part of a `for` header with these identifiers renamed. -/
def Stmt.initRecapture : Option Stmt → Option Stmt → Option Stmt
  | some init, some init' => some (init.recapture init')
  | _, init => init
termination_by structural init => init

end

/-- A lowered method with the identifiers renamed that stand where the method has
accesses. -/
def Method.recapture (m m' : Method) : Method :=
  { m' with body := Stmt.allRecapture ρ m.body m'.body }

end Recapture

/-! ## Two lowerings in step -/

section Steps

variable (t : MemberTable) (p q : String)

/-- Records of the same captures under two prefixes, at the same position. -/
structure Record.Parallel (r r' : Record) : Prop where
  location_eq : r.location = r'.location
  captures_eq : ∃ captured : List Member, (∀ m ∈ captured, m ∈ t.members) ∧
    r.captures = Captures.under p captured ∧ r'.captures = Captures.under q captured

/-- Outcomes that are two results, which are related, or two failures, which are the
same. -/
def Alike {α β : Type} (Q : α → β → Prop) :
    Except LoweringError α × Record → Except LoweringError β × Record → Prop
  | (.ok a, r), (.ok b, r') => Q a b ∧ r.Parallel t p q r'
  | (.error e, _), (.error e', _) => e = e'
  | _, _ => False

/-- Two steps go the same way from parallel records. -/
def InStep {α β : Type} (x : RecordM α) (y : RecordM β) (Q : α → β → Prop) : Prop :=
  ∀ ⦃r r'⦄, r.Parallel t p q r' → Alike t p q Q (outcome x r) (outcome y r')

namespace InStep

variable {t p q} {α β γ δ : Type} {P : α → β → Prop} {Q : γ → δ → Prop}

theorem pure {a : α} {b : β} (h : P a b) : InStep t p q (Pure.pure a) (Pure.pure b) P :=
  fun _ _ parallel => ⟨h, parallel⟩

/-- Steps behind steps go the same way, if they do so for related results. -/
theorem bind {x : RecordM α} {y : RecordM β} {f : α → RecordM γ} {g : β → RecordM δ}
    (hx : InStep t p q x y P) (hf : ∀ a b, P a b → InStep t p q (f a) (g b) Q) :
    InStep t p q (x >>= f) (y >>= g) Q := by
  intro r r' parallel
  have first := hx parallel
  rcases hr : outcome x r with ⟨e | a, s⟩ <;> rcases hr' : outcome y r' with ⟨e' | b, s'⟩ <;>
    rw [hr, hr'] at first
  · rw [outcome_bind_error hr, outcome_bind_error hr']
    exact first
  · exact first.elim
  · exact first.elim
  · rw [outcome_bind_ok hr, outcome_bind_ok hr']
    exact hf a b first.1 first.2

theorem throw (e : LoweringError) :
    InStep t p q (throw e : RecordM α) (throw e : RecordM β) P :=
  fun _ _ _ => rfl

theorem passBy (span : Span) : InStep t p q (Lexical.passBy span) (Lexical.passBy span) Eq := by
  intro r r' parallel
  refine ⟨rfl, ?_⟩
  change (if span.isKnown then { r with location := span } else r).Parallel t p q
    (if span.isKnown then { r' with location := span } else r')
  split
  · exact ⟨rfl, parallel.captures_eq⟩
  · exact parallel

/-- A construct is refused with one error, at one position. -/
theorem refuse (site : Site) (construct : Construct) (source : String) (span : Span) :
    InStep t p q (Lexical.refuse site construct source span)
      (Lexical.refuse site construct source span) P := by
  intro r r' parallel
  change LoweringError.unsupported _ _ _ (if span.isKnown then span else r.location)
    = .unsupported _ _ _ (if span.isKnown then span else r'.location)
  rw [parallel.location_eq]

theorem mapType {cx cx' : LoweringContext} (types_eq : cx.types = cx'.types) (type : TypeName) :
    InStep t p q (Lexical.mapType cx type) (Lexical.mapType cx' type) Eq := by
  rw [Lexical.mapType, Lexical.mapType, ← types_eq]
  refine (passBy type.span).bind fun _ _ _ => ?_
  cases cx.types.map type with
  | ok mapped => exact .pure rfl
  | error e => exact .throw e

/-- One member is captured under both prefixes. -/
theorem capture {m : Member} (hm : m ∈ t.members) {a : α} {b : β} (h : P a b) :
    InStep t p q
      (do modify fun r => { r with captures := r.captures.insert (m.captureName p) m }
          Pure.pure a)
      (do modify fun r => { r with captures := r.captures.insert (m.captureName q) m }
          Pure.pure b) P := by
  rintro r r' ⟨location_eq, captured, inside, eq, eq'⟩
  refine ⟨h, location_eq, if m.suffix ∈ captured.map Member.suffix then captured
    else captured ++ [m], ?_, ?_, ?_⟩
  · split
    · exact inside
    · intro m' hm'
      rcases List.mem_append.1 hm' with old | new
      · exact inside m' old
      · exact List.mem_singleton.1 new ▸ hm
  · change r.captures.insert _ _ = _
    rw [eq, Captures.insert_under]
  · change r'.captures.insert _ _ = _
    rw [eq', Captures.insert_under]

end InStep

/-- The results of lowering one expression under two prefixes.  The second is the first
one renamed; and they are the same, or nothing is registered behind either. -/
structure Renamed (e e₁ e₂ : Expr) : Prop where
  recapture_eq : e₂ = e.recapture (t.recaptured p q) e₁
  inert : e₁ = e₂ ∨ t.Inert p e₁ ∧ t.Inert q e₂

namespace Renamed

variable {t p q} {e e₁ e₂ : Expr}

/-- Results that are the same under every prefix. -/
theorem same (h : e₁ = e.recapture (t.recaptured p q) e₁) : Renamed t p q e e₁ e₁ :=
  ⟨h, .inl rfl⟩

/-- Results that are no paths, so that their accesses are only renamed. -/
theorem of_no_path (h : e₂ = e.recapture (t.recaptured p q) e₁) (first : e₁.path? = none)
    (second : e₂.path? = none) : Renamed t p q e e₁ e₂ :=
  ⟨h, .inr ⟨.of_no_path first, .of_no_path second⟩⟩

end Renamed

end Steps

section Lowering

variable {t : MemberTable} {types : TypeMap} {p q : String}

/-- An access is resolved in the same way under both prefixes. -/
theorem inStep_access (apart : t.Apart p ∧ t.Apart q) (site : Site) (name : String)
    (span : Span) {target e₁ e₂ : Expr} (renamed : Renamed t p q target e₁ e₂) :
    InStep t p q (Lexical.access (t.context types p) site ⟨e₁, name, span⟩)
      (Lexical.access (t.context types q) site ⟨e₂, name, span⟩)
      (Renamed t p q (.member target name span)) := by
  obtain ⟨recapture_eq, same | ⟨inert, inert'⟩⟩ := renamed
  · subst same
    rcases answer : t.resolve ⟨e₁, name, span⟩ site.visible.contains with e | m | replacement
    all_goals
      have left : (t.context types p).resolver ⟨e₁, name, span⟩ site.visible.contains = _ :=
        answer
      have right : (t.context types q).resolver ⟨e₁, name, span⟩ site.visible.contains = _ :=
        answer
      simp only [Lexical.access, left, right]
    · exact .throw e
    · obtain ⟨key, found⟩ := t.exists_static_of_resolve answer
      have hm := MemberTable.mem_members_of_get? found
      have inert : t.Inert p (.ident (m.captureName p)) := .of_capture apart.1.undotted hm
      have inert' : t.Inert q (.ident (m.captureName q)) := .of_capture apart.2.undotted hm
      refine .capture hm ⟨?_, .inr ⟨inert, inert'⟩⟩
      exact congrArg Expr.ident (MemberTable.recaptured_captureName hm p q).symm
    · refine .pure (.same ?_)
      rcases t.replacement_cases answer with ⟨path, x, alias_eq, rfl⟩ | rfl
      · have reserved := MemberTable.mem_reserved_of_alias alias_eq
        exact congrArg Expr.ident (MemberTable.recaptured_of_mem_reserved apart.1 reserved q).symm
      · exact congrArg (Expr.member · _ span) recapture_eq
  · have left : (t.context types p).resolver ⟨e₁, name, span⟩ site.visible.contains = _ :=
      inert.resolve_eq apart.1 _
    have right : (t.context types q).resolver ⟨e₂, name, span⟩ site.visible.contains = _ :=
      inert'.resolve_eq apart.2 _
    simp only [Lexical.access, left, right]
    refine .pure ⟨?_, .inr ⟨inert.member _ _, inert'.member _ _⟩⟩
    exact congrArg (Expr.member · _ span) recapture_eq

/-! ### Expressions -/

mutual

/-- An expression is lowered in step, at every site. -/
theorem inStep_expr (apart : t.Apart p ∧ t.Apart q) (site : Site) : ∀ e : Expr,
    InStep t p q (Lexical.expr (t.context types p) site e)
      (Lexical.expr (t.context types q) site e) (Renamed t p q e)
  | .literal (.string _) | .literal .null | .creationWith .. | .lambda .. => .refuse ..
  | .literal (.bool _) | .literal (.int _) | .literal (.uint _) | .literal (.float _)
  | .literal (.double _) | .ident _ => .pure (.same rfl)
  | .member target name span => by
    refine (InStep.passBy span).bind fun _ _ _ => ?_
    exact (inStep_expr apart site target).bind fun _ _ renamed =>
      inStep_access apart site name span renamed
  | .call callee args => by
    refine (inStep_expr apart site callee).bind fun callee₁ callee₂ hc => ?_
    refine (inStep_exprs apart site args).bind fun args₁ args₂ ha => .pure ?_
    exact .of_no_path (congrArg₂ Expr.call hc.recapture_eq ha) rfl rfl
  | .index target position => by
    refine (inStep_expr apart site target).bind fun target₁ target₂ ht => ?_
    refine (inStep_expr apart site position).bind fun position₁ position₂ hp => .pure ?_
    exact .of_no_path (congrArg₂ Expr.index ht.recapture_eq hp.recapture_eq) rfl rfl
  | .cast type operand => by
    refine (inStep_expr apart site operand).bind fun operand₁ operand₂ ho => ?_
    refine (InStep.mapType rfl type).bind fun type₁ _ same => .pure ?_
    subst same
    exact .of_no_path (congrArg (Expr.cast type₁) ho.recapture_eq) rfl rfl
  | .creation type args => by
    refine (inStep_exprs apart site args).bind fun args₁ args₂ ha => ?_
    refine (InStep.mapType rfl type).bind fun type₁ _ same => ?_
    subst same ha
    cases args₁ with
    | nil =>
      have none_left : Expr.allRecapture (t.recaptured p q) args [] = [] := by
        cases args <;> rfl
      rw [none_left]
      exact .pure (.same rfl)
    | cons e₁ es₁ =>
      obtain ⟨e₂, es₂, some_left⟩ : ∃ e₂ es₂,
          Expr.allRecapture (t.recaptured p q) args (e₁ :: es₁) = e₂ :: es₂ := by
        cases args <;> exact ⟨_, _, rfl⟩
      rw [some_left]
      exact .pure (.of_no_path (congrArg (Expr.call _) some_left.symm) rfl rfl)
  | .defaultOf type => by
    refine (InStep.mapType rfl type).bind fun type₁ _ same => .pure ?_
    subst same
    exact .same rfl
  | .unary op operand => by
    refine (inStep_expr apart site operand).bind fun operand₁ operand₂ ho => .pure ?_
    exact .of_no_path (congrArg (Expr.unary op) ho.recapture_eq) rfl rfl
  | .binary op lhs rhs => by
    refine (inStep_expr apart site lhs).bind fun lhs₁ lhs₂ hl => ?_
    refine (inStep_expr apart site rhs).bind fun rhs₁ rhs₂ hr => .pure ?_
    exact .of_no_path (congrArg₂ (Expr.binary op) hl.recapture_eq hr.recapture_eq) rfl rfl
  | .assign op target value => by
    refine (inStep_expr apart site target).bind fun target₁ target₂ ht => ?_
    refine (inStep_expr apart site value).bind fun value₁ value₂ hv => .pure ?_
    exact .of_no_path (congrArg₂ (Expr.assign op) ht.recapture_eq hv.recapture_eq) rfl rfl
  | .conditional cond onTrue onFalse => by
    refine (inStep_expr apart site cond).bind fun cond₁ cond₂ hc => ?_
    refine (inStep_expr apart site onTrue).bind fun true₁ true₂ ht => ?_
    refine (inStep_expr apart site onFalse).bind fun false₁ false₂ hf => .pure ?_
    obtain ⟨rfl, -⟩ := hc
    exact .of_no_path (congrArg₂ (Expr.conditional _) ht.recapture_eq hf.recapture_eq) rfl rfl
  | .paren inner => by
    refine (inStep_expr apart site inner).bind fun inner₁ inner₂ hi => .pure ?_
    exact .of_no_path (congrArg Expr.paren hi.recapture_eq) rfl rfl
termination_by structural e => e

theorem inStep_exprs (apart : t.Apart p ∧ t.Apart q) (site : Site) : ∀ es : List Expr,
    InStep t p q (Lexical.exprs (t.context types p) site es)
      (Lexical.exprs (t.context types q) site es)
      fun es₁ es₂ => es₂ = Expr.allRecapture (t.recaptured p q) es es₁
  | [] => .pure rfl
  | e :: es => by
    refine (inStep_expr apart site e).bind fun e₁ e₂ he => ?_
    refine (inStep_exprs apart site es).bind fun es₁ es₂ hes => .pure ?_
    exact congrArg₂ List.cons he.recapture_eq hes
termination_by structural es => es

end

theorem inStep_optional (apart : t.Apart p ∧ t.Apart q) (site : Site)
    (e : Option Expr) :
    InStep t p q (Lexical.optional (t.context types p) site e)
      (Lexical.optional (t.context types q) site e)
      fun e₁ e₂ => e₂ = Expr.optionRecapture (t.recaptured p q) e e₁ := by
  cases e with
  | none => exact .pure rfl
  | some e =>
    refine (inStep_expr apart site e).bind fun e₁ e₂ he => .pure ?_
    exact congrArg some he.recapture_eq

/-! ### Statements -/

theorem inStep_declarators (apart : t.Apart p ∧ t.Apart q) (site : Site)
    (ds : List Declarator) :
    InStep t p q (Lexical.declarators (t.context types p) site ds)
      (Lexical.declarators (t.context types q) site ds)
      fun ds₁ ds₂ => ds₂ = Declarator.allRecapture (t.recaptured p q) ds ds₁ := by
  induction ds generalizing site with
  | nil => exact .pure rfl
  | cons d ds ih =>
    refine (inStep_optional apart site d.init).bind fun init₁ init₂ hi => ?_
    refine (ih (site.behind [d.name])).bind fun ds₁ ds₂ hds => .pure ?_
    exact congrArg₂ (fun init ds => Declarator.mk d.name init :: ds) hi hds

theorem inStep_declaration (apart : t.Apart p ∧ t.Apart q) (site : Site)
    (d : Declaration) :
    InStep t p q (Lexical.declaration (t.context types p) site d)
      (Lexical.declaration (t.context types q) site d)
      fun d₁ d₂ => d₂ = d.recapture (t.recaptured p q) d₁ := by
  obtain ⟨type, ds⟩ := d
  cases type with
  | none => exact .refuse ..
  | some type =>
    refine (inStep_declarators apart site ds).bind fun ds₁ ds₂ hds => ?_
    refine (InStep.mapType rfl type).bind fun type₁ _ same => .pure ?_
    subst same
    exact congrArg (Declaration.mk (some type₁)) hds

mutual

/-- A statement is lowered in step, at every site. -/
theorem inStep_stmt (apart : t.Apart p ∧ t.Apart q) (site : Site) : ∀ s : Stmt,
    InStep t p q (Lexical.stmt (t.context types p) site s)
      (Lexical.stmt (t.context types q) site s)
      fun s₁ s₂ => s₂ = s.recapture (t.recaptured p q) s₁
  | .declare d => by
    refine (inStep_declaration apart site d).bind fun d₁ d₂ hd => .pure ?_
    exact congrArg Stmt.declare hd
  | .expr value => by
    refine (inStep_expr apart site value).bind fun value₁ value₂ hv => .pure ?_
    exact congrArg Stmt.expr hv.recapture_eq
  | .ret value => by
    refine (inStep_optional apart site value).bind fun value₁ value₂ hv => .pure ?_
    exact congrArg Stmt.ret hv
  | .branch cond onTrue onFalse => by
    refine (inStep_expr apart site cond).bind fun cond₁ cond₂ hc => ?_
    refine (inStep_block apart site onTrue).bind fun true₁ true₂ ht => ?_
    refine (inStep_otherwise apart site onFalse).bind fun false₁ false₂ hf => .pure ?_
    obtain ⟨rfl, -⟩ := hc
    exact congrArg₂ (Stmt.branch _) ht hf
  | .forLoop init cond step body => by
    refine (inStep_header apart site init).bind fun init₁ init₂ hi => ?_
    refine (inStep_optional apart _ cond).bind fun cond₁ cond₂ hc => ?_
    refine (inStep_exprs apart _ step).bind fun step₁ step₂ hs => ?_
    refine (inStep_block apart _ body).bind fun body₁ body₂ hb => .pure ?_
    subst hi hc
    exact congrArg₂ (Stmt.forLoop _ _) hs hb
  | .whileLoop cond body => by
    refine (inStep_expr apart site cond).bind fun cond₁ cond₂ hc => ?_
    refine (inStep_block apart site body).bind fun body₁ body₂ hb => .pure ?_
    exact congrArg₂ Stmt.whileLoop hc.recapture_eq hb
  | .foreachLoop .. => .refuse ..
  | .block body => by
    refine (inStep_block apart site body).bind fun body₁ body₂ hb => .pure ?_
    exact congrArg Stmt.block hb
  | .breakLoop | .continueLoop => .pure rfl
termination_by structural s => s

theorem inStep_block (apart : t.Apart p ∧ t.Apart q) (site : Site) : ∀ b : List Stmt,
    InStep t p q (Lexical.block (t.context types p) site b)
      (Lexical.block (t.context types q) site b)
      fun b₁ b₂ => b₂ = Stmt.allRecapture (t.recaptured p q) b b₁
  | [] => .pure rfl
  | s :: rest => by
    refine (inStep_stmt apart site s).bind fun s₁ s₂ hs => ?_
    refine (inStep_block apart _ rest).bind fun rest₁ rest₂ hr => .pure ?_
    exact congrArg₂ List.cons hs hr
termination_by structural b => b

theorem inStep_otherwise (apart : t.Apart p ∧ t.Apart q) (site : Site) :
    ∀ b : Option (List Stmt),
    InStep t p q (Lexical.otherwise (t.context types p) site b)
      (Lexical.otherwise (t.context types q) site b)
      fun b₁ b₂ => b₂ = Stmt.elseRecapture (t.recaptured p q) b b₁
  | none => .pure rfl
  | some body => by
    refine (inStep_block apart site body).bind fun body₁ body₂ hb => .pure ?_
    exact congrArg some hb
termination_by structural b => b

theorem inStep_header (apart : t.Apart p ∧ t.Apart q) (site : Site) :
    ∀ init : Option Stmt,
    InStep t p q (Lexical.header (t.context types p) site init)
      (Lexical.header (t.context types q) site init)
      fun init₁ init₂ => init₂ = Stmt.initRecapture (t.recaptured p q) init init₁
  | none => .pure rfl
  | some init => by
    refine (inStep_stmt apart site init).bind fun init₁ init₂ hi => .pure ?_
    exact congrArg some hi
termination_by structural init => init

end

/-! ### Methods -/

/-- Parameters do not depend on the prefix. -/
theorem inStep_parameters (ps : List Parameter) :
    InStep t p q (Lexical.parameters (t.context types p) ps)
      (Lexical.parameters (t.context types q) ps) Eq := by
  induction ps with
  | nil => exact .pure rfl
  | cons param ps ih =>
    refine (InStep.mapType rfl param.type).bind fun type₁ _ same => ?_
    refine ih.bind fun ps₁ _ same' => .pure ?_
    rw [same, same']

theorem inStep_method (apart : t.Apart p ∧ t.Apart q) (m : Method) :
    InStep t p q (Lexical.method (t.context types p) m) (Lexical.method (t.context types q) m)
      fun m₁ m₂ => m₂ = m.recapture (t.recaptured p q) m₁ := by
  refine (inStep_parameters m.parameters).bind fun ps₁ _ same => ?_
  refine (inStep_block apart _ m.body).bind fun body₁ body₂ hb => ?_
  refine (InStep.mapType rfl m.returnType).bind fun type₁ _ same' => .pure ?_
  subst same same' hb
  rfl

end Lowering

/-- **The capture prefix is a matter of spelling.**  Under two prefixes without dots, whose
capture names are no aliases of the table and no first segments of its paths, lowering a
method goes the same way.  It fails with one error, or it succeeds with the same members
captured in the same order, each under its name with the one prefix or the other; and the
second tree is the first one with each identifier in the place of an access renamed, if it
is a capture name, from the one prefix to the other. -/
theorem lower_recapture (t : MemberTable) (types : TypeMap) (p q : String) (m : Method)
    (undotted : '.' ∉ p.toList ∧ '.' ∉ q.toList)
    (free : ∀ s ∈ t.members, s.captureName p ∉ t.reserved ∧ s.captureName q ∉ t.reserved) :
    match (t.context types p).lower m, (t.context types q).lower m with
    | .ok r, .ok r' =>
      (∃ captured : List Member, (∀ s ∈ captured, s ∈ t.members) ∧
        r.captures.entries = captured.map (fun s => ⟨s.captureName p, s⟩) ∧
        r'.captures.entries = captured.map (fun s => ⟨s.captureName q, s⟩)) ∧
      r'.method = m.recapture (t.recaptured p q) r.method
    | .error e, .error e' => e = e'
    | _, _ => False := by
  have apart : t.Apart p ∧ t.Apart q :=
    ⟨⟨undotted.1, fun s hs => (free s hs).1⟩, ⟨undotted.2, fun s hs => (free s hs).2⟩⟩
  have start : Record.Parallel t p q ⟨.empty, .unknown⟩ ⟨.empty, .unknown⟩ :=
    ⟨rfl, [], by simp, rfl, rfl⟩
  have inStep : InStep t p q (Lexical.method (t.context types p) m)
      (Lexical.method (t.context types q) m) _ := inStep_method apart m
  have alike := inStep start
  rcases walk : outcome (Lexical.method (t.context types p) m) ⟨.empty, .unknown⟩
    with ⟨e | lowered, r⟩ <;>
  rcases walk' : outcome (Lexical.method (t.context types q) m) ⟨.empty, .unknown⟩
    with ⟨e' | lowered', r'⟩ <;>
  rw [walk, walk'] at alike
  · rw [lower_of_outcome_error walk, lower_of_outcome_error walk']
    exact alike
  · exact alike.elim
  · exact alike.elim
  · rw [lower_of_outcome_ok walk, lower_of_outcome_ok walk']
    obtain ⟨recapture_eq, -, captured, inside, eq, eq'⟩ := alike
    exact ⟨⟨captured, inside, congrArg Captures.entries eq, congrArg Captures.entries eq'⟩,
      recapture_eq⟩

/-- A method that reads a field of a member, and constructs a value of a type. -/
def readScale : Method where
  attributes := []
  returnType := .named "float"
  name := "ReadScale"
  parameters := []
  body := [.ret (some (.binary .mul (.access (.access (.ident "Settings") "Scale") "X")
    (.creation (.named "Scale") [.int 2])))]

/-- What becomes of `readScale` where a capture has a name: the field is read behind the
name, and the constructed type keeps its own. -/
def scaleRead (name : String) : LoweredMethod where
  method := { readScale with
    body := [.ret (some (.binary .mul (.access (.ident name) "x")
      (.call (.ident "__Settings__Scale") [.int 2])))] }
  captures := ⟨[⟨name, scaleSetting⟩]⟩

/-- Lowering under two prefixes, where a shader type is named like the capture under one
of them. -/
theorem lower_recapture_scale :
    let t := MemberTable.vectorFields.addStatic scaleSetting
    let types := (TypeMap.empty.register "float" "float").register "Scale" "__Settings__Scale"
    (t.context types "__").lower readScale = .ok (scaleRead "__Settings__Scale") ∧
      (t.context types "cb_").lower readScale = .ok (scaleRead "cb_Settings__Scale") ∧
      (scaleRead "cb_Settings__Scale").method
        = readScale.recapture (t.recaptured "__" "cb_") (scaleRead "__Settings__Scale").method := by
  intro t types
  have lowered : (t.context types "__").lower readScale = .ok (scaleRead "__Settings__Scale") := by
    rfl
  have lowered' : (t.context types "cb_").lower readScale
      = .ok (scaleRead "cb_Settings__Scale") := by rfl
  have both := lower_recapture t types "__" "cb_" readScale (by decide) (by decide)
  rw [lowered, lowered'] at both
  exact ⟨lowered, lowered', both.2⟩

end ShaderLowering
