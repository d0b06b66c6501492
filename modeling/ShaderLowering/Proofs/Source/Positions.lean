import ShaderLowering.Proofs.Tree.Likeness
import ShaderLowering.Source.Stmt

/-!
# Positions are not printed

Trees that differ in nothing but positions have the same source text.

## Main statements

* `Expr.Like.source_eq`, `Stmt.Like.lines_eq`, `Method.Like.source_eq` — expressions,
  statements and methods.
-/

namespace ShaderLowering

/-! ## Expressions -/

section Parentheses

variable {L : Likeness} {e e' : Expr}

/-- Expressions that are alike are put in parentheses in the same places. -/
theorem Expr.Like.needsParens_eq (h : e.Like L e') : e.needsParens = e'.needsParens := by
  cases h <;> rfl

theorem Expr.Like.needsParensUnder_eq (h : e.Like L e') (parent : Binary) (right : Bool) :
    e.needsParensUnder parent right = e'.needsParensUnder parent right := by
  cases h <;> rfl

end Parentheses

mutual

theorem Expr.Like.source_eq :
    ∀ {e e' : Expr}, e.Like .positions e' → e.source = e'.source
  | .literal _, _, .literal _ => rfl
  | .ident _, _, .ident _ => rfl
  | .member target _ _, _, .member _ ht _ => by
    simp only [Expr.source, ht.needsParens_eq, ht.source_eq]
  | .call callee args, _, .call hc ha => by
    simp only [Expr.source, hc.needsParens_eq, hc.source_eq, Expr.sources_eq_of_like ha]
  | .index target position, _, .index ht hp => by
    simp only [Expr.source, ht.needsParens_eq, ht.source_eq, hp.source_eq]
  | .cast type operand, _, .cast named ho => by
    simp only [Expr.source, Likeness.name_eq named, ho.needsParens_eq, ho.source_eq]
  | .creation type args, _, .creation named ha => by
    simp only [Expr.source, Likeness.name_eq named, Expr.sources_eq_of_like ha]
  | .creationWith type args fields, _, .creationWith named ha names hf => by
    simp only [Expr.source, Likeness.name_eq named, Expr.sources_eq_of_like ha,
      Expr.fieldSources_eq_of_like names hf]
  | .defaultOf type, _, .defaultOf named => by
    simp only [Expr.source, Likeness.name_eq named]
  | .unary _ operand, _, .unary _ ho => by
    simp only [Expr.source, ho.needsParens_eq, ho.source_eq]
  | .binary _ lhs rhs, _, .binary _ hl hr => by
    simp only [Expr.source, hl.needsParensUnder_eq, hr.needsParensUnder_eq, hl.source_eq,
      hr.source_eq]
  | .assign _ target value, _, .assign _ ht hv => by
    simp only [Expr.source, ht.source_eq, hv.source_eq]
  | .conditional cond onTrue onFalse, _, .conditional hc ht hf => by
    simp only [Expr.source, hc.source_eq, ht.source_eq, hf.source_eq]
  | .paren inner, _, .paren hi => by
    simp only [Expr.source, hi.source_eq]
  | .lambda _ body, _, .lambda _ hb => by
    simp only [Expr.source, hb.source_eq]
termination_by structural e => e

theorem Expr.sources_eq_of_like :
    ∀ {es es' : List Expr}, List.Forall₂ (Expr.Like .positions) es es' →
      Expr.sources es = Expr.sources es'
  | [], _, .nil => rfl
  | e :: es, _, .cons he hes => by
    simp only [Expr.sources, he.source_eq, Expr.sources_eq_of_like hes]
termination_by structural es => es

theorem Expr.fieldSources_eq_of_like :
    ∀ {fields fields' : List (String × Expr)},
      fields.map Prod.fst = fields'.map Prod.fst →
        List.Forall₂ (Expr.Like .positions) (fields.map Prod.snd) (fields'.map Prod.snd) →
          Expr.fieldSources fields = Expr.fieldSources fields'
  | [], [], _, _ => rfl
  | (name, value) :: fields, (name', value') :: fields', names, .cons hv hf => by
    obtain ⟨(name_eq : name = name'), (names : fields.map Prod.fst = fields'.map Prod.fst)⟩ :=
      List.cons.inj names
    simp only [Expr.fieldSources, name_eq, hv.source_eq, Expr.fieldSources_eq_of_like names hf]
termination_by structural fields => fields

end

theorem Expr.listSource_eq_of_like {es es' : List Expr}
    (h : List.Forall₂ (Expr.Like .positions) es es') :
    Expr.listSource es = Expr.listSource es' := by
  rw [Expr.listSource, Expr.listSource, ← Expr.sources_eq_map, ← Expr.sources_eq_map,
    Expr.sources_eq_of_like h]

theorem optionalSource_eq_of_like {e e' : Option Expr}
    (h : Option.Rel (Expr.Like .positions) e e') : optionalSource e = optionalSource e' := by
  cases h with
  | none => rfl
  | some he => exact he.source_eq

/-- Texts that are equal one by one. -/
theorem map_eq_of_forall₂ {α β : Type} {R : α → α → Prop} {f : α → β} {l l' : List α}
    (h : List.Forall₂ R l l') (hf : ∀ {a b}, R a b → f a = f b) : l.map f = l'.map f := by
  have each : List.Forall₂ (fun a b => f a = f b) l l' := h.imp fun _ _ hr => hf hr
  rw [← List.forall₂_eq_eq_eq, List.forall₂_map_left_iff, List.forall₂_map_right_iff]
  exact each

/-! ## Statements -/

theorem Declarator.Like.source_eq {d d' : Declarator} (h : d.Like .positions d') :
    d.source = d'.source := by
  obtain ⟨name, init⟩ := d
  obtain ⟨name', init'⟩ := d'
  obtain ⟨rfl, init_like⟩ := h
  cases init_like with
  | none => rfl
  | some he => simp only [Declarator.source, he.source_eq]

theorem Declaration.Like.source_eq {d d' : Declaration} (h : d.Like .positions d') :
    d.source = d'.source := by
  obtain ⟨type, declarators⟩ := d
  obtain ⟨type', declarators'⟩ := d'
  have declarators_eq := map_eq_of_forall₂ h.declarators Declarator.Like.source_eq
  have type_like : Option.Rel Likeness.positions.type type type' := h.type
  cases type_like with
  | none => simp only [Declaration.source, declarators_eq]
  | some named =>
    simp only [Declaration.source, Likeness.name_eq named, declarators_eq]

theorem Stmt.Like.headerSource_eq {s s' : Stmt} (h : s.Like .positions s') (lines : List Line) :
    s.headerSource lines = s'.headerSource lines := by
  cases h with
  | declare hd => exact hd.source_eq
  | expr hv => exact hv.source_eq
  | _ => rfl

mutual

theorem Stmt.Like.lines_eq :
    ∀ {s s' : Stmt}, s.Like .positions s' → ∀ depth, s.lines depth = s'.lines depth
  | .declare d, _, .declare hd, depth => by
    simp only [Stmt.lines, hd.source_eq]
  | .expr value, _, .expr hv, depth => by
    simp only [Stmt.lines, hv.source_eq]
  | .ret none, _, .ret .none, depth => rfl
  | .ret (some value), _, .ret (.some hv), depth => by
    simp only [Stmt.lines, hv.source_eq]
  | .branch cond onTrue none, _, .branch hc ht .none, depth => by
    simp only [Stmt.lines, hc.source_eq, Stmt.linesOfAll_eq_of_like ht]
  | .branch cond onTrue (some onFalse), _, .branch hc ht (.some hf), depth => by
    simp only [Stmt.lines, hc.source_eq, Stmt.linesOfAll_eq_of_like ht,
      Stmt.linesOfAll_eq_of_like hf]
  | .forLoop none cond step body, _, .forLoop .none hc hs hb, depth => by
    simp only [Stmt.lines, optionalSource_eq_of_like hc, Expr.listSource_eq_of_like hs,
      Stmt.linesOfAll_eq_of_like hb]
  | .forLoop (some init) cond step body, _, .forLoop (.some hi) hc hs hb, depth => by
    simp only [Stmt.lines, hi.headerSource_eq, hi.lines_eq, optionalSource_eq_of_like hc,
      Expr.listSource_eq_of_like hs, Stmt.linesOfAll_eq_of_like hb]
  | .whileLoop cond body, _, .whileLoop hc hb, depth => by
    simp only [Stmt.lines, hc.source_eq, Stmt.linesOfAll_eq_of_like hb]
  | .foreachLoop type name collection body, _, .foreachLoop _ named hc hb, depth => by
    simp only [Stmt.lines, Likeness.name_eq named, hc.source_eq, Stmt.linesOfAll_eq_of_like hb]
  | .block body, _, .block hb, depth => by
    simp only [Stmt.lines, Stmt.linesOfAll_eq_of_like hb]
  | .breakLoop, _, .breakLoop, _ => rfl
  | .continueLoop, _, .continueLoop, _ => rfl
termination_by structural s => s

theorem Stmt.linesOfAll_eq_of_like :
    ∀ {b b' : List Stmt}, List.Forall₂ (Stmt.Like .positions) b b' →
      ∀ depth, Stmt.linesOfAll depth b = Stmt.linesOfAll depth b'
  | [], _, .nil, _ => rfl
  | s :: rest, _, .cons hs hr, depth => by
    simp only [Stmt.linesOfAll, hs.lines_eq, Stmt.linesOfAll_eq_of_like hr]
termination_by structural b => b

end

/-! ## Methods -/

theorem Attribute.Like.source_eq {a a' : Attribute} (h : a.Like .positions a') :
    a.source = a'.source := by
  obtain ⟨name, arguments⟩ := a
  obtain ⟨name', arguments'⟩ := a'
  obtain ⟨rfl, arguments_like⟩ := h
  have list_eq := Expr.listSource_eq_of_like arguments_like
  cases arguments_like with
  | nil => rfl
  | cons => simp only [Attribute.source, list_eq]

theorem Attribute.sources_eq_of_like {attributes attributes' : List Attribute}
    (h : List.Forall₂ (Attribute.Like .positions) attributes attributes') :
    Attribute.sources attributes = Attribute.sources attributes' := by
  rw [Attribute.sources, Attribute.sources, map_eq_of_forall₂ h Attribute.Like.source_eq]

theorem Parameter.Like.source_eq {p p' : Parameter} (h : p.Like .positions p') :
    p.source = p'.source := by
  obtain ⟨attributes, passing, type, name⟩ := p
  obtain ⟨attributes', passing', type', name'⟩ := p'
  obtain ⟨attributes_like, rfl, named, rfl⟩ := h
  have name_eq : type.name = type'.name := named
  have attributes_eq := Attribute.sources_eq_of_like attributes_like
  cases attributes_like with
  | nil => simp only [Parameter.source, name_eq]
  | cons => simp only [Parameter.source, name_eq, attributes_eq]

/-- Methods that differ in nothing but positions have the same source text. -/
theorem Method.Like.source_eq {m m' : Method} (h : m.Like .positions m') :
    m.source = m'.source := by
  obtain ⟨attributes, returnType, name, parameters, body⟩ := m
  obtain ⟨attributes', returnType', name', parameters', body'⟩ := m'
  obtain ⟨attributes_like, named, rfl, parameters_like, body_like⟩ := h
  have name_eq : returnType.name = returnType'.name := named
  have parameters_eq := map_eq_of_forall₂ parameters_like Parameter.Like.source_eq
  have body_eq : (Stmt.block body).lines 0 = (Stmt.block body').lines 0 :=
    Stmt.Like.lines_eq (.block body_like) 0
  have attributes_eq := Attribute.sources_eq_of_like attributes_like
  cases attributes_like with
  | nil =>
    simp only [Method.source, Method.lines, Method.signature, name_eq, parameters_eq, body_eq]
  | cons =>
    simp only [Method.source, Method.lines, Method.signature, name_eq, parameters_eq, body_eq,
      attributes_eq]

end ShaderLowering
