import ShaderLowering.Proofs.Lowering.Outcome
import ShaderLowering.Proofs.Names.MemberTable
import ShaderLowering.Proofs.Source.Positions

/-!
# Positions and spellings

Two methods that differ in positions, and in how they write the types that they mean, are
lowered alike.  Neither what is generated nor what is captured depends on where anything
stands in the source, or on which of several host names of one shader type is used.

The proof runs both methods side by side, from states that are alike: with one scope and
one list of captures, and with locations that stand for one another.  What the two
lowerings are given, a type map and a resolver, has to give like results for like
questions; that is `LoweringContext.Respects`, and a member table does, because it looks
at the names in a path only.

## Main definitions

* `LoweringState.Like`, `RunAlike` — states and steps that are alike.
* `LoweringContext.Respects` — what a lowering is given answers alike.
* `Likeness.respelled` — types with one counterpart stand for one another.

## Main statements

* `runAlike_expr`, `runAlike_stmt`, `lower_alike` — trees that are alike are lowered alike.
* `MemberTable.respects` — tables answer alike.
* `lower_respelled` — positions and spellings do not matter.
-/

namespace ShaderLowering

/-! ## States and steps that are alike -/

section Steps

/-- States that differ in the last position seen, and in nothing that it does not matter
for. -/
structure LoweringState.Like (L : Likeness) (s s' : LoweringState) : Prop where
  location : L.span s.location s'.location
  scope_eq : s.scope = s'.scope
  captures_eq : s.captures = s'.captures
  method_eq : s.method = s'.method

/-- From states that are alike, two steps end alike and leave states that are alike. -/
def RunAlike (L : Likeness) {α β : Type} (Q : α → β → Prop) (x : LowerM α) (y : LowerM β) :
    Prop :=
  ∀ ⦃s s'⦄, s.Like L s' → ResultsAlike L Q (outcome x s).1 (outcome y s').1 ∧
    (outcome x s).2.Like L (outcome y s').2

namespace RunAlike

variable {L : Likeness} {α β γ δ : Type} {P : α → β → Prop} {Q : γ → δ → Prop}

theorem pure {a : α} {b : β} (h : P a b) : RunAlike L P (Pure.pure a) (Pure.pure b) :=
  fun _ _ alike => ⟨.ok h, alike⟩

/-- Steps behind steps end alike, if they do so for related results. -/
theorem bind {x : LowerM α} {y : LowerM β} {f : α → LowerM γ} {g : β → LowerM δ}
    (hx : RunAlike L P x y) (hf : ∀ a b, P a b → RunAlike L Q (f a) (g b)) :
    RunAlike L Q (x >>= f) (y >>= g) := by
  intro s s' alike
  obtain ⟨results, states⟩ := hx alike
  rcases first : outcome x s with ⟨r, t⟩
  rcases first' : outcome y s' with ⟨r', t'⟩
  rw [first, first'] at results states
  cases results with
  | ok related =>
    rw [outcome_bind_ok first, outcome_bind_ok first']
    exact hf _ _ related states
  | error errors =>
    rw [outcome_bind_error first, outcome_bind_error first']
    exact ⟨.error errors, states⟩

/-- A frame of its own is opened and closed on both sides. -/
theorem inFrame {x : LowerM α} {y : LowerM β} (h : RunAlike L P x y) :
    RunAlike L P (LowerM.inFrame x) (LowerM.inFrame y) := by
  intro s s' alike
  have pushed : LoweringState.Like L { s with scope := s.scope.push }
      { s' with scope := s'.scope.push } :=
    ⟨alike.location, congrArg Scope.push alike.scope_eq, alike.captures_eq, alike.method_eq⟩
  obtain ⟨results, states⟩ := h pushed
  rw [LowerM.outcome_inFrame, LowerM.outcome_inFrame]
  exact ⟨results, states.location, congrArg Scope.pop states.scope_eq, states.captures_eq,
    states.method_eq⟩

theorem declare (name : String) :
    RunAlike L (fun _ _ => True) (LowerM.declare name) (LowerM.declare name) := by
  intro s s' alike
  refine ⟨.ok trivial, alike.location, ?_, alike.captures_eq, alike.method_eq⟩
  exact congrArg (Scope.declare · name) alike.scope_eq

/-- One member is captured on both sides. -/
theorem capture (cx : LoweringContext) (member : Member) :
    RunAlike L Eq (cx.capture member) (cx.capture member) := by
  intro s s' alike
  obtain ⟨journal, captured⟩ := cx.outcome_capture member s
  obtain ⟨journal', captured'⟩ := cx.outcome_capture member s'
  rw [captured, captured']
  refine ⟨.ok rfl, alike.location, alike.scope_eq, ?_, alike.method_eq⟩
  exact congrArg (Captures.insert · (member.captureName cx.capturePrefix) member)
    alike.captures_eq

end RunAlike

theorem RunAlike.answer {L : Likeness} (cx : LoweringContext)
    {r r' : Except LoweringError Resolution} (h : ResultsAlike L (Resolution.Like L) r r') :
    RunAlike L (Expr.Like L) (cx.answer r) (cx.answer r') := by
  cases h with
  | ok resolutions =>
    cases resolutions with
    | capture member =>
      refine (RunAlike.capture cx member).bind fun name _ same => ?_
      subst same
      exact .pure (.ident name)
    | direct replacements => exact .pure replacements
  | error errors => exact fun _ _ alike => ⟨.error errors, alike⟩

end Steps

/-! ## Contexts that answer alike -/

/-- What a lowering is given, and likenesses of its sources and its results: like questions
about a source, or about what it has become so far, have like answers. -/
structure LoweringContext.Respects (cx : LoweringContext) (L M : Likeness) : Prop where
  unknown : M.span .unknown .unknown
  span : ∀ {span span' : Span}, L.span span span' → M.span span span'
  /-- The last known positions stand for one another when the last positions do. -/
  last : ∀ {span span' before before' : Span}, M.span span span' → M.span before before' →
    M.span (if span.isKnown then span else before) (if span'.isKnown then span' else before')
  typeSpan : ∀ {type type' : TypeName}, L.type type type' → M.span type.span type'.span
  mapped : ∀ {type type' : TypeName}, L.type type type' →
    ResultsAlike M M.type (cx.types.map type) (cx.types.map type')
  named : ∀ {type type' : TypeName}, M.type type type' → type.name = type'.name
  answered : ∀ {target target' : Expr} (name : String) {span span' : Span}
    (visible : String → Bool), target.Like M target' → M.span span span' →
      ResultsAlike M (Resolution.Like M) (cx.resolver ⟨target, name, span⟩ visible)
        (cx.resolver ⟨target', name, span'⟩ visible)

section Lowering

open LowerM

variable {cx : LoweringContext} {L M : Likeness}

namespace LoweringContext.Respects

/-- Positions that stand for one another are passed by. -/
theorem past (h : cx.Respects L M) {s s' : LoweringState} {span span' : Span}
    (alike : s.Like M s') (spans : M.span span span') : (s.past span).Like M (s'.past span') := by
  constructor
  case location =>
    rw [s.location_past, s'.location_past]
    exact h.last spans alike.location
  case scope_eq => rw [s.scope_past, s'.scope_past, alike.scope_eq]
  case captures_eq => rw [s.captures_past, s'.captures_past, alike.captures_eq]
  case method_eq => rw [s.method_past, s'.method_past, alike.method_eq]

theorem passBy (h : cx.Respects L M) {span span' : Span} (spans : L.span span span') :
    RunAlike M (fun _ _ => True) (LowerM.passBy span) (LowerM.passBy span') :=
  fun _ _ alike => ⟨.ok trivial, h.past alike (h.span spans)⟩

/-- A construct is refused on both sides, with texts of its own. -/
theorem refuse (h : cx.Respects L M) {α β : Type} {Q : α → β → Prop} (construct : Construct)
    (source source' : String) {span span' : Span} (spans : M.span span span') :
    RunAlike M Q (LowerM.refuse construct source span) (LowerM.refuse construct source' span') := by
  intro s s' alike
  rw [outcome_refuse, outcome_refuse, alike.method_eq]
  exact ⟨.error (.unsupported _ _ _ _ (h.last spans alike.location)), alike⟩

theorem mapType (h : cx.Respects L M) {type type' : TypeName} (types : L.type type type') :
    RunAlike M M.type (cx.mapType type) (cx.mapType type') := by
  intro s s' alike
  rw [cx.outcome_mapType, cx.outcome_mapType]
  exact ⟨h.mapped types, h.past alike (h.typeSpan types)⟩

/-- Accesses with targets that are alike are resolved alike. -/
theorem resolve (h : cx.Respects L M) {target target' : Expr} (name : String)
    {span span' : Span} (targets : target.Like M target') (spans : M.span span span') :
    RunAlike M (Expr.Like M) (cx.resolve ⟨target, name, span⟩)
      (cx.resolve ⟨target', name, span'⟩) := by
  intro s s' alike
  rw [cx.outcome_resolve, cx.outcome_resolve, ← alike.scope_eq]
  exact RunAlike.answer cx (h.answered name _ targets spans) alike

end LoweringContext.Respects

/-! ### Expressions -/

mutual

/-- Expressions that are alike are lowered alike. -/
theorem runAlike_expr (h : cx.Respects L M) : ∀ (e : Expr) {e' : Expr}, e.Like L e' →
    RunAlike M (Expr.Like M) (e.visit cx.rules) (e'.visit cx.rules)
  | .literal (.string _), _, .literal _ | .literal .null, _, .literal _
  | .lambda .., _, .lambda .. =>
    h.refuse _ _ _ h.unknown
  | .literal (.bool _), _, .literal _ | .literal (.int _), _, .literal _
  | .literal (.uint _), _, .literal _ | .literal (.float _), _, .literal _
  | .literal (.double _), _, .literal _ => .pure (.literal _)
  | .ident _, _, .ident name => .pure (.ident name)
  | .member target _ _, _, .member name ht spans => by
    rw [visit_member, visit_member]
    refine (h.passBy spans).bind fun _ _ _ => ?_
    exact (runAlike_expr h target ht).bind fun _ _ targets => h.resolve name targets (h.span spans)
  | .call callee args, _, .call hc ha => by
    refine (runAlike_expr h callee hc).bind fun _ _ callees => ?_
    exact (runAlike_exprs h args ha).bind fun _ _ arguments => .pure (.call callees arguments)
  | .index target position, _, .index ht hp => by
    refine (runAlike_expr h target ht).bind fun _ _ targets => ?_
    exact (runAlike_expr h position hp).bind fun _ _ positions => .pure (.index targets positions)
  | .cast _ operand, _, .cast type ho => by
    rw [visit_cast, visit_cast]
    refine (runAlike_expr h operand ho).bind fun _ _ operands => ?_
    exact (h.mapType type).bind fun _ _ types => .pure (.cast types operands)
  | .creation _ args, _, .creation type ha => by
    rw [visit_creation, visit_creation]
    refine (runAlike_exprs h args ha).bind fun _ _ arguments => ?_
    refine (h.mapType type).bind fun _ _ types => ?_
    cases arguments with
    | nil => exact .pure (.cast types (.literal _))
    | cons first others =>
      rw [h.named types]
      exact .pure (.call (.ident _) (.cons first others))
  | .creationWith .., _, .creationWith type .. => h.refuse _ _ _ (h.typeSpan type)
  | .defaultOf _, _, .defaultOf type => by
    rw [visit_defaultOf, visit_defaultOf]
    exact (h.mapType type).bind fun _ _ types => .pure (.cast types (.literal _))
  -- No arguments are lowered in front of the type, so both spellings are one step.
  | .defaultOf _, _, .defaultAsCreation _ type => by
    rw [visit_defaultOf, visit_creation, Expr.visitAll, pure_bind]
    exact (h.mapType type).bind fun _ _ types => .pure (.cast types (.literal _))
  | .creation _ [], _, .creationAsDefault _ type => by
    rw [visit_defaultOf, visit_creation, Expr.visitAll, pure_bind]
    exact (h.mapType type).bind fun _ _ types => .pure (.cast types (.literal _))
  | .unary op operand, _, .unary _ ho =>
    (runAlike_expr h operand ho).bind fun _ _ operands => .pure (.unary op operands)
  | .binary op lhs rhs, _, .binary _ hl hr => by
    refine (runAlike_expr h lhs hl).bind fun _ _ left => ?_
    exact (runAlike_expr h rhs hr).bind fun _ _ right => .pure (.binary op left right)
  | .assign op target value, _, .assign _ ht hv => by
    refine (runAlike_expr h target ht).bind fun _ _ targets => ?_
    exact (runAlike_expr h value hv).bind fun _ _ values => .pure (.assign op targets values)
  | .conditional cond onTrue onFalse, _, .conditional hc ht hf => by
    refine (runAlike_expr h cond hc).bind fun _ _ conds => ?_
    refine (runAlike_expr h onTrue ht).bind fun _ _ whenTrue => ?_
    exact (runAlike_expr h onFalse hf).bind fun _ _ whenFalse =>
      .pure (.conditional conds whenTrue whenFalse)
  | .paren inner, _, .paren hi =>
    (runAlike_expr h inner hi).bind fun _ _ inners => .pure (.paren inners)
termination_by structural e => e

theorem runAlike_exprs (h : cx.Respects L M) : ∀ (es : List Expr) {es' : List Expr},
    List.Forall₂ (Expr.Like L) es es' →
      RunAlike M (List.Forall₂ (Expr.Like M)) (Expr.visitAll cx.rules es)
        (Expr.visitAll cx.rules es')
  | [], _, .nil => .pure .nil
  | e :: es, _, .cons he hes => by
    refine (runAlike_expr h e he).bind fun _ _ first => ?_
    exact (runAlike_exprs h es hes).bind fun _ _ others => .pure (.cons first others)
termination_by structural es => es

end

theorem runAlike_optional (h : cx.Respects L M) {e e' : Option Expr}
    (alike : Option.Rel (Expr.Like L) e e') :
    RunAlike M (Option.Rel (Expr.Like M)) (Expr.visitOption cx.rules e)
      (Expr.visitOption cx.rules e') := by
  cases alike with
  | none => exact .pure .none
  | some he => exact (runAlike_expr h _ he).bind fun _ _ results => .pure (.some results)

/-! ### Statements -/

theorem runAlike_declarator (h : cx.Respects L M) {d d' : Declarator} (alike : d.Like L d') :
    RunAlike M (Declarator.Like M) (d.visit cx.rules) (d'.visit cx.rules) := by
  rw [visit_declarator, visit_declarator, ← alike.name_eq]
  refine (runAlike_optional h alike.init).bind fun _ _ inits => ?_
  exact (RunAlike.declare d.name).bind fun _ _ _ => .pure ⟨rfl, inits⟩

theorem runAlike_declarators (h : cx.Respects L M) {ds ds' : List Declarator}
    (alike : List.Forall₂ (Declarator.Like L) ds ds') :
    RunAlike M (List.Forall₂ (Declarator.Like M)) (Declarator.visitAll cx.rules ds)
      (Declarator.visitAll cx.rules ds') := by
  induction alike with
  | nil => exact .pure .nil
  | cons hd _ ih =>
    refine (runAlike_declarator h hd).bind fun _ _ first => ?_
    exact ih.bind fun _ _ others => .pure (.cons first others)

theorem runAlike_declaration (h : cx.Respects L M) {d d' : Declaration} (alike : d.Like L d') :
    RunAlike M (Declaration.Like M) (d.visit cx.rules) (d'.visit cx.rules) := by
  obtain ⟨type, ds⟩ := d
  obtain ⟨type', ds'⟩ := d'
  obtain ⟨types, declarators⟩ := alike
  cases types with
  | none => exact h.refuse _ _ _ h.unknown
  | some types =>
    rw [visit_typed, visit_typed]
    refine (runAlike_declarators h declarators).bind fun _ _ results => ?_
    exact (h.mapType types).bind fun _ _ mapped => .pure ⟨.some mapped, results⟩

mutual

/-- Statements that are alike are lowered alike. -/
theorem runAlike_stmt (h : cx.Respects L M) : ∀ (s : Stmt) {s' : Stmt}, s.Like L s' →
    RunAlike M (Stmt.Like M) (s.visit cx.rules) (s'.visit cx.rules)
  | .declare _, _, .declare hd =>
    (runAlike_declaration h hd).bind fun _ _ declarations => .pure (.declare declarations)
  | .expr _, _, .expr hv => (runAlike_expr h _ hv).bind fun _ _ values => .pure (.expr values)
  | .ret _, _, .ret hv => (runAlike_optional h hv).bind fun _ _ values => .pure (.ret values)
  | .branch cond onTrue onFalse, _, .branch hc ht hf => by
    refine (runAlike_expr h cond hc).bind fun _ _ conds => ?_
    refine (runAlike_stmts h onTrue ht).inFrame.bind fun _ _ whenTrue => ?_
    exact (runAlike_else h onFalse hf).bind fun _ _ whenFalse =>
      .pure (.branch conds whenTrue whenFalse)
  | .forLoop init _ step body, _, .forLoop hi hc hs hb => by
    rw [visit_forLoop, visit_forLoop]
    refine .inFrame ((runAlike_init h init hi).bind fun _ _ inits => ?_)
    refine (runAlike_optional h hc).bind fun _ _ conds => ?_
    refine (runAlike_exprs h step hs).bind fun _ _ steps => ?_
    exact (runAlike_stmts h body hb).inFrame.bind fun _ _ bodies =>
      .pure (.forLoop inits conds steps bodies)
  | .whileLoop cond body, _, .whileLoop hc hb => by
    refine (runAlike_expr h cond hc).bind fun _ _ conds => ?_
    exact (runAlike_stmts h body hb).inFrame.bind fun _ _ bodies =>
      .pure (.whileLoop conds bodies)
  | .foreachLoop .., _, .foreachLoop _ type _ _ => h.refuse _ _ _ (h.typeSpan type)
  | .block body, _, .block hb =>
    (runAlike_stmts h body hb).inFrame.bind fun _ _ bodies => .pure (.block bodies)
  | .breakLoop, _, .breakLoop => .pure .breakLoop
  | .continueLoop, _, .continueLoop => .pure .continueLoop
termination_by structural s => s

theorem runAlike_stmts (h : cx.Respects L M) : ∀ (b : List Stmt) {b' : List Stmt},
    List.Forall₂ (Stmt.Like L) b b' →
      RunAlike M (List.Forall₂ (Stmt.Like M)) (Stmt.visitAll cx.rules b)
        (Stmt.visitAll cx.rules b')
  | [], _, .nil => .pure .nil
  | s :: rest, _, .cons hs hr => by
    refine (runAlike_stmt h s hs).bind fun _ _ first => ?_
    exact (runAlike_stmts h rest hr).bind fun _ _ others => .pure (.cons first others)
termination_by structural b => b

theorem runAlike_else (h : cx.Respects L M) :
    ∀ (b : Option (List Stmt)) {b' : Option (List Stmt)},
      Option.Rel (List.Forall₂ (Stmt.Like L)) b b' →
        RunAlike M (Option.Rel (List.Forall₂ (Stmt.Like M))) (Stmt.visitElse cx.rules b)
          (Stmt.visitElse cx.rules b')
  | none, _, .none => .pure .none
  | some body, _, .some hb =>
    (runAlike_stmts h body hb).inFrame.bind fun _ _ bodies => .pure (.some bodies)
termination_by structural b => b

theorem runAlike_init (h : cx.Respects L M) : ∀ (init : Option Stmt) {init' : Option Stmt},
    Option.Rel (Stmt.Like L) init init' →
      RunAlike M (Option.Rel (Stmt.Like M)) (Stmt.visitInit cx.rules init)
        (Stmt.visitInit cx.rules init')
  | none, _, .none => .pure .none
  | some init, _, .some hi => (runAlike_stmt h init hi).bind fun _ _ inits => .pure (.some inits)
termination_by structural init => init

end

/-! ### Methods -/

/-- Attributes are dropped, whatever is in them. -/
theorem runAlike_parameter (h : cx.Respects L M) {p p' : Parameter} (alike : p.Like L p') :
    RunAlike M (Parameter.Like M) (p.visit cx.rules) (p'.visit cx.rules) := by
  rw [visit_parameter, visit_parameter, ← alike.name_eq, ← alike.passing_eq]
  refine (h.mapType alike.type).bind fun _ _ types => ?_
  exact (RunAlike.declare p.name).bind fun _ _ _ => .pure ⟨.nil, rfl, types, rfl⟩

theorem runAlike_parameters (h : cx.Respects L M) {ps ps' : List Parameter}
    (alike : List.Forall₂ (Parameter.Like L) ps ps') :
    RunAlike M (List.Forall₂ (Parameter.Like M)) (Parameter.visitAll cx.rules ps)
      (Parameter.visitAll cx.rules ps') := by
  induction alike with
  | nil => exact .pure .nil
  | cons hp _ ih =>
    refine (runAlike_parameter h hp).bind fun _ _ first => ?_
    exact ih.bind fun _ _ others => .pure (.cons first others)

theorem runAlike_parts (h : cx.Respects L M) {m m' : Method} (alike : m.Like L m') :
    RunAlike M (Method.Like M) (cx.visitParts m) (cx.visitParts m') := by
  refine (runAlike_parameters h alike.parameters).bind fun _ _ parameters => ?_
  refine (runAlike_stmts h m.body alike.body).inFrame.bind fun _ _ bodies => ?_
  refine (h.mapType alike.returnType).bind fun _ _ returnTypes => ?_
  exact .pure ⟨.nil, returnTypes, alike.name_eq, parameters, bodies⟩

/-- Methods that are alike are lowered alike, and have the same captures. -/
theorem lower_alike (h : cx.Respects L M) {m m' : Method} (alike : m.Like L m') :
    ResultsAlike M (fun r r' => r.method.Like M r'.method ∧ r.captures = r'.captures)
      (cx.lower m) (cx.lower m') := by
  have entered : (LoweringState.initial.entering m).Like M (LoweringState.initial.entering m') :=
    ⟨h.unknown, rfl, rfl, alike.name_eq⟩
  obtain ⟨results, states⟩ := runAlike_parts h alike entered
  rw [cx.lower_eq_match, cx.lower_eq_match, outcome_visit_method, outcome_visit_method]
  rcases walk : outcome (cx.visitParts m) (LoweringState.initial.entering m) with ⟨r, s⟩
  rcases walk' : outcome (cx.visitParts m') (LoweringState.initial.entering m') with ⟨r', s'⟩
  rw [walk, walk'] at results states
  cases results with
  | ok methods => exact .ok ⟨methods, states.captures_eq⟩
  | error errors => exact .error errors

end Lowering

/-! ## Positions and spellings do not matter -/

/-- Types with one counterpart stand for one another, and so do positions. -/
def Likeness.respelled (types : TypeMap) : Likeness where
  span _ _ := True
  type type type' := type.name = type'.name ∨
    ∃ shader, types.lookup type.name = some shader ∧ types.lookup type'.name = some shader
  zeros := False

/-- Types that stand for one another are mapped to one name, or cannot be mapped for one
reason. -/
theorem TypeMap.map_alike (types : TypeMap) {type type' : TypeName}
    (h : (Likeness.respelled types).type type type') :
    ResultsAlike .positions Likeness.positions.type (types.map type) (types.map type') := by
  have lookup_eq : types.lookup type.name = types.lookup type'.name := by
    rcases h with name_eq | ⟨shader, found, found'⟩
    · rw [name_eq]
    · rw [found, found']
  rw [map, map, ← lookup_eq]
  cases found : types.lookup type.name with
  | some shader => exact .ok rfl
  | none =>
    rcases h with name_eq | ⟨shader, found', -⟩
    · rw [name_eq]
      exact .error (.unmappedType _ trivial)
    · rw [found] at found'
      cases found'

namespace MemberTable

variable {M : Likeness}

theorem startsLocal_eq_of_like {target target' : Expr} (visible : String → Bool)
    (h : target.Like M target') :
    startsLocal visible target = startsLocal visible target' := by
  have path_eq := h.path?_eq
  cases h with
  | ident name => rfl
  | _ => simp only [startsLocal, path_eq]

/-- What a table says of a path is like itself. -/
theorem lookup_alike (t : MemberTable) {path name : String}
    {answer : Except LoweringError Resolution} (h : t.lookup path name = some answer) :
    ResultsAlike M (Resolution.Like M) answer answer := by
  rcases t.lookup_cases h with rfl | ⟨member, -, rfl⟩ | ⟨replacement, -, rfl⟩
  · exact .error (.unresolved _ _)
  · exact .ok (.capture member)
  · exact .ok (.direct (.ident replacement))

/-- A table looks at nothing but names. -/
theorem resolve_alike (t : MemberTable) {a a' : Access} (visible : String → Bool)
    (targets : a.target.Like M a'.target) (name_eq : a.name = a'.name)
    (spans : M.span a.span a'.span) :
    ResultsAlike M (Resolution.Like M) (t.resolve a visible) (t.resolve a' visible) := by
  have local_eq := startsLocal_eq_of_like visible targets
  have path_eq : a.targetPath? = a'.targetPath? := targets.path?_eq
  have renamed : ResultsAlike M (Resolution.Like M) (.ok (.direct (t.renamed a)))
      (.ok (.direct (t.renamed a'))) := by
    rw [MemberTable.renamed, MemberTable.renamed, ← name_eq]
    exact .ok (.direct (.member _ targets spans))
  cases hl : startsLocal visible a.target with
  | true =>
    rw [t.resolve_of_local hl, t.resolve_of_local (local_eq ▸ hl)]
    exact renamed
  | false =>
    cases hp : a.targetPath? with
    | none =>
      rw [t.resolve_of_no_path hp, t.resolve_of_no_path (path_eq ▸ hp)]
      exact renamed
    | some path =>
      rw [t.resolve_of_path hl hp, t.resolve_of_path (local_eq ▸ hl) (path_eq ▸ hp), ← name_eq]
      cases found : t.lookup path a.name with
      | none => exact renamed
      | some answer => exact t.lookup_alike found

/-- Tables answer alike. -/
theorem respects (t : MemberTable) (types : TypeMap) (capturePrefix : String) :
    (t.context types capturePrefix).Respects (.respelled types) .positions where
  unknown := trivial
  span _ := trivial
  last _ _ := trivial
  typeSpan _ := trivial
  mapped h := types.map_alike h
  named h := h
  answered _ _ _ visible targets spans := t.resolve_alike visible targets rfl spans

end MemberTable

/-- **Positions, and the spelling of types, do not matter.**  Two methods that differ in
positions, and in which of several host names they use for one shader type, are both
lowered or both refused, with members resolved by any tables.  If they are lowered, the
trees differ in positions only, and the source texts and the captures are the same; if
they are refused, the errors differ in positions and quoted texts only. -/
theorem lower_respelled (t : MemberTable) (types : TypeMap) (capturePrefix : String)
    (m m' : Method) (alike : m.Like (.respelled types) m') :
    ResultsAlike .positions
      (fun r r' => r.method.Like .positions r'.method ∧ r.source = r'.source ∧
        r.captures = r'.captures)
      ((t.context types capturePrefix).lower m) ((t.context types capturePrefix).lower m') := by
  refine (lower_alike (t.respects types capturePrefix) alike).imp ?_
  intro r r' lowered
  obtain ⟨methods, captures_eq⟩ := lowered
  exact ⟨methods, methods.source_eq, captures_eq⟩

/-- The member that `tinted` reads. -/
def tint : Member :=
  ⟨"Settings", "Tint", .named "Float3", .field⟩

/-- Two host names of one shader type. -/
def tintedTypes : TypeMap :=
  (TypeMap.empty.register "Float3" "float3").register "Vector3" "float3"

/-- A method that scales a colour by `tint`, and reads a field of it, with a name for
colours and a place where all of this is written. -/
def tinted (color : TypeName) (place : Span) : Method where
  attributes := [⟨"Tint", [.defaultOf color]⟩]
  returnType := color
  name := "Tinted"
  parameters := [.plain color "v"]
  body := [.declare (.single color "k" (some (.member (.ident "Settings") "Tint" place))),
    .ret (some (.creation color [.binary .mul (.ident "k") (.member (.ident "v") "X" place)]))]

/-- What becomes of `tinted`. -/
def tintedShader (color : TypeName) (place : Span) : Method where
  attributes := []
  returnType := color
  name := "Tinted"
  parameters := [.plain color "v"]
  body := [.declare (.single color "k" (some (.ident "__Settings__Tint"))),
    .ret (some (.call (.ident color.name)
      [.binary .mul (.ident "k") (.member (.ident "v") "x" place)]))]

/-- Lowering `tinted` with two spellings, at a known place and at an unknown one. -/
theorem lower_respelled_tinted :
    let cx := (MemberTable.vectorFields.addStatic tint).context tintedTypes "__"
    let first := tintedShader ⟨"float3", ⟨1, 8⟩⟩ ⟨3, 12⟩
    let second := tintedShader (.named "float3") .unknown
    cx.lower (tinted ⟨"Float3", ⟨1, 8⟩⟩ ⟨3, 12⟩) = .ok ⟨first, ⟨[⟨"__Settings__Tint", tint⟩]⟩⟩ ∧
      cx.lower (tinted (.named "Vector3") .unknown)
        = .ok ⟨second, ⟨[⟨"__Settings__Tint", tint⟩]⟩⟩ ∧
      first.Like .positions second ∧ first.source = second.source := by
  intro cx first second
  have lowered : cx.lower (tinted ⟨"Float3", ⟨1, 8⟩⟩ ⟨3, 12⟩)
      = .ok ⟨first, ⟨[⟨"__Settings__Tint", tint⟩]⟩⟩ := by rfl
  have lowered' : cx.lower (tinted (.named "Vector3") .unknown)
      = .ok ⟨second, ⟨[⟨"__Settings__Tint", tint⟩]⟩⟩ := by rfl
  have color : (Likeness.respelled tintedTypes).type ⟨"Float3", ⟨1, 8⟩⟩ (.named "Vector3") :=
    .inr ⟨"float3", by decide, by decide⟩
  have alike : (tinted ⟨"Float3", ⟨1, 8⟩⟩ ⟨3, 12⟩).Like (.respelled tintedTypes)
      (tinted (.named "Vector3") .unknown) := by
    constructor
    case attributes => exact .cons ⟨rfl, .cons (.defaultOf color) .nil⟩ .nil
    case returnType => exact color
    case name_eq => rfl
    case parameters => exact .cons ⟨.nil, rfl, color, rfl⟩ .nil
    case body =>
      have read : (Expr.member (.ident "Settings") "Tint" ⟨3, 12⟩).Like (.respelled tintedTypes)
          (.member (.ident "Settings") "Tint" .unknown) := .member "Tint" (.ident _) trivial
      have field : (Expr.member (.ident "v") "X" ⟨3, 12⟩).Like (.respelled tintedTypes)
          (.member (.ident "v") "X" .unknown) := .member "X" (.ident _) trivial
      refine .cons (.declare ⟨.some color, .cons ⟨rfl, .some read⟩ .nil⟩) (.cons ?_ .nil)
      exact .ret (.some (.creation color (.cons (.binary .mul (.ident "k") field) .nil)))
  have results := lower_respelled (MemberTable.vectorFields.addStatic tint) tintedTypes "__"
    _ _ alike
  change ResultsAlike _ _ (cx.lower _) (cx.lower _) at results
  rw [lowered, lowered'] at results
  cases results with
  | ok same => exact ⟨lowered, lowered', same.1, same.2.1⟩

end ShaderLowering
