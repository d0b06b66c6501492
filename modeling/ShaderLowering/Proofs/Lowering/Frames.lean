import ShaderLowering.Proofs.Lowering.Visibility
import ShaderLowering.Proofs.Names.MemberTable

/-!
# Frames on every way out

A step that fails ends where it stands, and the frames that were opened on the way to
it have to be closed all the same.  Lowering an expression, a block or a statement that
declares nothing leaves the scope exactly as it was, whether it succeeds or fails at
any depth.  Lowering a parameter or a local declaration only adds names to the innermost
frame, and which names depends on how far it has come.

Two properties of steps carry the proof.  A step that keeps the scope can stand
anywhere; one that only declares names becomes one that keeps the scope when it is given
a frame of its own.

## Main definitions

* `LowerM.KeepsScope`, `LowerM.OnlyDeclares` — what a step does to the scope.
* `Fragment.isClosed` — the fragments that declare nothing for what follows them.
* `Declaration.Leaves` — how the lowering of a declaration ends, and the names that are
  declared then.

## Main statements

* `keepsScope_expr`, `keepsScope_stmt`, `onlyDeclares_block` — the parts of a method.
* `frames_lowerFragment` — the frames behind a fragment, from any state.
-/

namespace ShaderLowering

/-! ## Steps and the scope -/

namespace LowerM

variable {α β : Type}

/-- A step leaves the scope as it was, whether it succeeds or fails. -/
def KeepsScope (x : LowerM α) : Prop :=
  ∀ s, (outcome x s).2.scope = s.scope

/-- A step does nothing to the scope but declare names, whether it succeeds or fails. -/
def OnlyDeclares (x : LowerM α) : Prop :=
  ∀ s, ∃ names, (outcome x s).2.scope = s.scope.declareAll names

namespace KeepsScope

theorem pure (a : α) : KeepsScope (Pure.pure a) := fun _ => rfl

theorem bind {x : LowerM α} {f : α → LowerM β} (hx : KeepsScope x)
    (hf : ∀ a, KeepsScope (f a)) : KeepsScope (x >>= f) := by
  intro s
  have kept := hx s
  rcases h : outcome x s with ⟨e | a, t⟩ <;> rw [h] at kept
  · rw [outcome_bind_error h]
    exact kept
  · rw [outcome_bind_ok h]
    exact (hf a t).trans kept

/-- A result is put together behind a step. -/
theorem result {x : LowerM α} (hx : KeepsScope x) (f : α → β) :
    KeepsScope (x >>= fun a => Pure.pure (f a)) :=
  hx.bind fun a => pure (f a)

theorem refuse (construct : Construct) (source : String) (span : Span) :
    KeepsScope (LowerM.refuse construct source span : LowerM α) := fun _ => rfl

theorem passBy (span : Span) : KeepsScope (LowerM.passBy span) :=
  fun s => s.scope_past span

theorem mapType (cx : LoweringContext) (type : TypeName) : KeepsScope (cx.mapType type) := by
  intro s
  rw [cx.outcome_mapType]
  exact s.scope_past type.span

theorem resolve (cx : LoweringContext) (a : Access) : KeepsScope (cx.resolve a) := by
  intro s
  rcases h : cx.resolver a s.scope.contains with e | member | replacement
  · rw [cx.outcome_resolve_error h]
  · obtain ⟨journal, done⟩ := cx.outcome_resolve_capture h
    rw [done]
  · rw [cx.outcome_resolve_direct h]

theorem onlyDeclares {x : LowerM α} (hx : KeepsScope x) : OnlyDeclares x :=
  fun s => ⟨[], hx s⟩

end KeepsScope

namespace OnlyDeclares

theorem bind {x : LowerM α} {f : α → LowerM β} (hx : OnlyDeclares x)
    (hf : ∀ a, OnlyDeclares (f a)) : OnlyDeclares (x >>= f) := by
  intro s
  obtain ⟨names, added⟩ := hx s
  rcases h : outcome x s with ⟨e | a, t⟩ <;> rw [h] at added
  · rw [outcome_bind_error h]
    exact ⟨names, added⟩
  · obtain ⟨more, added'⟩ := hf a t
    rw [outcome_bind_ok h]
    refine ⟨names ++ more, ?_⟩
    rw [added', added, Scope.declareAll_append]

theorem result {x : LowerM α} (hx : OnlyDeclares x) (f : α → β) :
    OnlyDeclares (x >>= fun a => Pure.pure (f a)) :=
  hx.bind fun a => (KeepsScope.pure (f a)).onlyDeclares

theorem declare (name : String) : OnlyDeclares (LowerM.declare name) :=
  fun _ => ⟨[name], rfl⟩

/-- A frame of its own is closed on every way out, with the names in it. -/
theorem inFrame {x : LowerM α} (hx : OnlyDeclares x) : KeepsScope (LowerM.inFrame x) := by
  intro s
  obtain ⟨names, added⟩ := hx { s with scope := s.scope.push }
  rw [outcome_inFrame]
  simp only [added, Scope.pop_declareAll_push]

end OnlyDeclares

end LowerM

/-! ## The parts of a method -/

/-- Whether a statement is a local declaration. -/
def Stmt.isDeclaration : Stmt → Bool
  | .declare _ => true
  | _ => false

section Parts

open LowerM

variable (cx : LoweringContext)

mutual

/-- Lowering an expression keeps the scope. -/
theorem keepsScope_expr : ∀ e : Expr, KeepsScope (e.visit cx.rules)
  | .literal (.string _) | .literal .null | .lambda .. | .creationWith .. => .refuse _ _ _
  | .literal (.bool _) | .literal (.int _) | .literal (.uint _) | .literal (.float _)
  | .literal (.double _) | .ident _ => .pure _
  | .member target _ span =>
    (KeepsScope.passBy span).bind fun _ => (keepsScope_expr target).bind fun _ => .resolve cx _
  | .call callee args => (keepsScope_expr callee).bind fun _ => (keepsScope_exprs args).result _
  | .index target position =>
    (keepsScope_expr target).bind fun _ => (keepsScope_expr position).result _
  | .cast type operand =>
    (keepsScope_expr operand).bind fun _ => (KeepsScope.mapType cx type).result _
  | .creation type args =>
    (keepsScope_exprs args).bind fun args => (KeepsScope.mapType cx type).bind fun _ => by
      cases args <;> exact .pure _
  | .defaultOf type => (KeepsScope.mapType cx type).result _
  | .unary _ operand => (keepsScope_expr operand).result _
  | .binary _ lhs rhs => (keepsScope_expr lhs).bind fun _ => (keepsScope_expr rhs).result _
  | .assign _ target value =>
    (keepsScope_expr target).bind fun _ => (keepsScope_expr value).result _
  | .conditional cond onTrue onFalse =>
    (keepsScope_expr cond).bind fun _ => (keepsScope_expr onTrue).bind fun _ =>
      (keepsScope_expr onFalse).result _
  | .paren inner => (keepsScope_expr inner).result _
termination_by structural e => e

theorem keepsScope_exprs : ∀ es : List Expr, KeepsScope (Expr.visitAll cx.rules es)
  | [] => .pure _
  | e :: es => (keepsScope_expr e).bind fun _ => (keepsScope_exprs es).result _
termination_by structural es => es

end

theorem keepsScope_optional (e : Option Expr) : KeepsScope (Expr.visitOption cx.rules e) := by
  cases e with
  | none => exact .pure _
  | some e => exact (keepsScope_expr cx e).result _

theorem onlyDeclares_declarators (ds : List Declarator) :
    OnlyDeclares (Declarator.visitAll cx.rules ds) := by
  induction ds with
  | nil => exact (KeepsScope.pure _).onlyDeclares
  | cons d ds ih =>
    have first : OnlyDeclares (d.visit cx.rules) := by
      rw [visit_declarator]
      exact (keepsScope_optional cx d.init).onlyDeclares.bind fun _ =>
        (OnlyDeclares.declare d.name).result _
    exact first.bind fun _ => ih.result _

theorem onlyDeclares_declaration (d : Declaration) : OnlyDeclares (d.visit cx.rules) := by
  obtain ⟨type, ds⟩ := d
  cases type with
  | none => exact (KeepsScope.refuse _ _ _).onlyDeclares
  | some type =>
    rw [visit_typed]
    exact (onlyDeclares_declarators cx ds).bind fun _ =>
      ((KeepsScope.mapType cx type).result _).onlyDeclares

/-- A statement only declares names, if it keeps the scope unless it is a declaration. -/
theorem onlyDeclares_stmt (s : Stmt)
    (h : s.isDeclaration = false → KeepsScope (s.visit cx.rules)) :
    OnlyDeclares (s.visit cx.rules) := by
  cases s with
  | declare d => exact (onlyDeclares_declaration cx d).result _
  | _ => exact (h rfl).onlyDeclares

mutual

/-- Lowering a statement that is not a declaration keeps the scope.  What is declared in
a block or in the header of a `for` loop is declared in a frame of its own. -/
theorem keepsScope_stmt : ∀ s : Stmt, s.isDeclaration = false → KeepsScope (s.visit cx.rules)
  | .expr value, _ => (keepsScope_expr cx value).result _
  | .ret value, _ => (keepsScope_optional cx value).result _
  | .branch cond onTrue onFalse, _ =>
    (keepsScope_expr cx cond).bind fun _ => (onlyDeclares_block onTrue).inFrame.bind fun _ =>
      (keepsScope_else onFalse).result _
  | .forLoop init cond step body, _ => by
    rw [visit_forLoop]
    refine OnlyDeclares.inFrame ((onlyDeclares_init init).bind fun _ => ?_)
    refine KeepsScope.onlyDeclares ((keepsScope_optional cx cond).bind fun _ => ?_)
    exact (keepsScope_exprs cx step).bind fun _ => (onlyDeclares_block body).inFrame.result _
  | .whileLoop cond body, _ =>
    (keepsScope_expr cx cond).bind fun _ => (onlyDeclares_block body).inFrame.result _
  | .foreachLoop .., _ => .refuse _ _ _
  | .block body, _ => (onlyDeclares_block body).inFrame.result _
  | .breakLoop, _ | .continueLoop, _ => .pure _
termination_by structural s => s

theorem onlyDeclares_block : ∀ b : List Stmt, OnlyDeclares (Stmt.visitAll cx.rules b)
  | [] => (KeepsScope.pure _).onlyDeclares
  | s :: rest =>
    (onlyDeclares_stmt cx s (keepsScope_stmt s)).bind fun _ => (onlyDeclares_block rest).result _
termination_by structural b => b

theorem keepsScope_else : ∀ b : Option (List Stmt), KeepsScope (Stmt.visitElse cx.rules b)
  | none => .pure _
  | some body => (onlyDeclares_block body).inFrame.result _
termination_by structural b => b

theorem onlyDeclares_init : ∀ init : Option Stmt, OnlyDeclares (Stmt.visitInit cx.rules init)
  | none => (KeepsScope.pure _).onlyDeclares
  | some init => (onlyDeclares_stmt cx init (keepsScope_stmt init)).result _
termination_by structural init => init

end

end Parts

/-! ## Declarations -/

/-- How the lowering of a local declaration from a state can end: its result, and the
names that are declared then. -/
inductive Declaration.Leaves (cx : LoweringContext) (s : LoweringState) :
    Declaration → Except LoweringError Declaration → List String → Prop where
  /-- Without a type it is refused before its first declarator. -/
  | implicit {ds : List Declarator} {e : LoweringError} : Leaves cx s ⟨none, ds⟩ (.error e) []
  /-- An initialiser cannot be lowered: the declarators in front of it are complete. -/
  | initialiser {type : TypeName} {before after : List Declarator} {d : Declarator}
      {lowered : List Declarator} {u t : LoweringState} {e : LoweringError}
      (complete : outcome (Declarator.visitAll cx.rules before) s = (.ok lowered, u))
      (failed : outcome (Expr.visitOption cx.rules d.init) u = (.error e, t)) :
      Leaves cx s ⟨some type, before ++ d :: after⟩ (.error e) (before.map Declarator.name)
  /-- All declarators are complete and the type has no counterpart. -/
  | unmapped {type : TypeName} {ds lowered : List Declarator} {u : LoweringState}
      {e : LoweringError}
      (complete : outcome (Declarator.visitAll cx.rules ds) s = (.ok lowered, u))
      (failed : cx.types.map type = .error e) :
      Leaves cx s ⟨some type, ds⟩ (.error e) (ds.map Declarator.name)
  | lowered {type mapped : TypeName} {ds lowered : List Declarator} {u : LoweringState}
      (complete : outcome (Declarator.visitAll cx.rules ds) s = (.ok lowered, u))
      (known : cx.types.map type = .ok mapped) :
      Leaves cx s ⟨some type, ds⟩ (.ok ⟨some mapped, lowered⟩) (ds.map Declarator.name)

section Declarations

variable (cx : LoweringContext)

/-- A declarator is declared when its initialiser is lowered, and not before. -/
theorem outcome_visit_declarator (d : Declarator) (s : LoweringState) :
    (∃ t lowered, outcome (d.visit cx.rules) s = (.ok lowered, t) ∧
      t.scope = s.scope.declare d.name) ∨
    ∃ e t, outcome (d.visit cx.rules) s = (.error e, t) ∧ t.scope = s.scope ∧
      outcome (Expr.visitOption cx.rules d.init) s = (.error e, t) := by
  have kept := keepsScope_optional cx d.init s
  rw [visit_declarator]
  rcases h : outcome (Expr.visitOption cx.rules d.init) s with ⟨e | init, t⟩ <;> rw [h] at kept
  · exact .inr ⟨e, t, outcome_bind_error h, kept, rfl⟩
  · rw [outcome_bind_ok h]
    exact .inl ⟨_, _, rfl, congrArg (Scope.declare · d.name) kept⟩

/-- Declarators are declared one after the other, up to the first initialiser that
cannot be lowered. -/
theorem outcome_visit_declarators (ds : List Declarator) (s : LoweringState) :
    (∃ t lowered, outcome (Declarator.visitAll cx.rules ds) s = (.ok lowered, t) ∧
      t.scope = s.scope.declareAll (ds.map Declarator.name)) ∨
    ∃ before d after lowered u e t, ds = before ++ d :: after ∧
      outcome (Declarator.visitAll cx.rules before) s = (.ok lowered, u) ∧
      outcome (Expr.visitOption cx.rules d.init) u = (.error e, t) ∧
      outcome (Declarator.visitAll cx.rules ds) s = (.error e, t) ∧
      t.scope = s.scope.declareAll (before.map Declarator.name) := by
  induction ds generalizing s with
  | nil => exact .inl ⟨s, [], rfl, rfl⟩
  | cons d ds ih =>
    rcases outcome_visit_declarator cx d s with ⟨t, first, hd, declared⟩ | ⟨e, t, hd, kept, hi⟩
    · rcases ih t with ⟨u, others, hds, added⟩
          | ⟨before, d', after, lowered, u, e, v, rfl, complete, failed, hds, added⟩
      · refine .inl ⟨u, first :: others, ?_, ?_⟩
        · rw [Declarator.visitAll, outcome_bind_ok hd, outcome_bind_ok hds, outcome_pure]
        · rw [added, declared]
          rfl
      · refine .inr ⟨d :: before, d', after, first :: lowered, u, e, v, rfl, ?_, failed, ?_, ?_⟩
        · rw [Declarator.visitAll, outcome_bind_ok hd, outcome_bind_ok complete, outcome_pure]
        · rw [Declarator.visitAll, outcome_bind_ok hd, outcome_bind_error hds]
        · rw [added, declared]
          rfl
    · refine .inr ⟨[], d, ds, [], s, e, t, rfl, rfl, hi, ?_, kept⟩
      rw [Declarator.visitAll, outcome_bind_error hd]

/-- A declaration declares the names of its complete declarators. -/
theorem leaves_visit_declaration (d : Declaration) (s : LoweringState) :
    ∃ names, d.Leaves cx s (outcome (d.visit cx.rules) s).1 names ∧
      (outcome (d.visit cx.rules) s).2.scope = s.scope.declareAll names := by
  obtain ⟨type, ds⟩ := d
  cases type with
  | none => exact ⟨[], .implicit, rfl⟩
  | some type =>
    rw [visit_typed]
    rcases outcome_visit_declarators cx ds s with ⟨t, lowered, complete, added⟩
        | ⟨before, d, after, lowered, u, e, t, rfl, complete, failed, hds, added⟩
    · have behind : (t.past type.span).scope = s.scope.declareAll (ds.map Declarator.name) :=
        (t.scope_past type.span).trans added
      rw [outcome_bind_ok complete, outcome_bind, cx.outcome_mapType]
      rcases mapping : cx.types.map type with e | mapped
      · exact ⟨ds.map Declarator.name, .unmapped complete mapping, behind⟩
      · exact ⟨ds.map Declarator.name, .lowered complete mapping, behind⟩
    · rw [outcome_bind_error hds]
      exact ⟨before.map Declarator.name, .initialiser complete failed, added⟩

/-- A parameter is declared when its type is mapped. -/
theorem scope_visit_parameter (p : Parameter) (s : LoweringState) :
    (outcome (p.visit cx.rules) s).2.scope
      = s.scope.declareAll (if (outcome (p.visit cx.rules) s).1.isOk then [p.name] else []) := by
  have kept := s.scope_past p.type.span
  rw [visit_parameter, outcome_bind, cx.outcome_mapType]
  rcases cx.types.map p.type with e | mapped
  · exact kept
  · exact congrArg (Scope.declare · p.name) kept

end Declarations

/-! ## Fragments -/

/-- Whether a fragment declares nothing for what follows it. -/
def Fragment.isClosed : Fragment → Bool
  | .expr _ | .block _ => true
  | .stmt s => !s.isDeclaration
  | .method _ | .parameter _ | .declaration _ => false

section Fragments

open LowerM

variable (cx : LoweringContext)

theorem KeepsScope.map {α β : Type} {x : LowerM α} (hx : KeepsScope x) (f : α → β) :
    KeepsScope (f <$> x) := by
  intro s
  rw [outcome_map]
  exact hx s

/-- Lowering a fragment that is closed keeps the scope. -/
theorem keepsScope_fragment (f : Fragment) (h : f.isClosed = true) :
    KeepsScope (f.visit cx.rules) := by
  cases f with
  | expr e => exact KeepsScope.map (keepsScope_expr cx e) _
  | block b => exact KeepsScope.map (onlyDeclares_block cx b).inFrame _
  | stmt st =>
    rw [Fragment.isClosed, Bool.not_eq_true'] at h
    exact KeepsScope.map (keepsScope_stmt cx st h) _
  | method _ | parameter _ | declaration _ => cases h

theorem OnlyDeclares.map {α β : Type} {x : LowerM α} (hx : OnlyDeclares x) (f : α → β) :
    OnlyDeclares (f <$> x) := by
  intro s
  rw [outcome_map]
  exact hx s

theorem onlyDeclares_parameter (p : Parameter) : OnlyDeclares (p.visit cx.rules) :=
  fun s => ⟨_, scope_visit_parameter cx p s⟩

/-- The parts of a method are walked in a scope in which only its parameters are
declared. -/
theorem onlyDeclares_visitParts (m : Method) : OnlyDeclares (cx.visitParts m) := by
  have parameters (ps : List Parameter) : OnlyDeclares (Parameter.visitAll cx.rules ps) := by
    induction ps with
    | nil => exact (KeepsScope.pure _).onlyDeclares
    | cons p ps ih => exact (onlyDeclares_parameter cx p).bind fun _ => ih.result _
  refine (parameters m.parameters).bind fun _ => KeepsScope.onlyDeclares ?_
  exact (onlyDeclares_block cx m.body).inFrame.bind fun _ => (KeepsScope.mapType cx _).result _

/-- A fragment only declares names, a method in a scope of its own. -/
theorem exists_declareAll_lowerFragment (s : LoweringState) (f : Fragment) :
    ∃ base names, (base = s.scope ∨ base = .fresh) ∧
      (cx.lowerFragment s f).2.scope = base.declareAll names := by
  have inScope (h : OnlyDeclares (f.visit cx.rules)) : ∃ base names,
      (base = s.scope ∨ base = .fresh) ∧
        (cx.lowerFragment s f).2.scope = base.declareAll names := by
    obtain ⟨names, added⟩ := h s
    exact ⟨s.scope, names, .inl rfl, added⟩
  cases f with
  | method m =>
    obtain ⟨names, added⟩ := onlyDeclares_visitParts cx m (s.entering m)
    have walk : (cx.lowerFragment s (.method m)).2
        = (outcome (cx.visitParts m) (s.entering m)).2 := by
      rw [← outcome_visit_method]
      exact congrArg Prod.snd (outcome_map Fragment.method _ s)
    exact ⟨.fresh, names, .inr rfl, by rw [walk, added]; rfl⟩
  | parameter p => exact inScope (OnlyDeclares.map (onlyDeclares_parameter cx p) _)
  | block b => exact inScope (keepsScope_fragment cx (.block b) rfl).onlyDeclares
  | declaration d => exact inScope (OnlyDeclares.map (onlyDeclares_declaration cx d) _)
  | stmt st =>
    exact inScope (OnlyDeclares.map (onlyDeclares_stmt cx st (keepsScope_stmt cx st)) _)
  | expr e => exact inScope (keepsScope_fragment cx (.expr e) rfl).onlyDeclares

/-- There is a frame behind every fragment if there is one in front of it. -/
theorem frames_lowerFragment_ne_nil (s : LoweringState) (f : Fragment)
    (h : s.scope.frames ≠ []) : (cx.lowerFragment s f).2.scope.frames ≠ [] := by
  obtain ⟨base, names, origin, added⟩ := exists_declareAll_lowerFragment cx s f
  have nonempty : base.frames ≠ [] := by
    rcases origin with rfl | rfl
    · exact h
    · exact List.cons_ne_nil [] []
  obtain ⟨frame, outer, frames⟩ := List.exists_cons_of_ne_nil nonempty
  rw [added, Scope.frames_declareAll frames]
  exact List.cons_ne_nil _ _

/-- **Frames are closed on every way out.**  In a session there is always a frame.  From
any state, whether a fragment is lowered or fails at any depth: an expression, a block
and a statement that is no declaration leave the scope exactly as it was; a parameter
and a local declaration leave every frame but the innermost one alone and declare names
behind those of the innermost one, a parameter its name if its type is mapped, and a
declaration the names of the declarators that are complete. -/
theorem frames_lowerFragment :
    (∀ fragments, (cx.session .initial fragments).scope.frames ≠ []) ∧
    ∀ s : LoweringState,
      (∀ f : Fragment, f.isClosed = true → (cx.lowerFragment s f).2.scope = s.scope) ∧
      ∀ frame outer, s.scope.frames = frame :: outer →
        (∀ p : Parameter, (cx.lowerFragment s (.parameter p)).2.scope.frames
          = (frame ++ if (cx.lowerFragment s (.parameter p)).1.isOk then [p.name] else [])
            :: outer) ∧
        ∀ d : Declaration, ∃ names, d.Leaves cx s (outcome (d.visit cx.rules) s).1 names ∧
          (cx.lowerFragment s (.declaration d)).2.scope.frames = (frame ++ names) :: outer ∧
          (cx.lowerFragment s (.stmt (.declare d))).2.scope.frames
            = (frame ++ names) :: outer := by
  refine ⟨fun fragments => ?_, fun s => ⟨fun f closed => ?_, fun frame outer frames => ⟨fun p => ?_,
    fun d => ?_⟩⟩⟩
  · suffices h : ∀ s : LoweringState, s.scope.frames ≠ [] →
        (cx.session s fragments).scope.frames ≠ [] from h .initial (List.cons_ne_nil [] [])
    induction fragments with
    | nil => exact fun s h => h
    | cons f fragments ih => exact fun s h => ih _ (frames_lowerFragment_ne_nil cx s f h)
  · exact keepsScope_fragment cx f closed s
  · have lowered : cx.lowerFragment s (.parameter p)
        = outcome (Fragment.parameter <$> p.visit cx.rules) s := rfl
    have sameEnd (r : Except LoweringError Parameter) :
        (r.map Fragment.parameter).isOk = r.isOk := by
      cases r <;> rfl
    rw [lowered, outcome_map, sameEnd, scope_visit_parameter cx p s,
      Scope.frames_declareAll frames]
  · obtain ⟨names, leaves, added⟩ := leaves_visit_declaration cx d s
    have bare : cx.lowerFragment s (.declaration d)
        = outcome (Fragment.declaration <$> d.visit cx.rules) s := rfl
    have statement : (cx.lowerFragment s (.stmt (.declare d))).2
        = (outcome (d.visit cx.rules) s).2 := by
      have wrapped : cx.lowerFragment s (.stmt (.declare d))
          = outcome (Fragment.stmt <$> Stmt.declare <$> d.visit cx.rules) s := by
        rw [map_eq_pure_bind Stmt.declare]
        rfl
      rw [wrapped, outcome_map, outcome_map]
    refine ⟨names, leaves, ?_, ?_⟩
    · rw [bare, outcome_map, added, Scope.frames_declareAll frames]
    · rw [statement, added, Scope.frames_declareAll frames]

end Fragments

/-- A context that maps one type and resolves nothing. -/
def integerContext : LoweringContext :=
  MemberTable.empty.context (TypeMap.empty.register "int" "int") "__"

/-- A state inside two frames. -/
def insideTwoFrames : LoweringState :=
  { LoweringState.initial with scope := ⟨[["a"], ["b"]]⟩ }

/-- A loop fails behind two declarations, one in its header and one in its body, and a
declaration fails at the second of its three declarators. -/
theorem frames_lowerFragment_nested :
    let text : Expr := .literal (.string "text")
    let loop : Fragment := .stmt (.forLoop
      (some (.declare (.single (.named "int") "i" (some (.int 0))))) none []
      [.declare (.single (.named "int") "j" none), .expr text])
    let several : Declaration := ⟨some (.named "int"), [⟨"i", none⟩, ⟨"j", some text⟩, ⟨"k", none⟩]⟩
    let afterLoop := integerContext.lowerFragment insideTwoFrames loop
    let afterSeveral := integerContext.lowerFragment insideTwoFrames (.declaration several)
    (loop.isClosed = true ∧ afterLoop.1.isOk = false ∧ afterLoop.2.scope = ⟨[["a"], ["b"]]⟩) ∧
      afterSeveral.1.isOk = false ∧
      ∃ names, several.Leaves integerContext insideTwoFrames
          (outcome (several.visit integerContext.rules) insideTwoFrames).1 names ∧
        afterSeveral.2.scope.frames = (["a"] ++ names) :: [["b"]] ∧ names = ["i"] := by
  intro text loop several afterLoop afterSeveral
  obtain ⟨kept, adding⟩ := (frames_lowerFragment integerContext).2 insideTwoFrames
  obtain ⟨names, leaves, frames, -⟩ := (adding ["a"] [["b"]] rfl).2 several
  have evaluated : afterSeveral.2.scope.frames = ["a", "i"] :: [["b"]] := by rfl
  refine ⟨⟨rfl, by rfl, kept loop rfl⟩, by rfl, names, leaves, frames, ?_⟩
  have inner : ["a"] ++ names = ["a"] ++ ["i"] :=
    (List.cons.inj (frames.symm.trans evaluated)).1
  exact List.append_cancel_left inner

end ShaderLowering
