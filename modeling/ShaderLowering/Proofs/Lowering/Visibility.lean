import ShaderLowering.Proofs.Lowering.Lexical

/-!
# Which names a resolver sees

Lowering keeps the local names in a stack of frames, which its rules push, pop and
fill on their way through a method.  Lowering by lexical scope has no such stack.
The two agree on every method: on the tree, the captures and the error.

The invariant is `Sees`: the frames hold the names that are visible at a place.
A step may add names to the innermost frame, and `Agrees` says which; a frame of
its own forgets them again.

## Main statements

* `agrees_expr`, `agrees_stmt`, `agrees_block` — agreement on the parts of a method.
* `lower_eq_lexical` — agreement on methods.
-/

namespace ShaderLowering

/-! ## Declaring several names -/

namespace Scope

/-- Declares several names, first to last. -/
def declareAll (s : Scope) (names : List String) : Scope :=
  names.foldl declare s

@[simp] theorem declareAll_nil (s : Scope) : s.declareAll [] = s := rfl

theorem declareAll_append (s : Scope) (names more : List String) :
    s.declareAll (names ++ more) = (s.declareAll names).declareAll more :=
  List.foldl_append

theorem contains_declareAll (s : Scope) (names : List String) (name : String) :
    (s.declareAll names).contains name = (s.contains name || names.contains name) := by
  induction names generalizing s with
  | nil => simp
  | cons first names ih =>
    have step : s.declareAll (first :: names) = (s.declare first).declareAll names := rfl
    rw [step, ih, contains_declare, List.contains_cons, Bool.or_assoc]
    rfl

/-- Names are declared behind those of the innermost frame, and no other frame changes. -/
theorem frames_declareAll {s : Scope} {frame : List String} {outer : List (List String)}
    (h : s.frames = frame :: outer) (names : List String) :
    (s.declareAll names).frames = (frame ++ names) :: outer := by
  induction names generalizing s frame with
  | nil => rw [declareAll_nil, h, List.append_nil]
  | cons first names ih =>
    have step : s.declareAll (first :: names) = (s.declare first).declareAll names := rfl
    have declared : (s.declare first).frames = (frame ++ [first]) :: outer := by
      rw [declare, h]
    rw [step, ih declared, List.append_assoc, List.singleton_append]

/-- Whatever is declared in a frame is forgotten when the frame is closed. -/
@[simp] theorem pop_declareAll_push (s : Scope) (names : List String) :
    (s.push.declareAll names).pop = s := by
  have frames : (s.push.declareAll names).frames = ([] ++ names) :: s.frames :=
    frames_declareAll rfl names
  rw [pop, frames, List.tail_cons]

end Scope

@[simp] theorem Site.behind_nil (site : Site) : site.behind [] = site := by
  simp [Site.behind]

/-! ## States and sites -/

/-- What lowering by lexical scope keeps of a state. -/
def LoweringState.record (s : LoweringState) : Record :=
  ⟨s.captures, s.location⟩

/-- A state is that of lowering a part at a site. -/
structure Sees (s : LoweringState) (site : Site) : Prop where
  method_eq : s.method = site.method
  contains_eq : s.scope.contains = site.visible.contains

theorem Sees.behind {s t : LoweringState} {site : Site} {names : List String} (h : Sees s site)
    (hm : t.method = s.method) (hs : t.scope = s.scope.declareAll names) :
    Sees t (site.behind names) where
  method_eq := hm.trans h.method_eq
  contains_eq := by
    funext name
    rw [hs, Scope.contains_declareAll, h.contains_eq]
    simp [Site.behind]

/-- A frame without names hides nothing. -/
theorem Sees.push {s : LoweringState} {site : Site} (h : Sees s site) :
    Sees { s with scope := s.scope.push } site where
  method_eq := h.method_eq
  contains_eq := by
    funext name
    rw [Scope.contains_push, h.contains_eq]

/-! ## Agreement of steps -/

/-- A lowering step agrees with a step by lexical scope, and when it succeeds it
has declared some names. -/
structure Agrees {α : Type} (site : Site) (names : List String) (x : LowerM α) (y : RecordM α) :
    Prop where
  outcome_eq : ∀ {s}, Sees s site →
    outcome y s.record = ((outcome x s).1, (outcome x s).2.record)
  method_eq : ∀ {s t a}, Sees s site → outcome x s = (.ok a, t) → t.method = s.method
  scope_eq : ∀ {s t a}, Sees s site → outcome x s = (.ok a, t) →
    t.scope = s.scope.declareAll names

namespace Agrees

variable {α β : Type} {site : Site} {names more : List String}

theorem pure (a : α) : Agrees site [] (Pure.pure a) (Pure.pure a) where
  outcome_eq _ := rfl
  method_eq _ h := by cases h; rfl
  scope_eq _ h := by cases h; rfl

/-- What the first step declares is visible to the second one. -/
theorem bind {x : LowerM α} {y : RecordM α} {f : α → LowerM β} {g : α → RecordM β}
    (hx : Agrees site names x y) (hf : ∀ a, Agrees (site.behind names) more (f a) (g a)) :
    Agrees site (names ++ more) (x >>= f) (y >>= g) where
  outcome_eq {s} hs := by
    have hy := hx.outcome_eq hs
    rcases h : outcome x s with ⟨_ | a, t⟩ <;> rw [h] at hy
    · rw [outcome_bind_error h, outcome_bind_error hy]
    · rw [outcome_bind_ok h, outcome_bind_ok hy]
      exact (hf a).outcome_eq (hs.behind (hx.method_eq hs h) (hx.scope_eq hs h))
  method_eq hs h := by
    obtain ⟨a, t, ha, hb⟩ := outcome_bind_eq_ok.1 h
    have ht := hs.behind (hx.method_eq hs ha) (hx.scope_eq hs ha)
    exact ((hf a).method_eq ht hb).trans (hx.method_eq hs ha)
  scope_eq hs h := by
    obtain ⟨a, t, ha, hb⟩ := outcome_bind_eq_ok.1 h
    have ht := hs.behind (hx.method_eq hs ha) (hx.scope_eq hs ha)
    rw [(hf a).scope_eq ht hb, hx.scope_eq hs ha, Scope.declareAll_append]

/-- A first step that declares nothing leaves the site as it is. -/
theorem andThen {x : LowerM α} {y : RecordM α} {f : α → LowerM β} {g : α → RecordM β}
    (hx : Agrees site [] x y) (hf : ∀ a, Agrees site more (f a) (g a)) :
    Agrees site more (x >>= f) (y >>= g) := by
  have h : Agrees site ([] ++ more) (x >>= f) (y >>= g) := hx.bind (by simpa using hf)
  simpa using h

/-- A result is put together behind a step, whatever the step declares. -/
theorem result {x : LowerM α} {y : RecordM α} (hx : Agrees site names x y) (f : α → β) :
    Agrees site names (x >>= fun a => Pure.pure (f a)) (y >>= fun a => Pure.pure (f a)) := by
  have h : Agrees site (names ++ []) (x >>= fun a => Pure.pure (f a))
      (y >>= fun a => Pure.pure (f a)) := hx.bind fun a => pure (f a)
  simpa using h

/-- Names that are declared in a frame of its own are not handed out. -/
theorem inFrame {x : LowerM α} {y : RecordM α} (hx : Agrees site names x y) :
    Agrees site [] (LowerM.inFrame x) y where
  outcome_eq hs := by
    rw [LowerM.outcome_inFrame]
    exact hx.outcome_eq hs.push
  method_eq {s t a} hs h := by
    rw [LowerM.outcome_inFrame] at h
    rcases hx' : outcome x { s with scope := s.scope.push } with ⟨r, u⟩
    rw [hx'] at h
    cases h
    have hm := hx.method_eq hs.push hx'
    exact hm
  scope_eq {s t a} hs h := by
    rw [LowerM.outcome_inFrame] at h
    rcases hx' : outcome x { s with scope := s.scope.push } with ⟨r, u⟩
    rw [hx'] at h
    cases h
    simp only [hx.scope_eq hs.push hx', Scope.pop_declareAll_push, Scope.declareAll_nil]

theorem throw (e : LoweringError) :
    Agrees site names (throw e : LowerM α) (throw e : RecordM α) where
  outcome_eq _ := rfl
  method_eq _ h := by cases h
  scope_eq _ h := by cases h

/-- A step that always fails declares whatever one likes. -/
theorem refuse (construct : Construct) (source : String) (span : Span) :
    Agrees site names (LowerM.refuse construct source span : LowerM α)
      (Lexical.refuse site construct source span) where
  outcome_eq {s} hs := by
    rw [LowerM.outcome_refuse, hs.method_eq]
    rfl
  method_eq _ h := by cases h
  scope_eq _ h := by cases h

theorem passBy (span : Span) : Agrees site [] (LowerM.passBy span) (Lexical.passBy span) where
  outcome_eq {s} _ := by
    rw [LowerM.outcome_passBy, Lexical.passBy, outcome_modify, LoweringState.past]
    split <;> rfl
  method_eq {s t a} _ h := by
    cases h
    exact s.method_past span
  scope_eq {s t a} _ h := by
    cases h
    exact s.scope_past span

theorem declare (name : String) (a : α) :
    Agrees site [name] (LowerM.declare name >>= fun _ => Pure.pure a) (Pure.pure a) where
  outcome_eq _ := rfl
  method_eq _ h := by cases h; rfl
  scope_eq _ h := by cases h; rfl

end Agrees

/-! ## Agreement of the rules -/

section Rules

variable (cx : LoweringContext)

theorem agrees_mapType (site : Site) (type : TypeName) :
    Agrees site [] (cx.mapType type) (Lexical.mapType cx type) := by
  refine (Agrees.passBy type.span).andThen fun _ => ?_
  cases cx.types.map type with
  | ok mapped => exact .pure mapped
  | error e => exact .throw e

/-- The resolver sees the same names on both sides, so it gives the same answer. -/
theorem agrees_resolve (site : Site) (a : Access) :
    Agrees site [] (cx.resolve a) (Lexical.access cx site a) := by
  have answer {s : LoweringState} (hs : Sees s site) :
      cx.resolver a s.scope.contains = cx.resolver a site.visible.contains := by
    rw [hs.contains_eq]
  rcases h : cx.resolver a site.visible.contains with e | member | replacement
  · have failed {s : LoweringState} (hs : Sees s site) :=
      cx.outcome_resolve_error ((answer hs).trans h)
    refine ⟨fun hs => ?_, fun hs ho => ?_, fun hs ho => ?_⟩
    · rw [failed hs, Lexical.access, h]
      rfl
    · rw [failed hs] at ho; cases ho
    · rw [failed hs] at ho; cases ho
  · have captured {s : LoweringState} (hs : Sees s site) :=
      cx.outcome_resolve_capture ((answer hs).trans h)
    refine ⟨fun hs => ?_, fun hs ho => ?_, fun hs ho => ?_⟩
    · obtain ⟨journal, hc⟩ := captured hs
      rw [hc, Lexical.access, h]
      rfl
    · obtain ⟨journal, hc⟩ := captured hs
      rw [hc] at ho; cases ho; rfl
    · obtain ⟨journal, hc⟩ := captured hs
      rw [hc] at ho; cases ho; rfl
  · have replaced {s : LoweringState} (hs : Sees s site) :=
      cx.outcome_resolve_direct ((answer hs).trans h)
    refine ⟨fun hs => ?_, fun hs ho => ?_, fun hs ho => ?_⟩
    · rw [replaced hs, Lexical.access, h]
      rfl
    · rw [replaced hs] at ho; cases ho; rfl
    · rw [replaced hs] at ho; cases ho; rfl

/-! ### Expressions -/

mutual

/-- An expression declares nothing, and lowering it agrees at every site. -/
theorem agrees_expr (site : Site) :
    ∀ e : Expr, Agrees site [] (e.visit cx.rules) (Lexical.expr cx site e)
  | .literal (.string _) => .refuse ..
  | .literal .null => .refuse ..
  | .literal (.bool _) | .literal (.int _) | .literal (.uint _) | .literal (.float _)
  | .literal (.double _) | .ident _ => .pure _
  | .member target name span =>
    (Agrees.passBy span).andThen fun _ => (agrees_expr site target).andThen fun _ =>
      agrees_resolve cx site _
  | .call callee args =>
    (agrees_expr site callee).andThen fun _ => (agrees_exprs site args).result _
  | .index target position =>
    (agrees_expr site target).andThen fun _ => (agrees_expr site position).result _
  | .cast type operand =>
    (agrees_expr site operand).andThen fun _ => (agrees_mapType cx site type).result _
  | .creation type args =>
    (agrees_exprs site args).andThen fun args => (agrees_mapType cx site type).andThen fun _ => by
      cases args <;> exact .pure _
  | .creationWith .. => .refuse ..
  | .defaultOf type => (agrees_mapType cx site type).result _
  | .unary _ operand => (agrees_expr site operand).result _
  | .binary _ lhs rhs => (agrees_expr site lhs).andThen fun _ => (agrees_expr site rhs).result _
  | .assign _ target value =>
    (agrees_expr site target).andThen fun _ => (agrees_expr site value).result _
  | .conditional cond onTrue onFalse =>
    (agrees_expr site cond).andThen fun _ => (agrees_expr site onTrue).andThen fun _ =>
      (agrees_expr site onFalse).result _
  | .paren inner => (agrees_expr site inner).result _
  | .lambda .. => .refuse ..
termination_by structural e => e

theorem agrees_exprs (site : Site) :
    ∀ es : List Expr, Agrees site [] (Expr.visitAll cx.rules es) (Lexical.exprs cx site es)
  | [] => .pure _
  | e :: es => (agrees_expr site e).andThen fun _ => (agrees_exprs site es).result _
termination_by structural es => es

end

theorem agrees_optional (site : Site) (e : Option Expr) :
    Agrees site [] (Expr.visitOption cx.rules e) (Lexical.optional cx site e) := by
  cases e with
  | none => exact .pure _
  | some e => exact (agrees_expr cx site e).result _

/-! ### Statements -/

theorem agrees_declarators (site : Site) (ds : List Declarator) :
    Agrees site (ds.map Declarator.name) (Declarator.visitAll cx.rules ds)
      (Lexical.declarators cx site ds) := by
  induction ds generalizing site with
  | nil => exact .pure _
  | cons d ds ih =>
    have first : Agrees site [d.name] (d.visit cx.rules) (do
        let init ← Lexical.optional cx site d.init
        pure ⟨d.name, init⟩) := by
      rw [visit_declarator]
      exact (agrees_optional cx site d.init).andThen fun _ => .declare d.name _
    have both := first.bind fun d => (ih (site.behind [_])).result fun ds => d :: ds
    simpa [Declarator.visitAll, Lexical.declarators] using both

theorem agrees_declaration (site : Site) (d : Declaration) :
    Agrees site (d.declarators.map Declarator.name) (d.visit cx.rules)
      (Lexical.declaration cx site d) := by
  obtain ⟨type, ds⟩ := d
  cases type with
  | none => exact .refuse ..
  | some type =>
    rw [visit_typed]
    have h := (agrees_declarators cx site ds).bind fun ds =>
      (agrees_mapType cx (site.behind _) type).result fun type => Declaration.mk (some type) ds
    simpa [Lexical.declaration] using h

mutual

/-- Lowering a statement agrees at every site, and declares exactly the names that
the statements behind it see. -/
theorem agrees_stmt (site : Site) :
    ∀ s : Stmt, Agrees site s.declared (s.visit cx.rules) (Lexical.stmt cx site s)
  | .declare d => (agrees_declaration cx site d).result _
  | .expr value => (agrees_expr cx site value).result _
  | .ret value => (agrees_optional cx site value).result _
  | .branch cond onTrue onFalse =>
    (agrees_expr cx site cond).andThen fun _ => (agrees_block site onTrue).inFrame.andThen fun _ =>
      (agrees_otherwise site onFalse).result _
  | .forLoop init cond step body => by
    rw [visit_forLoop]
    refine Agrees.inFrame (?_ : Agrees site (init.elim [] Stmt.declared ++ []) _ _)
    refine (agrees_header site init).bind fun _ => ?_
    refine (agrees_optional cx _ cond).andThen fun _ => ?_
    refine (agrees_exprs cx _ step).andThen fun _ => ?_
    exact (agrees_block _ body).inFrame.result _
  | .whileLoop cond body =>
    (agrees_expr cx site cond).andThen fun _ => (agrees_block site body).inFrame.result _
  | .foreachLoop .. => .refuse ..
  | .block body => (agrees_block site body).inFrame.result _
  | .breakLoop | .continueLoop => .pure _
termination_by structural s => s

theorem agrees_block (site : Site) :
    ∀ b : List Stmt, Agrees site (b.flatMap Stmt.declared) (Stmt.visitAll cx.rules b)
      (Lexical.block cx site b)
  | [] => .pure _
  | s :: rest => (agrees_stmt site s).bind fun _ => (agrees_block _ rest).result _
termination_by structural b => b

theorem agrees_otherwise (site : Site) : ∀ b : Option (List Stmt),
    Agrees site [] (Stmt.visitElse cx.rules b) (Lexical.otherwise cx site b)
  | none => .pure _
  | some body => (agrees_block site body).inFrame.result _
termination_by structural b => b

theorem agrees_header (site : Site) : ∀ init : Option Stmt,
    Agrees site (init.elim [] Stmt.declared) (Stmt.visitInit cx.rules init)
      (Lexical.header cx site init)
  | none => .pure _
  | some init => (agrees_stmt site init).result _
termination_by structural init => init

end

/-! ### Methods -/

theorem agrees_parameters (site : Site) (ps : List Parameter) :
    Agrees site (ps.map Parameter.name) (Parameter.visitAll cx.rules ps)
      (Lexical.parameters cx ps) := by
  induction ps generalizing site with
  | nil => exact .pure _
  | cons p ps ih =>
    have first : Agrees site [p.name] (p.visit cx.rules) (do
        let type ← Lexical.mapType cx p.type
        pure ⟨[], p.passing.lowered, type, p.name⟩) := by
      rw [visit_parameter]
      exact (agrees_mapType cx site p.type).andThen fun type => .declare p.name _
    have both := first.bind fun p => (ih (site.behind [_])).result fun ps => p :: ps
    simpa [Parameter.visitAll, Lexical.parameters] using both

/-- A method is lowered at the site that sees nothing yet; its body sees its
parameters. -/
theorem agrees_method (m : Method) :
    Agrees ⟨m.name, []⟩ (m.parameters.map Parameter.name) (cx.visitParts m)
      (Lexical.method cx m) := by
  have h := (agrees_parameters cx ⟨m.name, []⟩ m.parameters).bind fun parameters =>
    (agrees_block cx (Site.behind _ _) m.body).inFrame.andThen fun body =>
      (agrees_mapType cx _ m.returnType).result fun returnType =>
        Method.mk [] returnType m.name parameters body
  simpa [Site.behind, LoweringContext.visitParts, visit_block, Lexical.method] using h

end Rules

/-- The walk over a method comes to what lowering by lexical scope comes to. -/
theorem outcome_lexical_method (cx : LoweringContext) (m : Method) :
    outcome (Lexical.method cx m) ⟨.empty, .unknown⟩
      = ((outcome (m.visit cx.rules) .initial).1,
          (outcome (m.visit cx.rules) .initial).2.record) := by
  -- The walk begins with a fresh scope, at a site that sees no names.
  have sees : Sees (LoweringState.initial.entering m) ⟨m.name, []⟩ := ⟨rfl, rfl⟩
  rw [outcome_visit_method]
  exact (agrees_method cx m).outcome_eq sees

theorem lower_of_outcome_ok {cx : LoweringContext} {m lowered : Method} {r : Record}
    (h : outcome (Lexical.method cx m) ⟨.empty, .unknown⟩ = (.ok lowered, r)) :
    cx.lower m = .ok ⟨lowered, r.captures⟩ := by
  rw [outcome_lexical_method] at h
  rw [cx.lower_eq_match]
  rcases walk : outcome (m.visit cx.rules) .initial with ⟨_ | lowered, s⟩ <;> rw [walk] at h <;>
    cases h
  rfl

theorem lower_of_outcome_error {cx : LoweringContext} {m : Method} {e : LoweringError}
    {r : Record} (h : outcome (Lexical.method cx m) ⟨.empty, .unknown⟩ = (.error e, r)) :
    cx.lower m = .error e := by
  rw [outcome_lexical_method] at h
  rw [cx.lower_eq_match]
  rcases walk : outcome (m.visit cx.rules) .initial with ⟨_ | lowered, s⟩ <;> rw [walk] at h <;>
    cases h
  rfl

/-- **Lowering a method agrees with lowering by lexical scope**: the trees, the
captures and the errors are the same, so the frames that the rules keep show the
resolver the names that are lexically visible and no others. -/
theorem lower_eq_lexical (cx : LoweringContext) (m : Method) :
    cx.lower m = Lexical.lower cx m := by
  -- The walk begins with a fresh scope, at a site that sees no names.
  have sees : Sees (LoweringState.initial.entering m) ⟨m.name, []⟩ := ⟨rfl, rfl⟩
  have walk := (agrees_method cx m).outcome_eq sees
  rw [← outcome_visit_method] at walk
  rw [LoweringContext.lower_eq_match, Lexical.lower]
  change outcome (Lexical.method cx m) ⟨.empty, .unknown⟩ = _ at walk
  rw [walk]
  rcases outcome (m.visit cx.rules) .initial with ⟨_ | lowered, s⟩ <;> rfl

end ShaderLowering
