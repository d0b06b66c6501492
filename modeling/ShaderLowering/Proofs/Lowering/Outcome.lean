import ShaderLowering.Lowering.Method

/-!
# Outcomes of lowering steps

A lowering step is a computation that may fail and whose state survives the
failure.  `outcome` runs one from a state; the lemmas below say what the pieces of
a step give, so that no later proof opens the monad.  The second half says what
the rules make of each form of a tree, with the walk and the visitor put together.

## Main definitions

* `outcome` — the result of a step from a state, and the state it leaves.
* `LowerM.Ensures` — every successful result of a step has a property.
-/

namespace ShaderLowering

/-! ## Running a step -/

section Outcome

variable {σ α β : Type}

/-- The result of a fallible step from a state, and the state that it leaves. -/
def outcome (x : ExceptT LoweringError (StateM σ) α) (s : σ) : Except LoweringError α × σ :=
  x.run.run s

@[simp] theorem outcome_pure (a : α) (s : σ) :
    outcome (pure a : ExceptT LoweringError (StateM σ) α) s = (.ok a, s) := rfl

@[simp] theorem outcome_throw (e : LoweringError) (s : σ) :
    outcome (throw e : ExceptT LoweringError (StateM σ) α) s = (.error e, s) := rfl

@[simp] theorem outcome_get (s : σ) :
    outcome (get : ExceptT LoweringError (StateM σ) σ) s = (.ok s, s) := rfl

@[simp] theorem outcome_set (s s' : σ) :
    outcome (set s' : ExceptT LoweringError (StateM σ) PUnit) s = (.ok ⟨⟩, s') := rfl

@[simp] theorem outcome_modify (f : σ → σ) (s : σ) :
    outcome (modify f : ExceptT LoweringError (StateM σ) PUnit) s = (.ok ⟨⟩, f s) := rfl

/-- Sequencing goes on from the state that the first step leaves, unless it fails. -/
theorem outcome_bind (x : ExceptT LoweringError (StateM σ) α)
    (f : α → ExceptT LoweringError (StateM σ) β) (s : σ) :
    outcome (x >>= f) s = match outcome x s with
      | (.ok a, s') => outcome (f a) s'
      | (.error e, s') => (.error e, s') := by
  simp only [outcome, ExceptT.run_bind, StateT.run_bind]
  cases x.run.run s with
  | mk r s' => cases r <;> rfl

theorem outcome_bind_ok {x : ExceptT LoweringError (StateM σ) α}
    {f : α → ExceptT LoweringError (StateM σ) β} {s s' : σ} {a : α}
    (h : outcome x s = (.ok a, s')) : outcome (x >>= f) s = outcome (f a) s' := by
  rw [outcome_bind, h]

theorem outcome_bind_error {x : ExceptT LoweringError (StateM σ) α}
    {f : α → ExceptT LoweringError (StateM σ) β} {s s' : σ} {e : LoweringError}
    (h : outcome x s = (.error e, s')) : outcome (x >>= f) s = (.error e, s') := by
  rw [outcome_bind, h]

/-- What is made of a result leaves the state alone. -/
theorem outcome_map (f : α → β) (x : ExceptT LoweringError (StateM σ) α) (s : σ) :
    outcome (f <$> x) s = ((outcome x s).1.map f, (outcome x s).2) := by
  rw [map_eq_pure_bind, outcome_bind]
  rcases outcome x s with ⟨_ | a, t⟩ <;> rfl

/-- A sequence succeeds exactly when both of its steps do. -/
theorem outcome_bind_eq_ok {x : ExceptT LoweringError (StateM σ) α}
    {f : α → ExceptT LoweringError (StateM σ) β} {s s' : σ} {b : β} :
    outcome (x >>= f) s = (.ok b, s') ↔
      ∃ a t, outcome x s = (.ok a, t) ∧ outcome (f a) t = (.ok b, s') := by
  rw [outcome_bind]
  rcases outcome x s with ⟨_ | a, t⟩ <;> simp [and_assoc]

end Outcome

/-! ## The steps of lowering -/

/-- The state behind a node with a position: an unknown position changes nothing. -/
def LoweringState.past (s : LoweringState) (span : Span) : LoweringState :=
  if span.isKnown then { s with location := span } else s

namespace LoweringState

variable (s : LoweringState) (span : Span)

@[simp] theorem past_unknown : s.past .unknown = s := rfl

@[simp] theorem scope_past : (s.past span).scope = s.scope := by
  unfold past; split <;> rfl

@[simp] theorem method_past : (s.past span).method = s.method := by
  unfold past; split <;> rfl

@[simp] theorem captures_past : (s.past span).captures = s.captures := by
  unfold past; split <;> rfl

/-- The position behind a node: its own, if it is known. -/
theorem location_past :
    (s.past span).location = if span.isKnown then span else s.location := by
  unfold past; split <;> rfl

end LoweringState

namespace LowerM

variable {α : Type}

@[simp] theorem outcome_note (event : Event) (s : LoweringState) :
    outcome (note event) s = (.ok ⟨⟩, { s with journal := s.journal ++ [event] }) := rfl

@[simp] theorem outcome_passBy (span : Span) (s : LoweringState) :
    outcome (passBy span) s = (.ok ⟨⟩, s.past span) := rfl

@[simp] theorem outcome_refuse (construct : Construct) (source : String) (span : Span)
    (s : LoweringState) :
    outcome (refuse construct source span : LowerM α) s
      = (.error (.unsupported s.method construct source
          (if span.isKnown then span else s.location)), s) := rfl

/-- A frame of its own changes nothing but the scope in which a step runs. -/
theorem outcome_inFrame (x : LowerM α) (s : LoweringState) :
    outcome (inFrame x) s =
      ((outcome x { s with scope := s.scope.push }).1,
        { (outcome x { s with scope := s.scope.push }).2 with
          scope := (outcome x { s with scope := s.scope.push }).2.scope.pop }) := rfl

end LowerM

namespace LoweringContext

open LowerM

variable (cx : LoweringContext)

/-- Mapping a type gives what the type map says, behind the position of the type. -/
@[simp] theorem outcome_mapType (type : TypeName) (s : LoweringState) :
    outcome (cx.mapType type) s = (cx.types.map type, s.past type.span) := by
  rw [mapType, outcome_bind_ok (outcome_passBy type.span s)]
  cases cx.types.map type <;> rfl

/-- Capturing always succeeds, and changes the captures and the journal only. -/
theorem outcome_capture (member : Member) (s : LoweringState) :
    ∃ journal, outcome (cx.capture member) s =
      (.ok (member.captureName cx.capturePrefix),
        { s with
          captures := s.captures.insert (member.captureName cx.capturePrefix) member
          journal := journal }) := by
  simp only [capture, outcome_bind, outcome_get, outcome_set]
  cases s.captures.recorded (member.captureName cx.capturePrefix) member with
  | added => exact ⟨_, rfl⟩
  | known => exact ⟨_, rfl⟩
  | collision bound => exact ⟨_, rfl⟩

/-- What is done with an answer of the resolver. -/
def answer : Except LoweringError Resolution → LowerM Expr
  | .ok (.capture member) => do
    let name ← cx.capture member
    pure (.ident name)
  | .ok (.direct replacement) => pure replacement
  | .error e => throw e

/-- Resolving an access is asking the resolver and acting on its answer. -/
theorem outcome_resolve (a : Access) (s : LoweringState) :
    outcome (cx.resolve a) s = outcome (cx.answer (cx.resolver a s.scope.contains)) s := by
  rw [resolve, outcome_bind_ok (outcome_get s)]
  rcases cx.resolver a s.scope.contains with e | member | replacement <;> rfl

theorem outcome_resolve_capture {a : Access} {s : LoweringState} {member : Member}
    (h : cx.resolver a s.scope.contains = .ok (.capture member)) :
    ∃ journal, outcome (cx.resolve a) s =
      (.ok (.ident (member.captureName cx.capturePrefix)),
        { s with
          captures := s.captures.insert (member.captureName cx.capturePrefix) member
          journal := journal }) := by
  obtain ⟨journal, hc⟩ := cx.outcome_capture member s
  refine ⟨journal, ?_⟩
  rw [outcome_resolve, h, answer, outcome_bind_ok hc, outcome_pure]

theorem outcome_resolve_direct {a : Access} {s : LoweringState} {replacement : Expr}
    (h : cx.resolver a s.scope.contains = .ok (.direct replacement)) :
    outcome (cx.resolve a) s = (.ok replacement, s) := by
  rw [outcome_resolve, h, answer, outcome_pure]

theorem outcome_resolve_error {a : Access} {s : LoweringState} {e : LoweringError}
    (h : cx.resolver a s.scope.contains = .error e) :
    outcome (cx.resolve a) s = (.error e, s) := by
  rw [outcome_resolve, h, answer, outcome_throw]

end LoweringContext

/-! ## What the rules make of each form

The walk and the visitor put together, for the forms of a tree that the rules lower
in a way of their own.  The other forms are refused at once, or rebuilt from their
lowered parts. -/

section Rules

open LowerM

variable (cx : LoweringContext)

theorem visit_member (target : Expr) (name : String) (span : Span) :
    (Expr.member target name span).visit cx.rules = (do
      passBy span
      let target ← target.visit cx.rules
      cx.resolve ⟨target, name, span⟩) := rfl

theorem visit_cast (type : TypeName) (operand : Expr) :
    (Expr.cast type operand).visit cx.rules = (do
      let operand ← operand.visit cx.rules
      let type ← cx.mapType type
      pure (.cast type operand)) := rfl

theorem visit_creation (type : TypeName) (args : List Expr) :
    (Expr.creation type args).visit cx.rules = (do
      let args ← Expr.visitAll cx.rules args
      let type ← cx.mapType type
      match args with
      | [] => pure (.zero type)
      | args => pure (.call (.ident type.name) args)) := rfl

theorem visit_defaultOf (type : TypeName) : (Expr.defaultOf type).visit cx.rules = (do
    let type ← cx.mapType type
    pure (.zero type)) := rfl

theorem visit_declarator (d : Declarator) : d.visit cx.rules = (do
    let init ← Expr.visitOption cx.rules d.init
    declare d.name
    pure ⟨d.name, init⟩) := by
  simp [Declarator.visit, LoweringContext.rules, LoweringContext.rulesIn, LoweringContext.steps]

theorem visit_typed (type : TypeName) (declarators : List Declarator) :
    (Declaration.mk (some type) declarators).visit cx.rules = (do
      let declarators ← Declarator.visitAll cx.rules declarators
      let type ← cx.mapType type
      pure ⟨some type, declarators⟩) := by
  simp [Declaration.visit, LoweringContext.rules, LoweringContext.rulesIn, LoweringContext.steps]

theorem visit_forLoop (init : Option Stmt) (cond : Option Expr) (step : List Expr)
    (body : List Stmt) : (Stmt.forLoop init cond step body).visit cx.rules = inFrame (do
      let init ← Stmt.visitInit cx.rules init
      let cond ← Expr.visitOption cx.rules cond
      let step ← Expr.visitAll cx.rules step
      let body ← inFrame (Stmt.visitAll cx.rules body)
      pure (.forLoop init cond step body)) := rfl

theorem visit_block (b : Block) :
    Block.visit cx.rules b = inFrame (Stmt.visitAll cx.rules b) := rfl

theorem visit_parameter (p : Parameter) : p.visit cx.rules = (do
    let type ← cx.mapType p.type
    declare p.name
    pure ⟨[], p.passing.lowered, type, p.name⟩) := rfl

end Rules

/-! ## Methods -/

/-- The state in which the walk over a method begins. -/
def LoweringState.entering (s : LoweringState) (m : Method) : LoweringState :=
  { s with
    scope := .fresh
    method := m.name
    location := .unknown
    journal := s.journal ++ [.started m.name] }

/-- The walk over the parts of a method: its parameters, its body and its return
type. -/
def LoweringContext.visitParts (cx : LoweringContext) (m : Method) : LowerM Method := do
  let parameters ← Parameter.visitAll cx.rules m.parameters
  let body ← Block.visit cx.rules m.body
  let returnType ← cx.mapType m.returnType
  pure ⟨[], returnType, m.name, parameters, body⟩

/-- A method is entered before its parts are walked, from whatever state. -/
theorem outcome_visit_method (cx : LoweringContext) (m : Method) (s : LoweringState) :
    outcome (m.visit cx.rules) s = outcome (cx.visitParts m) (s.entering m) := by
  have h : m.visit cx.rules = (do
      modify fun s => { s with method := m.name, scope := .fresh, location := .unknown }
      LowerM.note (.started m.name)
      cx.visitParts m) := by
    simp [Method.visit, LoweringContext.rules, LoweringContext.rulesIn, LoweringContext.steps,
      LoweringContext.visitParts]
  rw [h, outcome_bind_ok (outcome_modify _ s), outcome_bind_ok (LowerM.outcome_note _ _)]
  rfl

/-- A method is lowered when its walk succeeds from the initial state. -/
theorem LoweringContext.lower_eq_match (cx : LoweringContext) (m : Method) :
    cx.lower m = match outcome (m.visit cx.rules) .initial with
      | (.ok lowered, s) => .ok ⟨lowered, s.captures⟩
      | (.error e, _) => .error e := rfl

/-! ## Properties of results -/

namespace LowerM

/-- Every result of a step has a property. -/
def Ensures {α : Type} (x : LowerM α) (Q : α → Prop) : Prop :=
  ∀ ⦃s t a⦄, outcome x s = (.ok a, t) → Q a

namespace Ensures

variable {α β : Type} {P : α → Prop} {Q : β → Prop}

theorem pure {b : β} (h : Q b) : Ensures (Pure.pure b) Q := by
  intro s t a ha
  cases ha
  exact h

theorem bind {x : LowerM α} {f : α → LowerM β} (hx : Ensures x P)
    (hf : ∀ a, P a → Ensures (f a) Q) : Ensures (x >>= f) Q := by
  intro s t b h
  obtain ⟨a, u, ha, hb⟩ := outcome_bind_eq_ok.1 h
  exact hf a (hx ha) hb

/-- A step whose result does not matter. -/
theorem skip {x : LowerM α} {f : α → LowerM β} (hf : ∀ a, Ensures (f a) Q) :
    Ensures (x >>= f) Q :=
  bind (P := fun _ => True) (fun _ _ _ _ => trivial) fun a _ => hf a

theorem refuse (construct : Construct) (source : String) (span : Span) :
    Ensures (LowerM.refuse construct source span) Q := by
  intro s t a h
  cases h

theorem inFrame {x : LowerM β} (hx : Ensures x Q) : Ensures (LowerM.inFrame x) Q := by
  intro s t a h
  rw [outcome_inFrame] at h
  rcases hx' : outcome x { s with scope := s.scope.push } with ⟨r, u⟩
  rw [hx'] at h
  cases h
  exact hx hx'

theorem mapType (cx : LoweringContext) (type : TypeName) :
    Ensures (cx.mapType type) fun mapped => cx.types.map type = .ok mapped := by
  intro s t mapped h
  rw [cx.outcome_mapType] at h
  exact congrArg Prod.fst h

/-- An access becomes the identifier of a capture, or what the resolver puts in its
place. -/
theorem resolve (cx : LoweringContext) (a : Access) {Q : Expr → Prop}
    (captured : ∀ visible member, cx.resolver a visible = .ok (.capture member) →
      Q (.ident (member.captureName cx.capturePrefix)))
    (direct : ∀ visible replacement, cx.resolver a visible = .ok (.direct replacement) →
      Q replacement) : Ensures (cx.resolve a) Q := by
  intro s t e h
  rcases ha : cx.resolver a s.scope.contains with error | member | replacement
  · rw [cx.outcome_resolve_error ha] at h
    cases h
  · obtain ⟨journal, hc⟩ := cx.outcome_resolve_capture ha
    rw [hc] at h
    cases h
    exact captured _ member ha
  · rw [cx.outcome_resolve_direct ha] at h
    cases h
    exact direct _ e ha

end Ensures

end LowerM

/-- What the parts of a method ensure holds of every lowered method. -/
theorem LowerM.Ensures.of_lower {cx : LoweringContext} {m : Method} {Q : Method → Prop}
    (h : Ensures (cx.visitParts m) Q) {r : LoweredMethod} (hr : cx.lower m = .ok r) :
    Q r.method := by
  rw [cx.lower_eq_match, outcome_visit_method] at hr
  rcases hp : outcome (cx.visitParts m) (LoweringState.initial.entering m) with ⟨_ | lowered, s⟩
    <;> rw [hp] at hr <;> cases hr
  exact h hp

end ShaderLowering
