import ShaderLowering.Proofs.Lowering.Outcome
import ShaderLowering.Proofs.Lowering.Stops
import ShaderLowering.Proofs.Names.MemberTable

/-!
# Why lowering fails first

When every member can be resolved, lowering a method goes through the stops of the
method and does nothing else that can fail.  It succeeds when no stop offends, and
otherwise it fails with the error of the first one that does.

`Follows` is what is proved of every step of a lowering: it fails where going through
its stops fails, and with the same error; otherwise it ends at the same position, in
the same method.

## Main definitions

* `LoweringContext.Resolves` — every question to the resolver is answered.
* `LowerM.Follows` — a step goes through stops.
* `Method.withoutAttributes` — a method without its attributes and those of its
  parameters.

## Main statements

* `follows_expr`, `follows_stmt`, `follows_method` — lowering goes through the stops.
* `lower_first_error` — when a method is lowered, and why it is not.
-/

namespace ShaderLowering

/-- Every question to the resolver is answered. -/
def LoweringContext.Resolves (cx : LoweringContext) : Prop :=
  ∀ a visible, ∃ answer, cx.resolver a visible = .ok answer

/-- Member tables answer every question when no path is refused. -/
theorem MemberTable.resolves_context {t : MemberTable} (none_refused : t.refused = [])
    (types : TypeMap) (capturePrefix : String) : (t.context types capturePrefix).Resolves := by
  intro a visible
  change ∃ answer, t.resolve a visible = .ok answer
  rcases t.resolve_cases a visible with ⟨path, -, -, found⟩ | renamed
  · have free : t.refused.contains (Path.extend path a.name) = false := by
      rw [none_refused]
      rfl
    cases static : t.statics.get? (path, a.name) with
    | some member =>
      rw [t.lookup_of_static free static] at found
      exact ⟨_, (Option.some.inj found).symm⟩
    | none =>
      rw [t.lookup_of_not_static free static] at found
      obtain ⟨x, -, answered⟩ := Option.map_eq_some_iff.1 found
      exact ⟨_, answered.symm⟩
  · exact ⟨_, renamed⟩

/-! ## Steps that go through stops -/

namespace LowerM

/-- A step goes through stops, and through nothing else that can fail. -/
structure Follows (types : TypeMap) {α : Type} (x : LowerM α) (stops : List Stop) : Prop where
  succeeds : ∀ {s last}, scan types s.method s.location stops = .ok last →
    ∃ a t, outcome x s = (.ok a, t) ∧ t.method = s.method ∧ t.location = last
  fails : ∀ {s e}, scan types s.method s.location stops = .error e →
    ∃ t, outcome x s = (.error e, t)

namespace Follows

variable {types : TypeMap} {α β : Type} {stops more : List Stop}

theorem pure (a : α) : Follows types (Pure.pure a) [] where
  succeeds {s last} h := by
    cases h
    exact ⟨a, s, rfl, rfl, rfl⟩
  fails h := by cases h

/-- What stops a sequence is what stops its first step, and then its second one. -/
theorem bind {x : LowerM α} {f : α → LowerM β} (hx : Follows types x stops)
    (hf : ∀ a, Follows types (f a) more) : Follows types (x >>= f) (stops ++ more) where
  succeeds {s last} h := by
    rw [scan_append] at h
    cases first : scan types s.method s.location stops with
    | error e =>
      rw [first] at h
      cases h
    | ok passed =>
      rw [first] at h
      obtain ⟨a, t, done, method_eq, location_eq⟩ := hx.succeeds first
      rw [← method_eq, ← location_eq] at h
      obtain ⟨b, u, done', method_eq', location_eq'⟩ := (hf a).succeeds h
      rw [outcome_bind_ok done]
      exact ⟨b, u, done', method_eq'.trans method_eq, location_eq'⟩
  fails {s e} h := by
    rw [scan_append] at h
    cases first : scan types s.method s.location stops with
    | error e' =>
      rw [first] at h
      cases h
      obtain ⟨t, failed⟩ := hx.fails first
      exact ⟨t, outcome_bind_error failed⟩
    | ok passed =>
      rw [first] at h
      obtain ⟨a, t, done, method_eq, location_eq⟩ := hx.succeeds first
      rw [← method_eq, ← location_eq] at h
      rw [outcome_bind_ok done]
      exact (hf a).fails h

/-- A second step without stops. -/
theorem andThen {x : LowerM α} {f : α → LowerM β} (hx : Follows types x stops)
    (hf : ∀ a, Follows types (f a) []) : Follows types (x >>= f) stops := by
  have both := hx.bind hf
  rwa [List.append_nil] at both

/-- A frame of its own has no stops of its own. -/
theorem inFrame {x : LowerM α} (hx : Follows types x stops) :
    Follows types (LowerM.inFrame x) stops where
  succeeds {s last} h := by
    obtain ⟨a, t, done, method_eq, location_eq⟩ :=
      hx.succeeds (s := { s with scope := s.scope.push }) h
    rw [outcome_inFrame, done]
    exact ⟨a, _, rfl, method_eq, location_eq⟩
  fails {s e} h := by
    obtain ⟨t, failed⟩ := hx.fails (s := { s with scope := s.scope.push }) h
    rw [outcome_inFrame, failed]
    exact ⟨_, rfl⟩

/-- A construct is refused, whatever is inside it. -/
theorem refuse (construct : Construct) (source : String) (span : Span) (inside : List Stop) :
    Follows types (LowerM.refuse construct source span : LowerM α)
      (.construct construct source span :: inside) where
  succeeds h := by cases h
  fails {s e} h := by
    cases h
    exact ⟨s, outcome_refuse ..⟩

theorem passBy (span : Span) : Follows types (LowerM.passBy span) [.position span] where
  succeeds {s last} h := by
    cases h
    exact ⟨⟨⟩, s.past span, outcome_passBy span s, s.method_past span, s.location_past span⟩
  fails h := by cases h

theorem declare (name : String) : Follows types (LowerM.declare name) [] where
  succeeds {s last} h := by
    cases h
    exact ⟨⟨⟩, _, rfl, rfl, rfl⟩
  fails h := by cases h

end Follows

end LowerM

/-! ## Lowering goes through the stops -/

section Rules

open LowerM

variable {cx : LoweringContext}

/-- A type is mapped exactly when it has a counterpart. -/
theorem TypeMap.map_of_knows {types : TypeMap} {type : TypeName} (h : types.knows type = true) :
    ∃ mapped, types.map type = .ok mapped := by
  obtain ⟨shader, found⟩ := Option.isSome_iff_exists.1 h
  exact ⟨⟨shader, type.span⟩, by rw [map, found]⟩

theorem TypeMap.map_of_not_knows {types : TypeMap} {type : TypeName}
    (h : types.knows type = false) :
    types.map type = .error (.unmappedType type.name type.span) := by
  have missing : types.lookup type.name = none := Option.not_isSome_iff_eq_none.1 (by
    rw [knows] at h
    simp [h])
  rw [map, missing]

theorem follows_mapType (type : TypeName) : Follows cx.types (cx.mapType type) [.type type] where
  succeeds {s last} h := by
    cases known : cx.types.knows type with
    | false => simp [scan, Stop.error?, known] at h
    | true =>
      obtain ⟨mapped, hm⟩ := TypeMap.map_of_knows known
      simp only [scan, Stop.error?, known, if_true, Except.ok.injEq] at h
      refine ⟨mapped, s.past type.span, by rw [cx.outcome_mapType, hm], s.method_past _, ?_⟩
      rw [s.location_past, ← h]
      rfl
  fails {s e} h := by
    cases known : cx.types.knows type with
    | true => simp [scan, Stop.error?, known] at h
    | false =>
      simp only [scan, Stop.error?, known, Bool.false_eq_true, if_false, Except.error.injEq] at h
      exact ⟨s.past type.span, by rw [cx.outcome_mapType, TypeMap.map_of_not_knows known, h]⟩

/-- Where every question is answered, resolving an access cannot fail. -/
theorem follows_resolve (resolves : cx.Resolves) (a : Access) :
    Follows cx.types (cx.resolve a) [] where
  succeeds {s last} h := by
    cases h
    obtain ⟨member | replacement, answered⟩ := resolves a s.scope.contains
    · obtain ⟨journal, done⟩ := cx.outcome_resolve_capture answered
      exact ⟨_, _, done, rfl, rfl⟩
    · exact ⟨_, _, cx.outcome_resolve_direct answered, rfl, rfl⟩
  fails h := by cases h

/-! ### Expressions -/

mutual

/-- Lowering an expression goes through its stops. -/
theorem follows_expr (resolves : cx.Resolves) : ∀ e : Expr,
    Follows cx.types (e.visit cx.rules) e.stops
  | .literal (.string _) | .literal .null => .refuse ..
  | .literal (.bool _) | .literal (.int _) | .literal (.uint _) | .literal (.float _)
  | .literal (.double _) | .ident _ => .pure _
  | .member target name span => by
    rw [visit_member]
    refine (Follows.passBy span).bind fun _ => ?_
    exact (follows_expr resolves target).andThen fun _ => follows_resolve resolves _
  | .call callee args =>
    (follows_expr resolves callee).bind fun _ => (follows_exprs resolves args).andThen fun _ =>
      .pure _
  | .index target position =>
    (follows_expr resolves target).bind fun _ => (follows_expr resolves position).andThen fun _ =>
      .pure _
  | .cast type operand => by
    rw [visit_cast]
    refine (follows_expr resolves operand).bind fun _ => ?_
    exact (follows_mapType type).andThen fun _ => .pure _
  | .creation type args => by
    rw [visit_creation]
    refine (follows_exprs resolves args).bind fun args => ?_
    refine (follows_mapType type).andThen fun _ => ?_
    cases args <;> exact .pure _
  | .creationWith .. => .refuse ..
  | .defaultOf type => by
    rw [visit_defaultOf]
    exact (follows_mapType type).andThen fun _ => .pure _
  | .unary _ operand => (follows_expr resolves operand).andThen fun _ => .pure _
  | .binary _ lhs rhs =>
    (follows_expr resolves lhs).bind fun _ => (follows_expr resolves rhs).andThen fun _ => .pure _
  | .assign _ target value =>
    (follows_expr resolves target).bind fun _ => (follows_expr resolves value).andThen fun _ =>
      .pure _
  | .conditional cond onTrue onFalse =>
    (follows_expr resolves cond).bind fun _ => (follows_expr resolves onTrue).bind fun _ =>
      (follows_expr resolves onFalse).andThen fun _ => .pure _
  | .paren inner => (follows_expr resolves inner).andThen fun _ => .pure _
  | .lambda .. => .refuse ..
termination_by structural e => e

theorem follows_exprs (resolves : cx.Resolves) : ∀ es : List Expr,
    Follows cx.types (Expr.visitAll cx.rules es) (Expr.allStops es)
  | [] => .pure _
  | e :: es =>
    (follows_expr resolves e).bind fun _ => (follows_exprs resolves es).andThen fun _ => .pure _
termination_by structural es => es

end

theorem follows_optional (resolves : cx.Resolves) (e : Option Expr) :
    Follows cx.types (Expr.visitOption cx.rules e) (Expr.optionStops e) := by
  cases e with
  | none => exact .pure _
  | some e => exact (follows_expr resolves e).andThen fun _ => .pure _

/-! ### Statements -/

theorem follows_declarators (resolves : cx.Resolves) (ds : List Declarator) :
    Follows cx.types (Declarator.visitAll cx.rules ds)
      (ds.flatMap fun d => Expr.optionStops d.init) := by
  induction ds with
  | nil => exact .pure _
  | cons d ds ih =>
    have first : Follows cx.types (d.visit cx.rules) (Expr.optionStops d.init) := by
      rw [visit_declarator]
      exact (follows_optional resolves d.init).andThen fun _ =>
        (Follows.declare d.name).andThen fun _ => .pure _
    exact first.bind fun _ => ih.andThen fun _ => .pure _

theorem follows_declaration (resolves : cx.Resolves) (d : Declaration) :
    Follows cx.types (d.visit cx.rules) d.stops := by
  obtain ⟨type, ds⟩ := d
  cases type with
  | none => exact .refuse ..
  | some type =>
    rw [visit_typed]
    exact (follows_declarators resolves ds).bind fun _ =>
      (follows_mapType type).andThen fun _ => .pure _

mutual

/-- Lowering a statement goes through its stops. -/
theorem follows_stmt (resolves : cx.Resolves) : ∀ s : Stmt,
    Follows cx.types (s.visit cx.rules) s.stops
  | .declare d => (follows_declaration resolves d).andThen fun _ => .pure _
  | .expr value => (follows_expr resolves value).andThen fun _ => .pure _
  | .ret value => (follows_optional resolves value).andThen fun _ => .pure _
  | .branch cond onTrue onFalse =>
    (follows_expr resolves cond).bind fun _ => (follows_block resolves onTrue).inFrame.bind fun _ =>
      (follows_else resolves onFalse).andThen fun _ => .pure _
  | .forLoop init cond step body => by
    rw [visit_forLoop]
    refine .inFrame ((follows_init resolves init).bind fun _ => ?_)
    refine (follows_optional resolves cond).bind fun _ => ?_
    refine (follows_exprs resolves step).bind fun _ => ?_
    exact (follows_block resolves body).inFrame.andThen fun _ => .pure _
  | .whileLoop cond body =>
    (follows_expr resolves cond).bind fun _ =>
      (follows_block resolves body).inFrame.andThen fun _ => .pure _
  | .foreachLoop .. => .refuse ..
  | .block body => (follows_block resolves body).inFrame.andThen fun _ => .pure _
  | .breakLoop | .continueLoop => .pure _
termination_by structural s => s

theorem follows_block (resolves : cx.Resolves) : ∀ b : List Stmt,
    Follows cx.types (Stmt.visitAll cx.rules b) (Stmt.allStops b)
  | [] => .pure _
  | s :: rest =>
    (follows_stmt resolves s).bind fun _ => (follows_block resolves rest).andThen fun _ => .pure _
termination_by structural b => b

theorem follows_else (resolves : cx.Resolves) : ∀ b : Option (List Stmt),
    Follows cx.types (Stmt.visitElse cx.rules b) (Stmt.elseStops b)
  | none => .pure _
  | some body => (follows_block resolves body).inFrame.andThen fun _ => .pure _
termination_by structural b => b

theorem follows_init (resolves : cx.Resolves) : ∀ init : Option Stmt,
    Follows cx.types (Stmt.visitInit cx.rules init) (Stmt.initStops init)
  | none => .pure _
  | some init => (follows_stmt resolves init).andThen fun _ => .pure _
termination_by structural init => init

end

/-! ### Methods -/

theorem follows_parameters (ps : List Parameter) :
    Follows cx.types (Parameter.visitAll cx.rules ps) (ps.map fun p => .type p.type) := by
  induction ps with
  | nil => exact .pure _
  | cons p ps ih =>
    have first : Follows cx.types (p.visit cx.rules) [.type p.type] := by
      rw [visit_parameter]
      exact (follows_mapType p.type).andThen fun _ =>
        (Follows.declare p.name).andThen fun _ => .pure _
    exact first.bind fun _ => ih.andThen fun _ => .pure _

/-- Lowering the parts of a method goes through its stops. -/
theorem follows_method (resolves : cx.Resolves) (m : Method) :
    Follows cx.types (cx.visitParts m) m.stops :=
  (follows_parameters m.parameters).bind fun _ => (follows_block resolves m.body).inFrame.bind
    fun _ => (follows_mapType m.returnType).andThen fun _ => .pure _

end Rules

/-! ## Attributes -/

/-- A parameter without its attributes. -/
def Parameter.withoutAttributes (p : Parameter) : Parameter :=
  { p with attributes := [] }

/-- A method without its attributes and those of its parameters. -/
def Method.withoutAttributes (m : Method) : Method :=
  { m with attributes := [], parameters := m.parameters.map Parameter.withoutAttributes }

/-- Attributes are dropped unseen. -/
theorem lower_withoutAttributes (cx : LoweringContext) (m : Method) :
    cx.lower m.withoutAttributes = cx.lower m := by
  have parameters (ps : List Parameter) :
      Parameter.visitAll cx.rules (ps.map Parameter.withoutAttributes)
        = Parameter.visitAll cx.rules ps := by
    induction ps with
    | nil => rfl
    | cons p ps ih =>
      have first : p.withoutAttributes.visit cx.rules = p.visit cx.rules := by
        rw [visit_parameter, visit_parameter]
        rfl
      rw [List.map_cons, Parameter.visitAll, Parameter.visitAll, first, ih]
  have parts : cx.visitParts m.withoutAttributes = cx.visitParts m := by
    unfold LoweringContext.visitParts
    rw [Method.withoutAttributes, parameters]
  rw [cx.lower_eq_match, cx.lower_eq_match, outcome_visit_method, outcome_visit_method, parts]
  rfl

/-! ## The first error -/

/-- **Why lowering fails first.**  Where every member can be resolved, a method is
lowered exactly when its types have counterparts and nothing in it is refused.  When
it is not, the error is the one at its first stop that offends, and it carries the
last position passed before where it has none of its own.  Attributes have no part in
it. -/
theorem lower_first_error (cx : LoweringContext) (resolves : cx.Resolves) (m : Method) :
    ((∃ r, cx.lower m = .ok r) ↔ m.isLowerable cx.types = true) ∧
    (∀ e, cx.lower m = .error e ↔ FirstError cx.types m.name .unknown m.stops e) ∧
    cx.lower m.withoutAttributes = cx.lower m := by
  have follows := follows_method resolves m
  -- The walk over the parts begins behind `entering m`, where no position has been passed.
  have lower_ok {last : Span} (h : scan cx.types m.name .unknown m.stops = .ok last) :
      ∃ r, cx.lower m = .ok r := by
    obtain ⟨lowered, t, done, -, -⟩ := follows.succeeds (s := LoweringState.initial.entering m) h
    rw [cx.lower_eq_match, outcome_visit_method, done]
    exact ⟨_, rfl⟩
  have lower_error {e : LoweringError} (h : scan cx.types m.name .unknown m.stops = .error e) :
      cx.lower m = .error e := by
    obtain ⟨t, failed⟩ := follows.fails (s := LoweringState.initial.entering m) h
    rw [cx.lower_eq_match, outcome_visit_method, failed]
  refine ⟨?_, fun e => ?_, lower_withoutAttributes cx m⟩
  · rw [← m.harmless_stops cx.types, ← scan_eq_ok_iff cx.types m.name .unknown]
    constructor
    · rintro ⟨r, lowered⟩
      cases h : scan cx.types m.name .unknown m.stops with
      | ok last => exact ⟨last, rfl⟩
      | error e =>
        rw [lower_error h] at lowered
        cases lowered
    · rintro ⟨last, h⟩
      exact lower_ok h
  · rw [← scan_eq_error_iff]
    constructor
    · intro failed
      cases h : scan cx.types m.name .unknown m.stops with
      | error e' =>
        rw [lower_error h] at failed
        cases failed
        rfl
      | ok last =>
        obtain ⟨r, lowered⟩ := lower_ok h
        rw [lowered] at failed
        cases failed
    · exact lower_error

/-- A method with a null below a cast to a type without a counterpart, and with a
return type that has none either. -/
def nullBelowCast : Method where
  attributes := []
  returnType := .named "Absent"
  name := "Run"
  parameters := [.plain ⟨"float", ⟨1, 5⟩⟩ "a"]
  body := [.expr (.cast (.named "Missing")
    (.call (.member (.ident "a") "b" ⟨3, 7⟩) [.literal .null]))]

/-- The null is met before the types, behind the position of the access in front of
it. -/
theorem lower_first_error_null :
    (MemberTable.vectorFields.context (TypeMap.empty.register "float" "half") "__").Resolves ∧
      (MemberTable.vectorFields.context (TypeMap.empty.register "float" "half") "__").lower
        nullBelowCast = .error (.unsupported "Run" .nullLiteral "null" ⟨3, 7⟩) := by
  have resolves := MemberTable.resolves_context (t := MemberTable.vectorFields) rfl
    (TypeMap.empty.register "float" "half") "__"
  refine ⟨resolves, ((lower_first_error _ resolves nullBelowCast).2.1 _).2 ?_⟩
  exact ⟨[.type ⟨"float", ⟨1, 5⟩⟩, .position ⟨3, 7⟩], .construct .nullLiteral "null" .unknown,
    [.type (.named "Missing"), .type (.named "Absent")], rfl, rfl, rfl⟩

end ShaderLowering
