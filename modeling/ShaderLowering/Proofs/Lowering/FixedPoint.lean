import ShaderLowering.Proofs.Data.Dictionary
import ShaderLowering.Proofs.Lowering.Steps
import ShaderLowering.Proofs.Names.MemberTable

/-!
# Lowering twice

A lowered method is a method again, and can be lowered once more.  Nothing happens to it
the second time, if shader types stand for themselves and the member table only renames
members, to names that it leaves alone.

Nothing in a lowered tree says that it is one; what matters is how the walk goes over
it.  A part of a method is settled if the walk gives it back from every state, without
capturing anything.  Every rule makes a settled part of settled parts, also where it puts
a form into the tree that the host never had: the cast of a zero, or a call in place of
a construction.

## Main definitions

* `MemberTable.OnlyRenames` — tables that say nothing of any path.
* `LowerM.Yields` — a step gives one result from every state and captures nothing.
* `LoweringContext.Idle` — mapping types and resolving members twice is doing it once.

## Main statements

* `settles_expr`, `settles_stmt`, `settles_method` — what is lowered is settled.
* `lower_lowered` — a lowered method is lowered to itself.
-/

namespace ShaderLowering

/-! ## Tables that only rename -/

namespace MemberTable

/-- A table that has no static member, no alias and no refused path. -/
structure OnlyRenames (t : MemberTable) : Prop where
  no_static : ∀ key, t.statics.get? key = none
  no_alias : ∀ path, t.aliases.get? path = none
  no_refused : ∀ path, t.refused.contains path = false

theorem onlyRenames_empty : empty.OnlyRenames :=
  ⟨fun _ => rfl, fun _ => rfl, fun _ => rfl⟩

/-- Registering renames adds nothing else. -/
theorem OnlyRenames.addRename {t : MemberTable} (h : t.OnlyRenames)
    (member replacement : String) : (t.addRename member replacement).OnlyRenames :=
  ⟨h.no_static, h.no_alias, h.no_refused⟩

/-- The table for the fields of vectors is one of them. -/
theorem onlyRenames_vectorFields : vectorFields.OnlyRenames := by
  unfold vectorFields
  iterate 4 apply OnlyRenames.addRename
  exact onlyRenames_empty

/-- The fields of vectors are renamed to names that stay. -/
theorem rename_vectorFields {name replacement : String}
    (h : vectorFields.renames.get? name = some replacement) :
    vectorFields.rename replacement = replacement := by
  have entry : (name, replacement) ∈ [("X", "x"), ("Y", "y"), ("Z", "z"), ("W", "w")] :=
    Dictionary.mem_entries_of_get? h
  have kept : ∀ e ∈ [("X", "x"), ("Y", "y"), ("Z", "z"), ("W", "w")],
      vectorFields.rename e.2 = e.2 := by decide
  exact kept _ entry

/-- Such a table answers every access with the access itself, renamed. -/
theorem OnlyRenames.resolve_eq {t : MemberTable} (h : t.OnlyRenames) (a : Access)
    (visible : String → Bool) : t.resolve a visible = .ok (.direct (t.renamed a)) := by
  rcases t.resolve_cases a visible with ⟨path, -, -, found⟩ | renamed
  · rw [t.lookup_of_not_static (h.no_refused _) (h.no_static _), h.no_alias] at found
    cases found
  · exact renamed

end MemberTable

/-! ## Steps with one result -/

namespace LowerM

variable {α β : Type}

/-- A step gives one result from every state, and captures nothing. -/
def Yields (x : LowerM α) (a : α) : Prop :=
  ∀ s, ∃ t, outcome x s = (.ok a, t) ∧ t.captures = s.captures

namespace Yields

theorem pure (a : α) : Yields (Pure.pure a) a := by
  intro s
  exact ⟨s, rfl, rfl⟩

theorem bind {x : LowerM α} {f : α → LowerM β} {a : α} {b : β} (hx : Yields x a)
    (hf : Yields (f a) b) : Yields (x >>= f) b := by
  intro s
  obtain ⟨t, first, captures_t⟩ := hx s
  obtain ⟨u, second, captures_u⟩ := hf t
  refine ⟨u, ?_, captures_u.trans captures_t⟩
  rw [outcome_bind_ok first, second]

theorem inFrame {x : LowerM α} {a : α} (hx : Yields x a) : Yields (LowerM.inFrame x) a := by
  intro s
  obtain ⟨t, inside, captures_t⟩ := hx { s with scope := s.scope.push }
  rw [outcome_inFrame, inside]
  exact ⟨_, rfl, captures_t⟩

theorem declare (name : String) : Yields (LowerM.declare name) () := by
  intro s
  exact ⟨_, rfl, rfl⟩

theorem passBy (span : Span) : Yields (LowerM.passBy span) () := by
  intro s
  exact ⟨s.past span, outcome_passBy span s, s.captures_past span⟩

end Yields

end LowerM

/-! ## Settled parts -/

/-- Mapping types and resolving members twice is doing it once. -/
structure LoweringContext.Idle (cx : LoweringContext) : Prop where
  /-- What a type is mapped to is mapped to itself. -/
  map_map : ∀ type mapped, cx.types.map type = .ok mapped → cx.types.map mapped = .ok mapped
  /-- An access is replaced by itself under another name, which it then keeps. -/
  resolve_resolve : ∀ target name span, ∃ renamed,
    (∀ visible, cx.resolver ⟨target, name, span⟩ visible
      = .ok (.direct (.member target renamed span))) ∧
    ∀ visible, cx.resolver ⟨target, renamed, span⟩ visible
      = .ok (.direct (.member target renamed span))

section Settled

open LowerM

variable {cx : LoweringContext}

theorem yields_mapType {type : TypeName} (h : cx.types.map type = .ok type) :
    Yields (cx.mapType type) type := by
  intro s
  refine ⟨s.past type.span, ?_, s.captures_past type.span⟩
  rw [cx.outcome_mapType, h]

/-- A mapped type is settled. -/
theorem settles_mapType (idle : cx.Idle) (type : TypeName) :
    Ensures (cx.mapType type) fun mapped => Yields (cx.mapType mapped) mapped := by
  intro s t mapped h
  have mapped_eq : cx.types.map type = .ok mapped := Ensures.mapType cx type h
  exact yields_mapType (idle.map_map type mapped mapped_eq)

/-- An access to a settled target becomes a settled access. -/
theorem settles_resolve (idle : cx.Idle) {target : Expr} (name : String) (span : Span)
    (settled : Yields (target.visit cx.rules) target) :
    Ensures (cx.resolve ⟨target, name, span⟩) fun e => Yields (e.visit cx.rules) e := by
  obtain ⟨renamed, first, second⟩ := idle.resolve_resolve target name span
  intro s t e h
  rw [cx.outcome_resolve_direct (first _)] at h
  cases h
  rw [visit_member]
  refine (Yields.passBy span).bind (settled.bind ?_)
  intro u
  exact ⟨u, cx.outcome_resolve_direct (second _), rfl⟩

/-! ### Expressions -/

mutual

/-- Every expression is lowered to a settled one. -/
theorem settles_expr (idle : cx.Idle) : ∀ e : Expr,
    Ensures (e.visit cx.rules) fun e' => Yields (e'.visit cx.rules) e'
  | .literal (.string _) | .literal .null | .creationWith .. | .lambda .. => .refuse ..
  | .literal (.bool _) | .literal (.int _) | .literal (.uint _) | .literal (.float _)
  | .literal (.double _) | .ident _ => .pure (.pure _)
  | .member target name span => by
    rw [visit_member]
    refine .skip fun _ => (settles_expr idle target).bind ?_
    intro target' settled
    exact settles_resolve idle name span settled
  | .call callee args => by
    refine (settles_expr idle callee).bind fun callee' hc => ?_
    refine (settles_exprs idle args).bind fun args' ha => .pure ?_
    exact hc.bind (ha.bind (.pure _))
  | .index target position => by
    refine (settles_expr idle target).bind fun target' ht => ?_
    refine (settles_expr idle position).bind fun position' hp => .pure ?_
    exact ht.bind (hp.bind (.pure _))
  | .cast type operand => by
    rw [visit_cast]
    refine (settles_expr idle operand).bind fun operand' ho => ?_
    refine (settles_mapType idle type).bind fun type' hm => .pure ?_
    rw [visit_cast]
    exact ho.bind (hm.bind (.pure _))
  | .creation type args => by
    rw [visit_creation]
    refine (settles_exprs idle args).bind fun args' ha => ?_
    refine (settles_mapType idle type).bind fun type' hm => ?_
    cases args' with
    | nil =>
      -- The cast of a zero is lowered as a cast, not as the construction it came from.
      refine .pure ?_
      rw [Expr.zero, visit_cast]
      exact (Yields.pure (Expr.int 0)).bind (hm.bind (.pure _))
    | cons first rest =>
      -- The mapped type is the name of a function now, which is not mapped again.
      refine .pure ?_
      exact (Yields.pure (Expr.ident type'.name)).bind (ha.bind (.pure _))
  | .defaultOf type => by
    rw [visit_defaultOf]
    refine (settles_mapType idle type).bind fun type' hm => .pure ?_
    rw [Expr.zero, visit_cast]
    exact (Yields.pure (Expr.int 0)).bind (hm.bind (.pure _))
  | .unary op operand => by
    refine (settles_expr idle operand).bind fun operand' ho => .pure ?_
    exact ho.bind (.pure _)
  | .binary op lhs rhs => by
    refine (settles_expr idle lhs).bind fun lhs' hl => ?_
    refine (settles_expr idle rhs).bind fun rhs' hr => .pure ?_
    exact hl.bind (hr.bind (.pure _))
  | .assign op target value => by
    refine (settles_expr idle target).bind fun target' ht => ?_
    refine (settles_expr idle value).bind fun value' hv => .pure ?_
    exact ht.bind (hv.bind (.pure _))
  | .conditional cond onTrue onFalse => by
    refine (settles_expr idle cond).bind fun cond' hc => ?_
    refine (settles_expr idle onTrue).bind fun onTrue' ht => ?_
    refine (settles_expr idle onFalse).bind fun onFalse' hf => .pure ?_
    exact hc.bind (ht.bind (hf.bind (.pure _)))
  | .paren inner => by
    refine (settles_expr idle inner).bind fun inner' hi => .pure ?_
    exact hi.bind (.pure _)
termination_by structural e => e

theorem settles_exprs (idle : cx.Idle) : ∀ es : List Expr,
    Ensures (Expr.visitAll cx.rules es) fun es' => Yields (Expr.visitAll cx.rules es') es'
  | [] => .pure (.pure _)
  | e :: es => by
    refine (settles_expr idle e).bind fun e' he => ?_
    refine (settles_exprs idle es).bind fun es' hes => .pure ?_
    exact he.bind (hes.bind (.pure _))
termination_by structural es => es

end

theorem settles_optional (idle : cx.Idle) (e : Option Expr) :
    Ensures (Expr.visitOption cx.rules e) fun e' => Yields (Expr.visitOption cx.rules e') e' := by
  cases e with
  | none => exact .pure (.pure _)
  | some e =>
    refine (settles_expr idle e).bind fun e' he => .pure ?_
    exact he.bind (.pure _)

/-! ### Statements -/

theorem settles_declarators (idle : cx.Idle) (ds : List Declarator) :
    Ensures (Declarator.visitAll cx.rules ds)
      fun ds' => Yields (Declarator.visitAll cx.rules ds') ds' := by
  induction ds with
  | nil => exact .pure (.pure _)
  | cons d ds ih =>
    have first : Ensures (d.visit cx.rules) fun d' => Yields (d'.visit cx.rules) d' := by
      rw [visit_declarator]
      refine (settles_optional idle d.init).bind fun init' hi => .skip fun _ => .pure ?_
      rw [visit_declarator]
      exact hi.bind ((Yields.declare d.name).bind (.pure _))
    refine first.bind fun d' hd => ih.bind fun ds' hds => .pure ?_
    exact hd.bind (hds.bind (.pure _))

theorem settles_declaration (idle : cx.Idle) (d : Declaration) :
    Ensures (d.visit cx.rules) fun d' => Yields (d'.visit cx.rules) d' := by
  obtain ⟨type, ds⟩ := d
  cases type with
  | none => exact .refuse ..
  | some type =>
    rw [visit_typed]
    refine (settles_declarators idle ds).bind fun ds' hds => ?_
    refine (settles_mapType idle type).bind fun type' hm => .pure ?_
    rw [visit_typed]
    exact hds.bind (hm.bind (.pure _))

mutual

/-- Every statement is lowered to a settled one. -/
theorem settles_stmt (idle : cx.Idle) : ∀ s : Stmt,
    Ensures (s.visit cx.rules) fun s' => Yields (s'.visit cx.rules) s'
  | .declare d => by
    refine (settles_declaration idle d).bind fun d' hd => .pure ?_
    exact hd.bind (.pure _)
  | .expr value => by
    refine (settles_expr idle value).bind fun value' hv => .pure ?_
    exact hv.bind (.pure _)
  | .ret value => by
    refine (settles_optional idle value).bind fun value' hv => .pure ?_
    exact hv.bind (.pure _)
  | .branch cond onTrue onFalse => by
    refine (settles_expr idle cond).bind fun cond' hc => ?_
    refine (settles_block idle onTrue).inFrame.bind fun onTrue' ht => ?_
    refine (settles_else idle onFalse).bind fun onFalse' hf => .pure ?_
    exact hc.bind (ht.inFrame.bind (hf.bind (.pure _)))
  | .forLoop init cond step body => by
    rw [visit_forLoop]
    refine .inFrame ((settles_init idle init).bind fun init' hi => ?_)
    refine (settles_optional idle cond).bind fun cond' hc => ?_
    refine (settles_exprs idle step).bind fun step' hs => ?_
    refine (settles_block idle body).inFrame.bind fun body' hb => .pure ?_
    rw [visit_forLoop]
    exact .inFrame (hi.bind (hc.bind (hs.bind (hb.inFrame.bind (.pure _)))))
  | .whileLoop cond body => by
    refine (settles_expr idle cond).bind fun cond' hc => ?_
    refine (settles_block idle body).inFrame.bind fun body' hb => .pure ?_
    exact hc.bind (hb.inFrame.bind (.pure _))
  | .foreachLoop .. => .refuse ..
  | .block body => by
    refine (settles_block idle body).inFrame.bind fun body' hb => .pure ?_
    exact hb.inFrame.bind (.pure _)
  | .breakLoop | .continueLoop => .pure (.pure _)
termination_by structural s => s

theorem settles_block (idle : cx.Idle) : ∀ b : List Stmt,
    Ensures (Stmt.visitAll cx.rules b) fun b' => Yields (Stmt.visitAll cx.rules b') b'
  | [] => .pure (.pure _)
  | s :: rest => by
    refine (settles_stmt idle s).bind fun s' hs => ?_
    refine (settles_block idle rest).bind fun rest' hr => .pure ?_
    exact hs.bind (hr.bind (.pure _))
termination_by structural b => b

theorem settles_else (idle : cx.Idle) : ∀ b : Option (List Stmt),
    Ensures (Stmt.visitElse cx.rules b) fun b' => Yields (Stmt.visitElse cx.rules b') b'
  | none => .pure (.pure _)
  | some body => by
    refine (settles_block idle body).inFrame.bind fun body' hb => .pure ?_
    exact hb.inFrame.bind (.pure _)
termination_by structural b => b

theorem settles_init (idle : cx.Idle) : ∀ init : Option Stmt,
    Ensures (Stmt.visitInit cx.rules init) fun init' => Yields (Stmt.visitInit cx.rules init') init'
  | none => .pure (.pure _)
  | some init => by
    refine (settles_stmt idle init).bind fun init' hi => .pure ?_
    exact hi.bind (.pure _)
termination_by structural init => init

end

/-! ### Methods -/

theorem Passing.lowered_lowered (passing : Passing) :
    passing.lowered.lowered = passing.lowered := by
  cases passing <;> rfl

theorem settles_parameters (idle : cx.Idle) (ps : List Parameter) :
    Ensures (Parameter.visitAll cx.rules ps)
      fun ps' => Yields (Parameter.visitAll cx.rules ps') ps' := by
  induction ps with
  | nil => exact .pure (.pure _)
  | cons p ps ih =>
    have first : Ensures (p.visit cx.rules) fun p' => Yields (p'.visit cx.rules) p' := by
      rw [visit_parameter]
      refine (settles_mapType idle p.type).bind fun type' hm => .skip fun _ => .pure ?_
      rw [visit_parameter, Passing.lowered_lowered]
      exact hm.bind ((Yields.declare p.name).bind (.pure _))
    refine first.bind fun p' hp => ih.bind fun ps' hps => .pure ?_
    exact hp.bind (hps.bind (.pure _))

/-- Every method is lowered to a settled one. -/
theorem settles_method (idle : cx.Idle) (m : Method) :
    Ensures (cx.visitParts m) fun m' => Yields (cx.visitParts m') m' := by
  refine (settles_parameters idle m.parameters).bind fun parameters' hp => ?_
  refine (settles_block idle m.body).inFrame.bind fun body' hb => ?_
  refine (settles_mapType idle m.returnType).bind fun returnType' hm => .pure ?_
  exact hp.bind (hb.inFrame.bind (hm.bind (.pure _)))

/-- A settled method is lowered to itself. -/
theorem lower_eq_of_yields {m : Method} (settled : Yields (cx.visitParts m) m) :
    cx.lower m = .ok ⟨m, .empty⟩ := by
  obtain ⟨s, done, captures_eq⟩ := settled (LoweringState.initial.entering m)
  rw [cx.lower_eq_match, outcome_visit_method, done]
  simp only [captures_eq]
  rfl

end Settled

/-- Renaming twice is renaming once, if the new names are left alone. -/
theorem MemberTable.rename_rename {t : MemberTable}
    (renamed : ∀ name replacement, t.renames.get? name = some replacement →
      t.rename replacement = replacement) (name : String) :
    t.rename (t.rename name) = t.rename name := by
  cases found : t.renames.get? name with
  | none =>
    have kept : t.rename name = name := by rw [rename, found, Option.getD_none]
    rw [kept, kept]
  | some replacement =>
    have moved : t.rename name = replacement := by rw [rename, found, Option.getD_some]
    rw [moved, renamed name replacement found]

/-- Mapping twice is mapping once, if shader types stand for themselves. -/
theorem TypeMap.map_map {types : TypeMap}
    (mapped : ∀ host shader, types.lookup host = some shader →
      types.lookup shader = some shader)
    {type type' : TypeName} (h : types.map type = .ok type') : types.map type' = .ok type' := by
  rw [map] at h ⊢
  cases found : types.lookup type.name with
  | none => simp [found] at h
  | some shader =>
    simp only [found, Except.ok.injEq] at h
    subst h
    simp only [mapped _ _ found]

/-- **What is lowered stays as it is.**  Let every shader type of the type map be mapped to
itself, and let the table do nothing but rename members, to names that it does not rename
to something else.  Then whatever a method is lowered to is lowered to itself, positions
included, and captures nothing. -/
theorem lower_lowered (t : MemberTable) (types : TypeMap) (capturePrefix : String) (m : Method)
    (r : LoweredMethod)
    (mapped : ∀ host shader, types.lookup host = some shader →
      types.lookup shader = some shader)
    (only : t.OnlyRenames)
    (renamed : ∀ name replacement, t.renames.get? name = some replacement →
      t.rename replacement = replacement)
    (h : (t.context types capturePrefix).lower m = .ok r) :
    (t.context types capturePrefix).lower r.method = .ok ⟨r.method, .empty⟩ := by
  have idle : (t.context types capturePrefix).Idle := by
    constructor
    · intro type type' hm
      exact TypeMap.map_map mapped hm
    · intro target name span
      refine ⟨t.rename name, fun visible => only.resolve_eq _ visible, fun visible => ?_⟩
      have again := only.resolve_eq ⟨target, t.rename name, span⟩ visible
      rwa [MemberTable.renamed, MemberTable.rename_rename renamed] at again
  apply lower_eq_of_yields
  exact (settles_method idle m).of_lower h

/-- A method with a reference parameter, a default value, a construction with arguments and
a field of a vector. -/
def shifted : Method where
  attributes := []
  returnType := .named "Float3"
  name := "Shifted"
  parameters := [⟨[⟨"In", []⟩], .reference, ⟨"Float3", ⟨2, 9⟩⟩, "v"⟩]
  body := [.declare (.single (.named "Float3") "zero" (some (.defaultOf (.named "Float3")))),
    .ret (some (.creation (.named "Float3") [.member (.ident "v") "X" ⟨4, 12⟩,
      .access (.ident "zero") "y"]))]

/-- What becomes of `shifted`. -/
def shiftedShader : Method where
  attributes := []
  returnType := .named "float3"
  name := "Shifted"
  parameters := [⟨[], .inout, ⟨"float3", ⟨2, 9⟩⟩, "v"⟩]
  body := [.declare (.single (.named "float3") "zero" (some (.zero (.named "float3")))),
    .ret (some (.call (.ident "float3") [.member (.ident "v") "x" ⟨4, 12⟩,
      .access (.ident "zero") "y"]))]

/-- Types under which shader types stand for themselves. -/
def shiftedTypes : TypeMap :=
  (TypeMap.empty.register "Float3" "float3").register "float3" "float3"

/-- Lowering `shifted` twice, with the fields of vectors renamed. -/
theorem lower_lowered_shifted :
    (MemberTable.vectorFields.context shiftedTypes "__").lower shifted
        = .ok ⟨shiftedShader, .empty⟩ ∧
      (MemberTable.vectorFields.context shiftedTypes "__").lower shiftedShader
        = .ok ⟨shiftedShader, .empty⟩ := by
  have lowered : (MemberTable.vectorFields.context shiftedTypes "__").lower shifted
      = .ok ⟨shiftedShader, .empty⟩ := by rfl
  have mapped : ∀ host shader, shiftedTypes.lookup host = some shader →
      shiftedTypes.lookup shader = some shader := by
    intro host shader h
    have entry : (host, shader) ∈ [("Float3", "float3"), ("float3", "float3")] :=
      Dictionary.mem_entries_of_get? h
    have kept : ∀ e ∈ [("Float3", "float3"), ("float3", "float3")],
        shiftedTypes.lookup e.2 = some e.2 := by decide
    exact kept _ entry
  refine ⟨lowered, ?_⟩
  exact lower_lowered _ _ _ _ _ mapped MemberTable.onlyRenames_vectorFields
    (fun _ _ => MemberTable.rename_vectorFields) lowered

end ShaderLowering
