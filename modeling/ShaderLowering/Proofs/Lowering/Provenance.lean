import ShaderLowering.Proofs.Lowering.Hygiene
import ShaderLowering.Proofs.Lowering.Transcript

/-!
# Where names come from

The names in a lowered method are not made up.  An identifier in its body stands in the
body of the method already, or it is an alias of the member table, the shader name of a
type that the method constructs, or the name of one of the captures.  A member name is
one of the method, as it is or renamed by the table; the parameters and locals are those
of the method; and the captures are members of the table under their capture names.

Identifiers are followed through the tree: a part of a lowered expression is traced to
the parts of the method.  Captures are followed through the transcript: whatever is
captured, the resolver has asked for.

## Main definitions

* `Expr.parts`, `Stmt.parts` — the expressions inside a tree, at any depth.
* `Expr.Traced` — where a part of a lowered method comes from.

## Main statements

* `exists_answer_of_mem_captures` — captures are answers of the resolver.
* `lower_names` — where the names in a lowered method come from.
-/

namespace ShaderLowering

/-! ## Parts -/

mutual

/-- An expression and all those inside it. -/
def Expr.parts : Expr → List Expr
  | .literal value => [.literal value]
  | .ident name => [.ident name]
  | .member target name span => .member target name span :: target.parts
  | .call callee args => .call callee args :: (callee.parts ++ Expr.allParts args)
  | .index target position => .index target position :: (target.parts ++ position.parts)
  | .cast type operand => .cast type operand :: operand.parts
  | .creation type args => .creation type args :: Expr.allParts args
  | .creationWith type args fields =>
    .creationWith type args fields :: (Expr.fieldParts fields ++ Expr.allParts args)
  | .defaultOf type => [.defaultOf type]
  | .unary op operand => .unary op operand :: operand.parts
  | .binary op lhs rhs => .binary op lhs rhs :: (lhs.parts ++ rhs.parts)
  | .assign op target value => .assign op target value :: (target.parts ++ value.parts)
  | .conditional cond onTrue onFalse =>
    .conditional cond onTrue onFalse :: (cond.parts ++ onTrue.parts ++ onFalse.parts)
  | .paren inner => .paren inner :: inner.parts
  | .lambda params body => .lambda params body :: body.parts
termination_by structural e => e

/-- Several expressions and all those inside them. -/
def Expr.allParts : List Expr → List Expr
  | [] => []
  | e :: es => e.parts ++ Expr.allParts es
termination_by structural es => es

/-- The values of an object initialiser and all expressions inside them. -/
def Expr.fieldParts : List (String × Expr) → List Expr
  | [] => []
  | (_, value) :: fields => value.parts ++ Expr.fieldParts fields
termination_by structural fields => fields

end

/-- The expressions inside one that may be missing. -/
def Expr.optionParts (e : Option Expr) : List Expr :=
  e.elim [] Expr.parts

/-- The expressions inside declarators. -/
def Declarator.allParts (ds : List Declarator) : List Expr :=
  ds.flatMap fun d => Expr.optionParts d.init

mutual

/-- The expressions inside a statement. -/
def Stmt.parts : Stmt → List Expr
  | .declare d => Declarator.allParts d.declarators
  | .expr value => value.parts
  | .ret value => Expr.optionParts value
  | .branch cond onTrue onFalse =>
    cond.parts ++ Stmt.allParts onTrue ++ Stmt.elseParts onFalse
  | .forLoop init cond step body =>
    Stmt.initParts init ++ Expr.optionParts cond ++ Expr.allParts step ++ Stmt.allParts body
  | .whileLoop cond body => cond.parts ++ Stmt.allParts body
  | .foreachLoop _ _ collection body => collection.parts ++ Stmt.allParts body
  | .block body => Stmt.allParts body
  | .breakLoop | .continueLoop => []
termination_by structural s => s

/-- The expressions inside several statements. -/
def Stmt.allParts : List Stmt → List Expr
  | [] => []
  | s :: rest => s.parts ++ Stmt.allParts rest
termination_by structural b => b

/-- The expressions inside the block behind `else`. -/
def Stmt.elseParts : Option (List Stmt) → List Expr
  | none => []
  | some body => Stmt.allParts body
termination_by structural b => b

/-- The expressions inside the first part of a `for` header. -/
def Stmt.initParts : Option Stmt → List Expr
  | none => []
  | some init => init.parts
termination_by structural init => init

end

/-! ## Traced parts -/

section Traced

variable (t : MemberTable) (types : TypeMap) (source : List Expr) (c : Captures)

/-- Where a part of a lowered method comes from.  An identifier is one of the source, an
alias, the shader name of a constructed type, or the name of a capture; an access is one
of the source with its member renamed. -/
def Expr.Traced : Expr → Prop
  | .ident name =>
    .ident name ∈ source ∨ (∃ path, t.aliases.get? path = some name) ∨
      (∃ type args, .creation type args ∈ source ∧ types.lookup type.name = some name) ∨
      name ∈ c.names
  | .member _ name span =>
    ∃ target name', .member target name' span ∈ source ∧ name = t.rename name'
  | _ => True

/-- Several parts are traced. -/
def AllTraced (parts : List Expr) : Prop :=
  ∀ e ∈ parts, e.Traced t types source c

variable {t types source c}

theorem AllTraced.nil : AllTraced t types source c [] := by
  intro e he
  cases he

theorem AllTraced.cons {e : Expr} {parts : List Expr} (first : e.Traced t types source c)
    (rest : AllTraced t types source c parts) : AllTraced t types source c (e :: parts) := by
  rintro _ (_ | ⟨_, later⟩)
  · exact first
  · exact rest _ later

theorem AllTraced.append {parts more : List Expr} (h : AllTraced t types source c parts)
    (h' : AllTraced t types source c more) : AllTraced t types source c (parts ++ more) := by
  intro e he
  rcases List.mem_append.1 he with first | second
  · exact h e first
  · exact h' e second

end Traced

section Lowering

open RecordM (EnsuresWithin)

variable {t : MemberTable} {types : TypeMap} {capturePrefix : String} {source : List Expr}
  {c : Captures}

/-- A type is replaced by the one that the map has for it. -/
theorem ensures_mapType (cx : LoweringContext) (type : TypeName) :
    EnsuresWithin c (Lexical.mapType cx type) fun mapped =>
      cx.types.lookup type.name = some mapped.name := by
  refine (EnsuresWithin.passBy type.span).skip fun _ => ?_
  rcases found : cx.types.lookup type.name with _ | shader
  · simp only [TypeMap.map, found]
    intro r r' a h
    cases h
  · simp only [TypeMap.map, found]
    exact .pure rfl

/-- An access becomes the name of a capture, an alias, or an access with its member
renamed. -/
theorem traced_access (site : Site) {target : Expr} {name : String} {span : Span}
    (stands : .member target name span ∈ source) (target' : Expr) :
    EnsuresWithin c (Lexical.access (t.context types capturePrefix) site ⟨target', name, span⟩)
      fun e' => AllTraced t types source c target'.parts →
        AllTraced t types source c e'.parts := by
  rcases answer : t.resolve ⟨target', name, span⟩ site.visible.contains
    with e | member | replacement
  all_goals
    have answer_context : (t.context types capturePrefix).resolver ⟨target', name, span⟩
      site.visible.contains = _ := answer
    simp only [Lexical.access, answer_context]
  · intro r r' a h
    cases h
  · intro r r' a h
    cases h
    refine ⟨r.captures.entries_prefix_insert _ _, fun within _ => .cons ?_ .nil⟩
    have recorded : (r.captures.insert (member.captureName capturePrefix) member).contains
        (member.captureName capturePrefix) = true := by
      simp [Captures.contains_insert]
    have taken : c.contains (member.captureName capturePrefix) = true :=
      Captures.contains_of_prefix within recorded
    exact .inr (.inr (.inr ((c.contains_iff_mem_names _).1 taken)))
  · refine .pure fun inside => ?_
    rcases t.replacement_cases answer with ⟨path, x, alias_eq, rfl⟩ | rfl
    · exact .cons (.inr (.inl ⟨path, alias_eq⟩)) .nil
    · exact .cons ⟨target, name, stands, rfl⟩ inside

mutual

/-- The parts of a lowered expression are traced, if those of the expression are among
the parts of the source. -/
theorem traced_expr (site : Site) : ∀ e : Expr, e.parts ⊆ source →
    EnsuresWithin c (Lexical.expr (t.context types capturePrefix) site e) fun e' =>
      AllTraced t types source c e'.parts
  | .literal (.string _), _ | .literal .null, _ | .creationWith .., _ | .lambda .., _ => .refuse ..
  | .literal (.bool _), _ | .literal (.int _), _ | .literal (.uint _), _
  | .literal (.float _), _ | .literal (.double _), _ => .pure (.cons trivial .nil)
  | .ident name, within => .pure (.cons (.inl (within List.mem_cons_self)) .nil)
  | .member target name span, within => by
    obtain ⟨stands, inside⟩ := List.cons_subset.1 within
    refine (EnsuresWithin.passBy span).skip fun _ => ?_
    exact (traced_expr site target inside).bind fun target' => traced_access site stands target'
  | .call callee args, within => by
    obtain ⟨inCallee, inArgs⟩ := List.append_subset.1 (List.cons_subset.1 within).2
    refine (traced_expr site callee inCallee).bind fun callee' => ?_
    refine (traced_exprs site args inArgs).bind fun args' => .pure fun ha hc => ?_
    exact .cons trivial (hc.append ha)
  | .index target position, within => by
    obtain ⟨inTarget, inPosition⟩ := List.append_subset.1 (List.cons_subset.1 within).2
    refine (traced_expr site target inTarget).bind fun target' => ?_
    refine (traced_expr site position inPosition).bind fun position' => .pure fun hp ht => ?_
    exact .cons trivial (ht.append hp)
  | .cast type operand, within => by
    refine (traced_expr site operand (List.cons_subset.1 within).2).bind fun operand' => ?_
    exact (EnsuresWithin.mapType _ type).skip fun type' => .pure fun ho => .cons trivial ho
  | .creation type args, within => by
    obtain ⟨stands, inArgs⟩ := List.cons_subset.1 within
    refine (traced_exprs site args inArgs).bind fun args' => ?_
    refine (ensures_mapType _ type).bind fun type' => ?_
    cases args' with
    | nil => exact .pure fun _ _ => .cons trivial (.cons trivial .nil)
    | cons e es =>
      refine .pure fun mapped ha => .cons trivial (.cons ?_ ha)
      exact .inr (.inr (.inl ⟨type, args, stands, mapped⟩))
  | .defaultOf type, _ =>
    (EnsuresWithin.mapType _ type).skip fun type' => .pure (.cons trivial (.cons trivial .nil))
  | .unary _ operand, within =>
    (traced_expr site operand (List.cons_subset.1 within).2).bind fun _ =>
      .pure fun ho => .cons trivial ho
  | .binary _ lhs rhs, within => by
    obtain ⟨inLhs, inRhs⟩ := List.append_subset.1 (List.cons_subset.1 within).2
    refine (traced_expr site lhs inLhs).bind fun lhs' => ?_
    refine (traced_expr site rhs inRhs).bind fun rhs' => .pure fun hr hl => ?_
    exact .cons trivial (hl.append hr)
  | .assign _ target value, within => by
    obtain ⟨inTarget, inValue⟩ := List.append_subset.1 (List.cons_subset.1 within).2
    refine (traced_expr site target inTarget).bind fun target' => ?_
    refine (traced_expr site value inValue).bind fun value' => .pure fun hv ht => ?_
    exact .cons trivial (ht.append hv)
  | .conditional cond onTrue onFalse, within => by
    obtain ⟨others, inFalse⟩ := List.append_subset.1 (List.cons_subset.1 within).2
    obtain ⟨inCond, inTrue⟩ := List.append_subset.1 others
    refine (traced_expr site cond inCond).bind fun cond' => ?_
    refine (traced_expr site onTrue inTrue).bind fun onTrue' => ?_
    refine (traced_expr site onFalse inFalse).bind fun onFalse' => .pure fun hf ht hc => ?_
    exact .cons trivial ((hc.append ht).append hf)
  | .paren inner, within =>
    (traced_expr site inner (List.cons_subset.1 within).2).bind fun _ =>
      .pure fun hi => .cons trivial hi
termination_by structural e => e

theorem traced_exprs (site : Site) : ∀ es : List Expr, Expr.allParts es ⊆ source →
    EnsuresWithin c (Lexical.exprs (t.context types capturePrefix) site es) fun es' =>
      AllTraced t types source c (Expr.allParts es')
  | [], _ => .pure .nil
  | e :: es, within => by
    obtain ⟨first, rest⟩ := List.append_subset.1 within
    refine (traced_expr site e first).bind fun e' => ?_
    exact (traced_exprs site es rest).bind fun es' => .pure fun hes he => he.append hes
termination_by structural es => es

end

theorem traced_optional (site : Site) (e : Option Expr) (within : Expr.optionParts e ⊆ source) :
    EnsuresWithin c (Lexical.optional (t.context types capturePrefix) site e) fun e' =>
      AllTraced t types source c (Expr.optionParts e') := by
  cases e with
  | none => exact .pure .nil
  | some e => exact (traced_expr site e within).bind fun _ => .pure id

/-- The parts of lowered declarators are traced, and the names are those of the
declarators. -/
theorem traced_declarators (site : Site) (ds : List Declarator)
    (within : Declarator.allParts ds ⊆ source) :
    EnsuresWithin c (Lexical.declarators (t.context types capturePrefix) site ds) fun ds' =>
      ds'.map Declarator.name = ds.map Declarator.name ∧
        AllTraced t types source c (Declarator.allParts ds') := by
  induction ds generalizing site with
  | nil => exact .pure ⟨rfl, .nil⟩
  | cons d ds ih =>
    obtain ⟨first, rest⟩ := List.append_subset.1 within
    refine (traced_optional site d.init first).bind fun init' => ?_
    refine (ih (site.behind [d.name]) rest).bind fun ds' => .pure ?_
    rintro ⟨names_eq, hds⟩ hinit
    exact ⟨congrArg (d.name :: ·) names_eq, hinit.append hds⟩

theorem traced_declaration (site : Site) (d : Declaration)
    (within : Declarator.allParts d.declarators ⊆ source) :
    EnsuresWithin c (Lexical.declaration (t.context types capturePrefix) site d) fun d' =>
      d'.declarators.map Declarator.name = d.declarators.map Declarator.name ∧
        AllTraced t types source c (Declarator.allParts d'.declarators) := by
  obtain ⟨type, ds⟩ := d
  cases type with
  | none => exact .refuse ..
  | some type =>
    refine (traced_declarators site ds within).bind fun ds' => ?_
    exact (EnsuresWithin.mapType _ type).skip fun type' => .pure id

mutual

/-- The parts of a lowered statement are traced, and its locals are those of the
statement. -/
theorem traced_stmt (site : Site) : ∀ s : Stmt, s.parts ⊆ source →
    EnsuresWithin c (Lexical.stmt (t.context types capturePrefix) site s) fun s' =>
      s'.variables = s.variables ∧ AllTraced t types source c s'.parts
  | .declare d, within => (traced_declaration site d within).bind fun _ => .pure id
  | .expr value, within => (traced_expr site value within).bind fun _ => .pure fun hv => ⟨rfl, hv⟩
  | .ret value, within =>
    (traced_optional site value within).bind fun _ => .pure fun hv => ⟨rfl, hv⟩
  | .branch cond onTrue onFalse, within => by
    obtain ⟨others, inFalse⟩ := List.append_subset.1 within
    obtain ⟨inCond, inTrue⟩ := List.append_subset.1 others
    refine (traced_expr site cond inCond).bind fun cond' => ?_
    refine (traced_block site onTrue inTrue).bind fun onTrue' => ?_
    refine (traced_otherwise site onFalse inFalse).bind fun onFalse' => .pure ?_
    rintro ⟨false_eq, hf⟩ ⟨true_eq, ht⟩ hc
    exact ⟨congrArg₂ (· ++ ·) true_eq false_eq, (hc.append ht).append hf⟩
  | .forLoop init cond step body, within => by
    obtain ⟨others, inBody⟩ := List.append_subset.1 within
    obtain ⟨others, inStep⟩ := List.append_subset.1 others
    obtain ⟨inInit, inCond⟩ := List.append_subset.1 others
    refine (traced_header site init inInit).bind fun init' => ?_
    refine (traced_optional _ cond inCond).bind fun cond' => ?_
    refine (traced_exprs _ step inStep).bind fun step' => ?_
    refine (traced_block _ body inBody).bind fun body' => .pure ?_
    rintro ⟨body_eq, hb⟩ hs hc ⟨init_eq, hi⟩
    exact ⟨congrArg₂ (· ++ ·) init_eq body_eq, ((hi.append hc).append hs).append hb⟩
  | .whileLoop cond body, within => by
    obtain ⟨inCond, inBody⟩ := List.append_subset.1 within
    refine (traced_expr site cond inCond).bind fun cond' => ?_
    refine (traced_block site body inBody).bind fun body' => .pure ?_
    rintro ⟨body_eq, hb⟩ hc
    exact ⟨body_eq, hc.append hb⟩
  | .foreachLoop .., _ => .refuse ..
  | .block body, within => (traced_block site body within).bind fun _ => .pure id
  | .breakLoop, _ | .continueLoop, _ => .pure ⟨rfl, .nil⟩
termination_by structural s => s

theorem traced_block (site : Site) : ∀ b : List Stmt, Stmt.allParts b ⊆ source →
    EnsuresWithin c (Lexical.block (t.context types capturePrefix) site b) fun b' =>
      Stmt.allVariables b' = Stmt.allVariables b ∧
        AllTraced t types source c (Stmt.allParts b')
  | [], _ => .pure ⟨rfl, .nil⟩
  | s :: rest, within => by
    obtain ⟨first, behind⟩ := List.append_subset.1 within
    refine (traced_stmt site s first).bind fun s' => ?_
    refine (traced_block _ rest behind).bind fun rest' => .pure ?_
    rintro ⟨rest_eq, hr⟩ ⟨first_eq, hs⟩
    exact ⟨congrArg₂ (· ++ ·) first_eq rest_eq, hs.append hr⟩
termination_by structural b => b

theorem traced_otherwise (site : Site) : ∀ b : Option (List Stmt), Stmt.elseParts b ⊆ source →
    EnsuresWithin c (Lexical.otherwise (t.context types capturePrefix) site b) fun b' =>
      Stmt.elseVariables b' = Stmt.elseVariables b ∧
        AllTraced t types source c (Stmt.elseParts b')
  | none, _ => .pure ⟨rfl, .nil⟩
  | some body, within => (traced_block site body within).bind fun _ => .pure id
termination_by structural b => b

theorem traced_header (site : Site) : ∀ init : Option Stmt, Stmt.initParts init ⊆ source →
    EnsuresWithin c (Lexical.header (t.context types capturePrefix) site init) fun init' =>
      Stmt.initVariables init' = Stmt.initVariables init ∧
        AllTraced t types source c (Stmt.initParts init')
  | none, _ => .pure ⟨rfl, .nil⟩
  | some init, within => (traced_stmt site init within).bind fun _ => .pure id
termination_by structural init => init

end

/-- The parts of a lowered method are traced to those of its body, and its parameters and
locals are those of the method. -/
theorem traced_method (m : Method) :
    EnsuresWithin c (Lexical.method (t.context types capturePrefix) m) fun m' =>
      m'.variables = m.variables ∧
        AllTraced t types (Stmt.allParts m.body) c (Stmt.allParts m'.body) := by
  refine (explained_parameters m.parameters).bind fun ps' => ?_
  refine (traced_block _ m.body (List.Subset.refl _)).bind fun body' => ?_
  refine (EnsuresWithin.mapType _ m.returnType).skip fun type' => .pure ?_
  rintro ⟨locals_eq, traced⟩ names_eq
  exact ⟨congrArg₂ (· ++ ·) names_eq locals_eq, traced⟩

end Lowering

/-! ## Captures -/

/-- **Captures are answers of the resolver**: it has wanted each of them captured, and
they stand under their capture names. -/
theorem exists_answer_of_mem_captures {cx : LoweringContext} {m : Method} {r : LoweredMethod}
    (h : cx.lower m = .ok r) {e : Capture} (he : e ∈ r.captures.entries) :
    (∃ access visible, cx.resolver access visible = .ok (.capture e.member)) ∧
      e.name = e.member.captureName cx.capturePrefix := by
  obtain ⟨asked, -, captures_eq, settled⟩ := transcribes_method cx m ⟨.initial, []⟩
  rw [cx.lower_eq_match] at h
  change (outcome (m.visit cx.rules) .initial).2.captures = Captures.empty.insertAll _
    at captures_eq
  rcases walk : outcome (m.visit cx.rules) .initial with ⟨_ | lowered, s⟩ <;>
    rw [walk] at h captures_eq <;> cases h
  rw [captures_eq] at he
  -- Nothing was captured before, so a question has brought the capture up.
  have brought : e ∈ Question.captures cx.capturePrefix asked :=
    (Captures.empty.mem_of_mem_entries_insertAll he).resolve_left List.not_mem_nil
  obtain ⟨q, hq, wanted⟩ := List.mem_filterMap.1 brought
  unfold Question.capture? at wanted
  split at wanted <;> cases wanted
  next member answer =>
    exact ⟨⟨q.access, q.scope.contains, (settled q hq).answered.symm.trans answer⟩, rfl⟩

/-- **Where the names in a lowered method come from.**  An identifier in its body is one
of the method's body, an alias of the table, the shader name of a type that the body
constructs, or the name of a capture.  A member name is one of the body or what the table
renames one to, at the same position.  Parameters and locals keep their names.  And each
capture is a member of the table under its capture name. -/
theorem lower_names (t : MemberTable) (types : TypeMap) (capturePrefix : String) (m : Method)
    (r : LoweredMethod) (h : (t.context types capturePrefix).lower m = .ok r) :
    (∀ name, .ident name ∈ Stmt.allParts r.method.body →
      .ident name ∈ Stmt.allParts m.body ∨ (∃ path, t.aliases.get? path = some name) ∨
        (∃ type args, .creation type args ∈ Stmt.allParts m.body ∧
          types.lookup type.name = some name) ∨
        name ∈ r.captures.names) ∧
    (∀ target name span, .member target name span ∈ Stmt.allParts r.method.body →
      ∃ target' name', .member target' name' span ∈ Stmt.allParts m.body ∧
        (name = name' ∨ t.renames.get? name' = some name)) ∧
    r.method.variables = m.variables ∧
    ∀ e ∈ r.captures.entries, (∃ key, t.statics.get? key = some e.member) ∧
      e.name = e.member.captureName capturePrefix := by
  obtain ⟨record, walk, captures_eq⟩ := exists_outcome_of_lower h
  have within : record.captures.entries <+: r.captures.entries := captures_eq ▸ List.prefix_rfl
  obtain ⟨variables_eq, traced⟩ := (traced_method m walk).2 within
  refine ⟨fun name stands => traced _ stands, fun target name span stands => ?_, variables_eq,
    fun e he => ?_⟩
  · obtain ⟨target', name', stands', rfl⟩ := traced _ stands
    refine ⟨target', name', stands', ?_⟩
    cases renamed : t.renames.get? name' with
    | none => exact .inl (by rw [MemberTable.rename, renamed]; rfl)
    | some new => exact .inr (by rw [MemberTable.rename, renamed]; rfl)
  · obtain ⟨⟨access, visible, answer⟩, name_eq⟩ := exists_answer_of_mem_captures h he
    exact ⟨t.exists_static_of_resolve answer, name_eq⟩

/-- A table with a static member and a function. -/
def blendTable : MemberTable :=
  (MemberTable.vectorFields.addStatic scaleSetting).addAlias "Math.Max" "max"

/-- A method that constructs a value from a static member and from the field of a
parameter. -/
def blend : Method where
  attributes := []
  returnType := .named "Float2"
  name := "Blend"
  parameters := [⟨[], .byValue, .named "Float2", "v"⟩]
  body := [.ret (some (.creation (.named "Float2") [.access (.ident "Settings") "Scale",
    .call (.access (.ident "Math") "Max") [.access (.ident "v") "X"]]))]

/-- What becomes of `blend`: one identifier of each origin. -/
def blended : LoweredMethod where
  method :=
    { attributes := []
      returnType := .named "float2"
      name := "Blend"
      parameters := [⟨[], .byValue, .named "float2", "v"⟩]
      body := [.ret (some (.call (.ident "float2") [.ident "__Settings__Scale",
        .call (.ident "max") [.access (.ident "v") "x"]]))] }
  captures := ⟨[⟨"__Settings__Scale", scaleSetting⟩]⟩

/-- A shader type, a capture, an alias and a parameter in one expression. -/
theorem lower_names_blend :
    let types := TypeMap.empty.register "Float2" "float2"
    (blendTable.context types "__").lower blend = .ok blended ∧
      (∀ name, .ident name ∈ Stmt.allParts blended.method.body →
        .ident name ∈ Stmt.allParts blend.body ∨
          (∃ path, blendTable.aliases.get? path = some name) ∨
          (∃ type args, .creation type args ∈ Stmt.allParts blend.body ∧
            types.lookup type.name = some name) ∨
          name ∈ blended.captures.names) ∧
      ∀ e ∈ blended.captures.entries, (∃ key, blendTable.statics.get? key = some e.member) ∧
        e.name = e.member.captureName "__" := by
  intro types
  have lowered : (blendTable.context types "__").lower blend = .ok blended := by rfl
  obtain ⟨identifiers, -, -, captures⟩ := lower_names _ _ _ _ _ lowered
  exact ⟨lowered, identifiers, captures⟩

end ShaderLowering
