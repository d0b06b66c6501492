import ShaderLowering.Proofs.Lowering.ShaderForm
import ShaderLowering.Proofs.Lowering.Visibility
import ShaderLowering.Proofs.Names.Captures

/-!
# Identifiers in place of accesses

Lowering puts identifiers where a method has member accesses: the names of captures and
the aliases of a member table.  Parameters and locals keep their names, so such an
identifier may come to lie in the scope of one that is named alike, and then the shader
reads that one.

Here a method and its lowered form are walked together.  Each identifier in place of an
access is listed with its surroundings, which are the parameters and locals that the
method has declared in front of the access, and those of the lowered method in whose
scope the identifier lies.  A name is in scope from its own declarator on, so the
initialiser of a local is in the scope of the local, although lowering does not see
the local there yet.

## Main definitions

* `Method.replacements` — the identifiers in place of accesses.
* `Method.variables` — the parameters and locals of a method.
* `Replacement.Explained` — what an identifier stands for.

## Main statements

* `lower_replacements` — when an identifier lies in the scope of a variable with its name.
* `capture_in_scope_scaleBy` — a capture in the scope of a parameter with its name.
-/

namespace ShaderLowering

/-! ## Walking two methods together -/

/-- What is around a part of a method, and around its counterpart in the lowered method. -/
structure Surroundings where
  /-- The parameters and locals that are declared in front of the part. -/
  visible : List String
  /-- The local in whose initialiser the part stands, if it stands in one. -/
  declaring : Option String
  /-- The parameters and locals in whose scope the counterpart lies. -/
  scope : List String
deriving DecidableEq

namespace Surroundings

/-- What is around the parts behind a declaration. -/
def behind (w : Surroundings) (names names' : List String) : Surroundings :=
  { w with visible := w.visible ++ names, scope := w.scope ++ names' }

/-- What is around the initialiser of a declarator. -/
def initialiser (w : Surroundings) (name name' : String) : Surroundings :=
  { w with declaring := some name, scope := w.scope ++ [name'] }

end Surroundings

/-- An identifier in place of a member access. -/
structure Replacement where
  access : Access
  name : String
  around : Surroundings

mutual

/-- The identifiers of an expression that stand where another one has accesses. -/
def Expr.replacements (w : Surroundings) : Expr → Expr → List Replacement
  | .member target name span, .ident replacement => [⟨⟨target, name, span⟩, replacement, w⟩]
  | .member target _ _, .member target' _ _ => target.replacements w target'
  | .call callee args, .call callee' args' =>
    callee.replacements w callee' ++ Expr.allReplacements w args args'
  | .index target position, .index target' position' =>
    target.replacements w target' ++ position.replacements w position'
  | .cast _ operand, .cast _ operand' => operand.replacements w operand'
  | .creation _ args, .call _ args' => Expr.allReplacements w args args'
  | .unary _ operand, .unary _ operand' => operand.replacements w operand'
  | .binary _ lhs rhs, .binary _ lhs' rhs' => lhs.replacements w lhs' ++ rhs.replacements w rhs'
  | .assign _ target value, .assign _ target' value' =>
    target.replacements w target' ++ value.replacements w value'
  | .conditional cond onTrue onFalse, .conditional cond' onTrue' onFalse' =>
    cond.replacements w cond' ++ onTrue.replacements w onTrue' ++ onFalse.replacements w onFalse'
  | .paren inner, .paren inner' => inner.replacements w inner'
  | _, _ => []
termination_by structural e => e

/-- The identifiers of several expressions that do. -/
def Expr.allReplacements (w : Surroundings) : List Expr → List Expr → List Replacement
  | e :: es, e' :: es' => e.replacements w e' ++ Expr.allReplacements w es es'
  | _, _ => []
termination_by structural es => es

end

/-- The identifiers of an expression that may be missing. -/
def Expr.optionReplacements (w : Surroundings) : Option Expr → Option Expr → List Replacement
  | some e, some e' => e.replacements w e'
  | _, _ => []

/-- The identifiers of several declarators, each of them in the scope of its own name. -/
def Declarator.allReplacements (w : Surroundings) :
    List Declarator → List Declarator → List Replacement
  | d :: ds, d' :: ds' =>
    Expr.optionReplacements (w.initialiser d.name d'.name) d.init d'.init
      ++ Declarator.allReplacements (w.behind [d.name] [d'.name]) ds ds'
  | _, _ => []

mutual

/-- The identifiers of a statement that stand where another one has accesses. -/
def Stmt.replacements (w : Surroundings) : Stmt → Stmt → List Replacement
  | .declare d, .declare d' => Declarator.allReplacements w d.declarators d'.declarators
  | .expr value, .expr value' => value.replacements w value'
  | .ret value, .ret value' => Expr.optionReplacements w value value'
  | .branch cond onTrue onFalse, .branch cond' onTrue' onFalse' =>
    cond.replacements w cond' ++ Stmt.allReplacements w onTrue onTrue'
      ++ Stmt.elseReplacements w onFalse onFalse'
  | .forLoop init cond step body, .forLoop init' cond' step' body' =>
    let inside := w.behind (init.elim [] Stmt.declared) (init'.elim [] Stmt.declared)
    Stmt.initReplacements w init init' ++ Expr.optionReplacements inside cond cond'
      ++ Expr.allReplacements inside step step' ++ Stmt.allReplacements inside body body'
  | .whileLoop cond body, .whileLoop cond' body' =>
    cond.replacements w cond' ++ Stmt.allReplacements w body body'
  | .block body, .block body' => Stmt.allReplacements w body body'
  | _, _ => []
termination_by structural s => s

/-- The identifiers of several statements that do. -/
def Stmt.allReplacements (w : Surroundings) : List Stmt → List Stmt → List Replacement
  | s :: rest, s' :: rest' =>
    s.replacements w s' ++ Stmt.allReplacements (w.behind s.declared s'.declared) rest rest'
  | _, _ => []
termination_by structural b => b

/-- The identifiers of the block behind `else` that do. -/
def Stmt.elseReplacements (w : Surroundings) :
    Option (List Stmt) → Option (List Stmt) → List Replacement
  | some body, some body' => Stmt.allReplacements w body body'
  | _, _ => []
termination_by structural b => b

/-- The identifiers of the first part of a `for` header that do. -/
def Stmt.initReplacements (w : Surroundings) : Option Stmt → Option Stmt → List Replacement
  | some init, some init' => init.replacements w init'
  | _, _ => []
termination_by structural init => init

end

/-- The identifiers of a method that stand where another one has accesses. -/
def Method.replacements (m m' : Method) : List Replacement :=
  Stmt.allReplacements ⟨m.parameters.map Parameter.name, none, m'.parameters.map Parameter.name⟩
    m.body m'.body

/-! ## Variables -/

mutual

/-- The locals of a statement, at any depth. -/
def Stmt.variables : Stmt → List String
  | .declare declaration => declaration.declarators.map Declarator.name
  | .branch _ onTrue onFalse => Stmt.allVariables onTrue ++ Stmt.elseVariables onFalse
  | .forLoop init _ _ body => Stmt.initVariables init ++ Stmt.allVariables body
  | .foreachLoop _ name _ body => name :: Stmt.allVariables body
  | .whileLoop _ body | .block body => Stmt.allVariables body
  | .expr _ | .ret _ | .breakLoop | .continueLoop => []
termination_by structural s => s

/-- The locals of several statements. -/
def Stmt.allVariables : List Stmt → List String
  | [] => []
  | s :: rest => s.variables ++ Stmt.allVariables rest
termination_by structural b => b

/-- The locals of the block behind `else`. -/
def Stmt.elseVariables : Option (List Stmt) → List String
  | none => []
  | some body => Stmt.allVariables body
termination_by structural b => b

/-- The locals of the first part of a `for` header. -/
def Stmt.initVariables : Option Stmt → List String
  | none => []
  | some init => init.variables
termination_by structural init => init

end

/-- The parameters and locals of a method. -/
def Method.variables (m : Method) : List String :=
  m.parameters.map Parameter.name ++ Stmt.allVariables m.body

theorem Stmt.declared_subset_variables (s : Stmt) : s.declared ⊆ s.variables := by
  cases s with
  | declare d => exact List.Subset.refl _
  | _ => exact List.nil_subset _

theorem Stmt.declared_subset_initVariables (init : Option Stmt) :
    init.elim [] Stmt.declared ⊆ Stmt.initVariables init := by
  cases init with
  | none => exact List.nil_subset _
  | some init => exact init.declared_subset_variables

/-! ## What the identifiers stand for -/

/-- A resolver that replaces an access by an identifier, or gives it back with its target
as it was. -/
def LoweringContext.KeepsTargets (cx : LoweringContext) : Prop :=
  ∀ a visible replacement, cx.resolver a visible = .ok (.direct replacement) →
    (∃ x, replacement = .ident x) ∨ ∃ name, replacement = .member a.target name a.span

theorem MemberTable.keepsTargets_context (t : MemberTable) (types : TypeMap)
    (capturePrefix : String) : (t.context types capturePrefix).KeepsTargets := by
  intro a visible replacement h
  rcases t.replacement_cases h with ⟨_, x, -, rfl⟩ | rfl
  · exact .inl ⟨x, rfl⟩
  · exact .inr ⟨t.rename a.name, rfl⟩

/-- The site of a part with these surroundings. -/
def Surroundings.site (w : Surroundings) (method : String) : Site :=
  ⟨method, w.visible⟩

section Explained

variable (cx : LoweringContext) (method : String) (c : Captures)

/-- What the resolver answers about the access that an identifier replaces.  It is asked
about the access with its target lowered, and told of the variables that are declared in
front of it. -/
def Replacement.Answered (p : Replacement) (answer : Resolution) : Prop :=
  ∃ before after target,
    outcome (Lexical.expr cx (p.around.site method) p.access.target) before
      = (.ok target, after) ∧
    cx.resolver ⟨target, p.access.name, p.access.span⟩ p.around.visible.contains = .ok answer

/-- What an identifier in place of an access stands for: it is what the resolver answers,
or the name of a member that the resolver wants captured, and then it is among the
captures. -/
def Replacement.Explained (p : Replacement) : Prop :=
  p.Answered cx method (.direct (.ident p.name)) ∨
    ∃ member, p.Answered cx method (.capture member) ∧
      p.name = member.captureName cx.capturePrefix ∧ c.contains p.name = true

/-- The names in scope are those that are visible, and that of the local in whose
initialiser one is.  All of them are among some names. -/
structure Surroundings.Sound (names : List String) (w : Surroundings) : Prop where
  mem_scope : ∀ x, x ∈ w.scope ↔ x ∈ w.visible ∨ w.declaring = some x
  subset : w.scope ⊆ names

/-- Outside of initialisers the names in scope are those that are visible. -/
structure Surroundings.AtStmt (names : List String) (w : Surroundings) : Prop
    extends w.Sound names where
  free : w.declaring = none

namespace Surroundings.AtStmt

variable {names : List String} {w : Surroundings}

theorem behind (h : w.AtStmt names) {new : List String} (hn : new ⊆ names) :
    (w.behind new new).AtStmt names where
  mem_scope x := by
    have old := h.mem_scope x
    simp only [Surroundings.behind, List.mem_append, old]
    tauto
  subset := List.append_subset.2 ⟨h.subset, hn⟩
  free := h.free

theorem initialiser (h : w.AtStmt names) {name : String} (hn : name ∈ names) :
    (w.initialiser name name).Sound names where
  mem_scope x := by
    have same : x ∈ w.scope ↔ x ∈ w.visible := by simp [h.mem_scope, h.free]
    simp [Surroundings.initialiser, same, eq_comm]
  subset := List.append_subset.2 ⟨h.subset, List.cons_subset.2 ⟨hn, List.nil_subset _⟩⟩

end Surroundings.AtStmt

/-- Identifiers are explained, and their surroundings are sound. -/
def Explains (names : List String) (l : List Replacement) : Prop :=
  ∀ p ∈ l, p.Explained cx method c ∧ p.around.Sound names

variable {cx method c} {names : List String}

theorem Explains.nil : Explains cx method c names [] := by
  simp [Explains]

theorem Explains.append {l l' : List Replacement} (h : Explains cx method c names l)
    (h' : Explains cx method c names l') : Explains cx method c names (l ++ l') := by
  intro p hp
  rcases List.mem_append.1 hp with first | second
  · exact h p first
  · exact h' p second

end Explained

/-! ## Captures in the end -/

/-- Captures are only added to.  Where they end up in front of others, every result has
a property, which may speak of those. -/
def RecordM.EnsuresWithin {α : Type} (c : Captures) (x : RecordM α) (Q : α → Prop) : Prop :=
  ∀ ⦃r r' a⦄, outcome x r = (.ok a, r') →
    r.captures.entries <+: r'.captures.entries ∧ (r'.captures.entries <+: c.entries → Q a)

namespace RecordM.EnsuresWithin

variable {α β : Type} {c : Captures} {P P' : α → Prop} {Q : β → Prop}

theorem pure {b : β} (h : Q b) : EnsuresWithin c (Pure.pure b) Q := by
  intro r r' a ha
  cases ha
  exact ⟨List.prefix_rfl, fun _ => h⟩

/-- What the first step ensures is a premise of what the second one has to ensure. -/
theorem bind {x : RecordM α} {f : α → RecordM β} (hx : EnsuresWithin c x P)
    (hf : ∀ a, EnsuresWithin c (f a) fun b => P a → Q b) : EnsuresWithin c (x >>= f) Q := by
  intro r r' b h
  obtain ⟨a, r₁, ha, hb⟩ := outcome_bind_eq_ok.1 h
  obtain ⟨grown, first⟩ := hx ha
  obtain ⟨grown', second⟩ := hf a hb
  exact ⟨grown.trans grown', fun within => second within (first (grown'.trans within))⟩

/-- A step whose result does not matter. -/
theorem skip {x : RecordM α} {f : α → RecordM β} (hx : EnsuresWithin c x fun _ => True)
    (hf : ∀ a, EnsuresWithin c (f a) Q) : EnsuresWithin c (x >>= f) Q := by
  refine hx.bind fun a r r' b hb => ?_
  obtain ⟨grown, second⟩ := hf a hb
  exact ⟨grown, fun within _ => second within⟩

/-- What holds of every result holds beside what is ensured. -/
theorem and {x : RecordM α} (hx : EnsuresWithin c x P)
    (h : ∀ ⦃r r' a⦄, outcome x r = (.ok a, r') → P' a) :
    EnsuresWithin c x fun a => P a ∧ P' a := by
  intro r r' a ha
  obtain ⟨grown, holds⟩ := hx ha
  exact ⟨grown, fun within => ⟨holds within, h ha⟩⟩

theorem refuse (site : Site) (construct : Construct) (source : String) (span : Span) :
    EnsuresWithin c (Lexical.refuse site construct source span) Q := by
  intro r r' a h
  cases h

theorem passBy (span : Span) : EnsuresWithin c (Lexical.passBy span) fun _ => True := by
  intro r r' a h
  cases h
  refine ⟨?_, fun _ => trivial⟩
  change _ <+: (if span.isKnown then { r with location := span } else r).captures.entries
  split <;> exact List.prefix_rfl

theorem mapType (cx : LoweringContext) (type : TypeName) :
    EnsuresWithin c (Lexical.mapType cx type) fun _ => True := by
  refine (passBy type.span).skip fun _ => ?_
  cases cx.types.map type with
  | ok mapped => exact .pure trivial
  | error e =>
    intro r r' a h
    cases h

end RecordM.EnsuresWithin

/-! ## Every identifier is explained -/

section Lowering

open RecordM (EnsuresWithin)

variable {cx : LoweringContext} {c : Captures} {names : List String}

section Parts

variable (method : String) {w : Surroundings}

/-- An access becomes an identifier with an explanation, or keeps its target. -/
theorem explained_access (keeps : cx.KeepsTargets) (hw : w.Sound names) (target : Expr)
    (name : String) (span : Span) (target' : Expr) :
    EnsuresWithin c (Lexical.access cx (w.site method) ⟨target', name, span⟩) fun e' =>
      Explains cx method c names (target.replacements w target') ∧
          (∃ before after, outcome (Lexical.expr cx (w.site method) target) before
            = (.ok target', after)) →
        Explains cx method c names ((Expr.member target name span).replacements w e') := by
  rcases answer : cx.resolver ⟨target', name, span⟩ w.visible.contains with e | member | replacement
  all_goals
    have answer_site : cx.resolver ⟨target', name, span⟩ (w.site method).visible.contains = _ :=
      answer
    simp only [Lexical.access, answer_site]
  · intro r r' a h
    cases h
  · intro r r' a h
    cases h
    refine ⟨r.captures.entries_prefix_insert _ _, fun within => ?_⟩
    rintro ⟨-, before, after, lowered⟩ p hp
    obtain rfl := List.mem_singleton.1 hp
    refine ⟨.inr ⟨member, ⟨before, after, target', lowered, answer⟩, rfl, ?_⟩, hw⟩
    exact Captures.contains_of_prefix within (by simp [Captures.contains_insert])
  · refine .pure ?_
    rintro ⟨inside, before, after, lowered⟩
    rcases keeps _ _ _ answer with ⟨x, rfl⟩ | ⟨name', rfl⟩
    · intro p hp
      obtain rfl := List.mem_singleton.1 hp
      exact ⟨.inl ⟨before, after, target', lowered, answer⟩, hw⟩
    · exact inside

mutual

/-- The identifiers of an expression are explained: all of them have its surroundings. -/
theorem explained_expr (keeps : cx.KeepsTargets) (hw : w.Sound names) : ∀ e : Expr,
    EnsuresWithin c (Lexical.expr cx (w.site method) e) fun e' =>
      Explains cx method c names (e.replacements w e')
  | .literal (.string _) | .literal .null | .creationWith .. | .lambda .. => .refuse ..
  | .literal (.bool _) | .literal (.int _) | .literal (.uint _) | .literal (.float _)
  | .literal (.double _) | .ident _ => .pure .nil
  | .member target name span => by
    have lowered : ∀ ⦃r r' target'⦄,
        outcome (Lexical.expr cx (w.site method) target) r = (.ok target', r') →
          ∃ before after, outcome (Lexical.expr cx (w.site method) target) before
            = (.ok target', after) := fun r r' _ h => ⟨r, r', h⟩
    refine (EnsuresWithin.passBy span).skip fun _ => ?_
    refine ((explained_expr keeps hw target).and lowered).bind fun target' => ?_
    exact explained_access method keeps hw target name span target'
  | .call callee args => by
    refine (explained_expr keeps hw callee).bind fun callee' => ?_
    exact (explained_exprs keeps hw args).bind fun args' => .pure fun ha hc => hc.append ha
  | .index target position => by
    refine (explained_expr keeps hw target).bind fun target' => ?_
    exact (explained_expr keeps hw position).bind fun position' => .pure fun hp ht => ht.append hp
  | .cast type operand => by
    refine (explained_expr keeps hw operand).bind fun operand' => ?_
    exact (EnsuresWithin.mapType _ type).skip fun type' => .pure id
  | .creation type args => by
    refine (explained_exprs keeps hw args).bind fun args' => ?_
    refine (EnsuresWithin.mapType _ type).skip fun type' => ?_
    cases args' with
    | nil => exact .pure fun _ => .nil
    | cons e es => exact .pure id
  | .defaultOf type => (EnsuresWithin.mapType _ type).skip fun type' => .pure .nil
  | .unary _ operand => (explained_expr keeps hw operand).bind fun _ => .pure id
  | .binary _ lhs rhs => by
    refine (explained_expr keeps hw lhs).bind fun lhs' => ?_
    exact (explained_expr keeps hw rhs).bind fun rhs' => .pure fun hr hl => hl.append hr
  | .assign _ target value => by
    refine (explained_expr keeps hw target).bind fun target' => ?_
    exact (explained_expr keeps hw value).bind fun value' => .pure fun hv ht => ht.append hv
  | .conditional cond onTrue onFalse => by
    refine (explained_expr keeps hw cond).bind fun cond' => ?_
    refine (explained_expr keeps hw onTrue).bind fun onTrue' => ?_
    refine (explained_expr keeps hw onFalse).bind fun onFalse' => ?_
    exact .pure fun hf ht hc => (hc.append ht).append hf
  | .paren inner => (explained_expr keeps hw inner).bind fun _ => .pure id
termination_by structural e => e

theorem explained_exprs (keeps : cx.KeepsTargets) (hw : w.Sound names) : ∀ es : List Expr,
    EnsuresWithin c (Lexical.exprs cx (w.site method) es) fun es' =>
      Explains cx method c names (Expr.allReplacements w es es')
  | [] => .pure .nil
  | e :: es => by
    refine (explained_expr keeps hw e).bind fun e' => ?_
    exact (explained_exprs keeps hw es).bind fun es' => .pure fun hes he => he.append hes
termination_by structural es => es

end

theorem explained_optional (keeps : cx.KeepsTargets) (hw : w.Sound names) (e : Option Expr) :
    EnsuresWithin c (Lexical.optional cx (w.site method) e) fun e' =>
      Explains cx method c names (Expr.optionReplacements w e e') := by
  cases e with
  | none => exact .pure .nil
  | some e => exact (explained_expr method keeps hw e).bind fun _ => .pure id

/-- Declarators keep their names, and the initialiser of each is in the scope of its own
name. -/
theorem explained_declarators (keeps : cx.KeepsTargets) (hw : w.AtStmt names) (ds : List Declarator)
    (hn : ds.map Declarator.name ⊆ names) :
    EnsuresWithin c (Lexical.declarators cx (w.site method) ds) fun ds' =>
      ds'.map Declarator.name = ds.map Declarator.name ∧
        Explains cx method c names (Declarator.allReplacements w ds ds') := by
  induction ds generalizing w with
  | nil => exact .pure ⟨rfl, .nil⟩
  | cons d ds ih =>
    obtain ⟨first, rest⟩ := List.cons_subset.1 hn
    have single : [d.name] ⊆ names := List.cons_subset.2 ⟨first, List.nil_subset _⟩
    have init := explained_optional method keeps (c := c) (hw.initialiser first) d.init
    refine init.bind fun init' => ?_
    refine (ih (hw.behind single) rest).bind fun ds' => ?_
    refine .pure ?_
    rintro ⟨names_eq, hds⟩ hinit
    exact ⟨congrArg (d.name :: ·) names_eq, hinit.append hds⟩

theorem explained_declaration (keeps : cx.KeepsTargets) (hw : w.AtStmt names) (d : Declaration)
    (hn : d.declarators.map Declarator.name ⊆ names) :
    EnsuresWithin c (Lexical.declaration cx (w.site method) d) fun d' =>
      (Stmt.declare d').declared = (Stmt.declare d).declared ∧
        Explains cx method c names ((Stmt.declare d).replacements w (.declare d')) := by
  obtain ⟨type, ds⟩ := d
  cases type with
  | none => exact .refuse ..
  | some type =>
    refine (explained_declarators method keeps hw ds hn).bind fun ds' => ?_
    exact (EnsuresWithin.mapType _ type).skip fun type' => .pure id

mutual

/-- A statement declares the same names when it is lowered, and its identifiers are
explained. -/
theorem explained_stmt {w : Surroundings} (keeps : cx.KeepsTargets) (hw : w.AtStmt names) :
    ∀ s : Stmt, s.variables ⊆ names →
      EnsuresWithin c (Lexical.stmt cx (w.site method) s) fun s' =>
        s'.declared = s.declared ∧ Explains cx method c names (s.replacements w s')
  | .declare d, hn => (explained_declaration method keeps hw d hn).bind fun _ => .pure id
  | .expr value, _ => (explained_expr method keeps hw.toSound value).bind fun _ =>
      .pure fun hv => ⟨rfl, hv⟩
  | .ret value, _ => (explained_optional method keeps hw.toSound value).bind fun _ =>
      .pure fun hv => ⟨rfl, hv⟩
  | .branch cond onTrue onFalse, hn => by
    obtain ⟨inTrue, inFalse⟩ := List.append_subset.1 hn
    refine (explained_expr method keeps hw.toSound cond).bind fun cond' => ?_
    refine (explained_block keeps hw onTrue inTrue).bind fun onTrue' => ?_
    refine (explained_otherwise keeps hw onFalse inFalse).bind fun onFalse' => ?_
    exact .pure fun hf ht hc => ⟨rfl, (hc.append ht).append hf⟩
  | .forLoop init cond step body, hn => by
    obtain ⟨inHeader, inBody⟩ := List.append_subset.1 hn
    have inside := hw.behind
      (List.Subset.trans (Stmt.declared_subset_initVariables init) inHeader)
    refine (explained_header keeps hw init inHeader).bind fun init' => ?_
    refine (explained_optional method keeps inside.toSound cond).bind fun cond' => ?_
    refine (explained_exprs method keeps inside.toSound step).bind fun step' => ?_
    refine (explained_block keeps inside body inBody).bind fun body' => ?_
    refine .pure ?_
    rintro hb hs hc ⟨declared_eq, hi⟩
    refine ⟨rfl, ?_⟩
    rw [Stmt.replacements, declared_eq]
    exact ((hi.append hc).append hs).append hb
  | .whileLoop cond body, hn => by
    refine (explained_expr method keeps hw.toSound cond).bind fun cond' => ?_
    refine (explained_block keeps hw body hn).bind fun body' => ?_
    exact .pure fun hb hc => ⟨rfl, hc.append hb⟩
  | .foreachLoop .., _ => .refuse ..
  | .block body, hn => (explained_block keeps hw body hn).bind fun _ => .pure fun hb => ⟨rfl, hb⟩
  | .breakLoop, _ | .continueLoop, _ => .pure ⟨rfl, .nil⟩
termination_by structural s => s

theorem explained_block {w : Surroundings} (keeps : cx.KeepsTargets) (hw : w.AtStmt names) :
    ∀ b : List Stmt, Stmt.allVariables b ⊆ names →
      EnsuresWithin c (Lexical.block cx (w.site method) b) fun b' =>
        Explains cx method c names (Stmt.allReplacements w b b')
  | [], _ => .pure .nil
  | s :: rest, hn => by
    obtain ⟨first, behind⟩ := List.append_subset.1 hn
    have next := hw.behind (List.Subset.trans s.declared_subset_variables first)
    refine (explained_stmt keeps hw s first).bind fun s' => ?_
    refine (explained_block keeps next rest behind).bind fun rest' => ?_
    refine .pure ?_
    rintro hr ⟨declared_eq, hs⟩
    rw [Stmt.allReplacements, declared_eq]
    exact hs.append hr
termination_by structural b => b

theorem explained_otherwise {w : Surroundings} (keeps : cx.KeepsTargets) (hw : w.AtStmt names) :
    ∀ b : Option (List Stmt), Stmt.elseVariables b ⊆ names →
      EnsuresWithin c (Lexical.otherwise cx (w.site method) b) fun b' =>
        Explains cx method c names (Stmt.elseReplacements w b b')
  | none, _ => .pure .nil
  | some body, hn => (explained_block keeps hw body hn).bind fun _ => .pure id
termination_by structural b => b

theorem explained_header {w : Surroundings} (keeps : cx.KeepsTargets) (hw : w.AtStmt names) :
    ∀ init : Option Stmt, Stmt.initVariables init ⊆ names →
      EnsuresWithin c (Lexical.header cx (w.site method) init) fun init' =>
        init'.elim [] Stmt.declared = init.elim [] Stmt.declared ∧
          Explains cx method c names (Stmt.initReplacements w init init')
  | none, _ => .pure ⟨rfl, .nil⟩
  | some init, hn => (explained_stmt keeps hw init hn).bind fun _ => .pure id
termination_by structural init => init

end

end Parts

theorem explained_parameters (ps : List Parameter) :
    EnsuresWithin c (Lexical.parameters cx ps) fun ps' =>
      ps'.map Parameter.name = ps.map Parameter.name := by
  induction ps with
  | nil => exact .pure rfl
  | cons p ps ih =>
    refine (EnsuresWithin.mapType _ p.type).skip fun type => ?_
    exact ih.bind fun ps' => .pure fun names_eq => congrArg (p.name :: ·) names_eq

/-- The identifiers of a method are explained, and the names in scope of them are among
its variables. -/
theorem explained_method (keeps : cx.KeepsTargets) (m : Method) :
    EnsuresWithin c (Lexical.method cx m) fun m' =>
      Explains cx m.name c m.variables (m.replacements m') := by
  obtain ⟨parameters_subset, body_subset⟩ := List.append_subset.1 (List.Subset.refl m.variables)
  have start : Surroundings.AtStmt m.variables
      ⟨m.parameters.map Parameter.name, none, m.parameters.map Parameter.name⟩ :=
    ⟨⟨by simp, parameters_subset⟩, rfl⟩
  refine (explained_parameters m.parameters).bind fun ps' => ?_
  refine (explained_block m.name keeps start m.body body_subset).bind fun body' => ?_
  refine (EnsuresWithin.mapType _ m.returnType).skip fun type' => .pure fun explained names_eq => ?_
  rw [Method.replacements, names_eq]
  exact explained

end Lowering

/-! ## Lowered methods -/

/-- A method that can be lowered can be lowered by lexical scope, with the same captures
in the end. -/
theorem exists_outcome_of_lower {cx : LoweringContext} {m : Method} {r : LoweredMethod}
    (h : cx.lower m = .ok r) : ∃ record : Record,
      outcome (Lexical.method cx m) ⟨.empty, .unknown⟩ = (.ok r.method, record) ∧
        record.captures = r.captures := by
  have walk := outcome_lexical_method cx m
  rw [cx.lower_eq_match] at h
  rcases visit : outcome (m.visit cx.rules) .initial with ⟨_ | lowered, s⟩ <;>
    rw [visit] at h walk <;> cases h
  exact ⟨s.record, walk, rfl⟩

/-- **An identifier in place of an access lies in the scope of a variable with its name
exactly when the method has put one there**: where the access stands, it has declared a
parameter or local of that name, or is about to, in the initialiser of a local.  Each such
identifier is an answer of the table, or the name of a capture.  So where no parameter or
local is named like a capture of the method, no capture lies in the scope of a variable
with its name. -/
theorem lower_replacements (t : MemberTable) (types : TypeMap) (capturePrefix : String)
    (m : Method) (r : LoweredMethod) (h : (t.context types capturePrefix).lower m = .ok r) :
    (∀ p ∈ m.replacements r.method,
      p.Explained (t.context types capturePrefix) m.name r.captures ∧
      (p.name ∈ p.around.scope
        ↔ p.name ∈ p.around.visible ∨ p.around.declaring = some p.name)) ∧
    ((∀ name ∈ r.captures.names, name ∉ m.variables) →
      ∀ p ∈ m.replacements r.method, r.captures.contains p.name = true →
        p.name ∉ p.around.scope) := by
  obtain ⟨record, walk, captures_eq⟩ := exists_outcome_of_lower h
  have within : record.captures.entries <+: r.captures.entries := captures_eq ▸ List.prefix_rfl
  have keeps := t.keepsTargets_context types capturePrefix
  have explained : Explains (t.context types capturePrefix) m.name r.captures m.variables
      (m.replacements r.method) := (explained_method keeps m walk).2 within
  refine ⟨fun p hp => ?_, fun apart p hp bound inScope => ?_⟩
  · obtain ⟨answered, sound⟩ := explained p hp
    exact ⟨answered, sound.mem_scope p.name⟩
  · have listed : p.name ∈ r.captures.names := (r.captures.contains_iff_mem_names _).1 bound
    exact apart p.name listed ((explained p hp).2.subset inScope)

/-- What the lowering of `scaled` and of `scaleBy` is given: one member and one type. -/
def scaleContext (shader : String) : LoweringContext :=
  (MemberTable.vectorFields.addStatic scaleSetting).context
    (TypeMap.empty.register "float" shader) "__"

/-- A method with variables `a` and `b` that reads a member behind both. -/
theorem lower_replacements_scaled :
    (scaleContext "half").lower scaled = .ok scaledHalf ∧
      (scaled.replacements scaledHalf.method).map (fun p => (p.name, p.around))
        = [("__Settings__Scale", ⟨["a", "b"], none, ["a", "b"]⟩)] ∧
      ∀ p ∈ scaled.replacements scaledHalf.method,
        p.Explained (scaleContext "half") scaled.name scaledHalf.captures ∧
          p.name ∉ p.around.scope := by
  have lowered : (scaleContext "half").lower scaled = .ok scaledHalf := by rfl
  obtain ⟨explained, hygienic⟩ := lower_replacements _ _ _ _ _ lowered
  have apart : ∀ name ∈ scaledHalf.captures.names, name ∉ scaled.variables := by decide
  have bound : ∀ p ∈ scaled.replacements scaledHalf.method,
      scaledHalf.captures.contains p.name = true := by
    intro p hp
    obtain rfl := List.mem_singleton.1 hp
    rfl
  exact ⟨lowered, rfl, fun p hp => ⟨(explained p hp).1, hygienic apart p hp (bound p hp)⟩⟩

/-- A method with a parameter that is named like the capture of the member it reads. -/
def scaleBy : Method where
  attributes := []
  returnType := .named "float"
  name := "ScaleBy"
  parameters := [⟨[], .byValue, .named "float", "__Settings__Scale"⟩]
  body := [.ret (some (.access (.ident "Settings") "Scale"))]

/-- What becomes of `scaleBy`: it returns its parameter. -/
def scaledBy : LoweredMethod where
  method := { scaleBy with body := [.ret (some (.ident "__Settings__Scale"))] }
  captures := ⟨[⟨"__Settings__Scale", scaleSetting⟩]⟩

/-- The identifier of a capture lies in the scope of a parameter with its name. -/
theorem capture_in_scope_scaleBy :
    (scaleContext "float").lower scaleBy = .ok scaledBy ∧
      ∃ p ∈ scaleBy.replacements scaledBy.method,
        p.Answered (scaleContext "float") scaleBy.name (.capture scaleSetting) ∧
        p.name = scaleSetting.captureName "__" ∧
        p.name ∈ scaledBy.method.parameters.map Parameter.name ∧
        p.name ∈ p.around.scope := by
  have answered : (⟨⟨.ident "Settings", "Scale", .unknown⟩, "__Settings__Scale",
      ⟨["__Settings__Scale"], none, ["__Settings__Scale"]⟩⟩ : Replacement).Answered
      (scaleContext "float") scaleBy.name (.capture scaleSetting) :=
    ⟨⟨.empty, .unknown⟩, ⟨.empty, .unknown⟩, .ident "Settings", rfl, rfl⟩
  refine ⟨rfl, _, List.mem_singleton.2 rfl, answered, rfl, ?_, ?_⟩ <;> decide

end ShaderLowering
