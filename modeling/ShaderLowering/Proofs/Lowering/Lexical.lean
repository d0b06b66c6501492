import ShaderLowering.Proofs.Lowering.Outcome

/-!
# Lowering by lexical scope

A second account of lowering, which keeps no scope.  The names that are visible
at a place are handed down to it: a method starts with its parameters, a
statement sees them and what the statements before it in its block, or in the
header of its `for` loop, declare, and nothing that is declared in a block is
handed out of it.  The initialiser of a declarator sees the declarators before it
and not its own name.

What is kept from step to step are the captures so far and the last position
seen, which an error about a construct without a position carries.

## Main definitions

* `Site` — the method that a part stands in, and the names visible to it.
* `Stmt.declared` — the names that a statement declares for what follows it.
* `Lexical.expr`, `Lexical.stmt`, `Lexical.method` — lowering at a site.
* `Lexical.lower` — lowering a method.
-/

namespace ShaderLowering

/-- The names that a statement declares for the statements behind it. -/
def Stmt.declared : Stmt → List String
  | .declare declaration => declaration.declarators.map Declarator.name
  | _ => []

/-- The place of a part of a method. -/
structure Site where
  method : String
  /-- The parameters and locals that the part sees. -/
  visible : List String

/-- The place behind a declaration of several names. -/
def Site.behind (site : Site) (names : List String) : Site :=
  { site with visible := site.visible ++ names }

/-- What lowering by lexical scope keeps. -/
structure Record where
  captures : Captures
  /-- The last known position seen. -/
  location : Span

/-- A step of lowering by lexical scope. -/
abbrev RecordM := ExceptT LoweringError (StateM Record)

namespace Lexical

variable (cx : LoweringContext)

/-- Remembers a position, if it is known. -/
def passBy (span : Span) : RecordM Unit :=
  modify fun r => if span.isKnown then { r with location := span } else r

/-- Gives up on a construct. -/
def refuse {α : Type} (site : Site) (construct : Construct) (source : String) (span : Span) :
    RecordM α := do
  let r ← get
  throw (.unsupported site.method construct source (if span.isKnown then span else r.location))

/-- Replaces a type by its shader counterpart. -/
def mapType (type : TypeName) : RecordM TypeName := do
  passBy type.span
  match cx.types.map type with
  | .ok mapped => pure mapped
  | .error e => throw e

/-- Replaces an access, whose target is lowered already.  The resolver is told of
the names at the site. -/
def access (site : Site) (a : Access) : RecordM Expr :=
  match cx.resolver a site.visible.contains with
  | .ok (.capture member) => do
    let name := member.captureName cx.capturePrefix
    modify fun r => { r with captures := r.captures.insert name member }
    pure (.ident name)
  | .ok (.direct replacement) => pure replacement
  | .error e => throw e

/-! ## Expressions -/

mutual

/-- Lowers an expression at a site. -/
def expr (site : Site) : Expr → RecordM Expr
  | .literal (.string text) =>
    refuse site .stringLiteral (Expr.literal (.string text)).source .unknown
  | .literal .null => refuse site .nullLiteral (Expr.literal .null).source .unknown
  | .literal value => pure (.literal value)
  | .ident name => pure (.ident name)
  | .member target name span => do
    passBy span
    let target ← expr site target
    access cx site ⟨target, name, span⟩
  | .call callee args => do
    let callee ← expr site callee
    let args ← exprs site args
    pure (.call callee args)
  | .index target position => do
    let target ← expr site target
    let position ← expr site position
    pure (.index target position)
  | .cast type operand => do
    let operand ← expr site operand
    let type ← mapType cx type
    pure (.cast type operand)
  | .creation type args => do
    let args ← exprs site args
    let type ← mapType cx type
    match args with
    | [] => pure (.zero type)
    | args => pure (.call (.ident type.name) args)
  | .creationWith type args fields =>
    refuse site .objectInitializer (Expr.creationWith type args fields).source type.span
  | .defaultOf type => do
    let type ← mapType cx type
    pure (.zero type)
  | .unary op operand => do
    let operand ← expr site operand
    pure (.unary op operand)
  | .binary op lhs rhs => do
    let lhs ← expr site lhs
    let rhs ← expr site rhs
    pure (.binary op lhs rhs)
  | .assign op target value => do
    let target ← expr site target
    let value ← expr site value
    pure (.assign op target value)
  | .conditional cond onTrue onFalse => do
    let cond ← expr site cond
    let onTrue ← expr site onTrue
    let onFalse ← expr site onFalse
    pure (.conditional cond onTrue onFalse)
  | .paren inner => do
    let inner ← expr site inner
    pure (.paren inner)
  | .lambda params body => refuse site .lambda (Expr.lambda params body).source .unknown
termination_by structural e => e

/-- Lowers several expressions at one site, first to last. -/
def exprs (site : Site) : List Expr → RecordM (List Expr)
  | [] => pure []
  | e :: es => do
    let e ← expr site e
    let es ← exprs site es
    pure (e :: es)
termination_by structural es => es

end

/-- Lowers an expression that may be missing. -/
def optional (site : Site) : Option Expr → RecordM (Option Expr)
  | none => pure none
  | some e => do
    let e ← expr cx site e
    pure (some e)

/-! ## Statements -/

/-- Lowers declarators, first to last: each name is visible behind its initialiser. -/
def declarators (site : Site) : List Declarator → RecordM (List Declarator)
  | [] => pure []
  | d :: ds => do
    let init ← optional cx site d.init
    let ds ← declarators (site.behind [d.name]) ds
    pure (⟨d.name, init⟩ :: ds)

/-- Lowers a local declaration. -/
def declaration (site : Site) (d : Declaration) : RecordM Declaration :=
  match d.type with
  | none => refuse site .implicitLocal (Stmt.declare d).source .unknown
  | some type => do
    let lowered ← declarators cx site d.declarators
    let type ← mapType cx type
    pure ⟨some type, lowered⟩

mutual

/-- Lowers a statement at a site. -/
def stmt (site : Site) : Stmt → RecordM Stmt
  | .declare d => do
    let d ← declaration cx site d
    pure (.declare d)
  | .expr value => do
    let value ← expr cx site value
    pure (.expr value)
  | .ret value => do
    let value ← optional cx site value
    pure (.ret value)
  | .branch cond onTrue onFalse => do
    let cond ← expr cx site cond
    let onTrue ← block site onTrue
    let onFalse ← otherwise site onFalse
    pure (.branch cond onTrue onFalse)
  | .forLoop init cond step body => do
    let lowered ← header site init
    let inside := site.behind (init.elim [] Stmt.declared)
    let cond ← optional cx inside cond
    let step ← exprs cx inside step
    let body ← block inside body
    pure (.forLoop lowered cond step body)
  | .whileLoop cond body => do
    let cond ← expr cx site cond
    let body ← block site body
    pure (.whileLoop cond body)
  | .foreachLoop type name collection body =>
    refuse site .foreachLoop (Stmt.foreachLoop type name collection body).source type.span
  | .block body => do
    let body ← block site body
    pure (.block body)
  | .breakLoop => pure .breakLoop
  | .continueLoop => pure .continueLoop
termination_by structural s => s

/-- Lowers the statements of a block, first to last. -/
def block (site : Site) : List Stmt → RecordM (List Stmt)
  | [] => pure []
  | s :: rest => do
    let lowered ← stmt site s
    let rest ← block (site.behind s.declared) rest
    pure (lowered :: rest)
termination_by structural stmts => stmts

/-- Lowers the block behind `else`, if there is one. -/
def otherwise (site : Site) : Option (List Stmt) → RecordM (Option (List Stmt))
  | none => pure none
  | some body => do
    let body ← block site body
    pure (some body)
termination_by structural b => b

/-- Lowers the first part of a `for` header, if there is one. -/
def header (site : Site) : Option Stmt → RecordM (Option Stmt)
  | none => pure none
  | some init => do
    let init ← stmt site init
    pure (some init)
termination_by structural s => s

end

/-! ## Methods -/

/-- Lowers parameters, first to last. -/
def parameters : List Parameter → RecordM (List Parameter)
  | [] => pure []
  | p :: ps => do
    let type ← mapType cx p.type
    let ps ← parameters ps
    pure (⟨[], p.passing.lowered, type, p.name⟩ :: ps)

/-- Lowers a method: its parameters, its body, where all of them are visible, and
its return type. -/
def method (m : Method) : RecordM Method := do
  let lowered ← parameters cx m.parameters
  let body ← block cx ⟨m.name, m.parameters.map Parameter.name⟩ m.body
  let returnType ← mapType cx m.returnType
  pure ⟨[], returnType, m.name, lowered, body⟩

/-- Lowers a method from the beginning. -/
def lower (m : Method) : Except LoweringError LoweredMethod :=
  match outcome (method cx m) ⟨.empty, .unknown⟩ with
  | (.ok lowered, r) => .ok ⟨lowered, r.captures⟩
  | (.error e, _) => .error e

end Lexical

end ShaderLowering
