import ShaderLowering.Lowering.Journal
import ShaderLowering.Lowering.TypeMap
import ShaderLowering.Names.Captures
import ShaderLowering.Names.Resolver
import ShaderLowering.Names.Scope
import ShaderLowering.Source.Stmt
import ShaderLowering.Tree.Build
import ShaderLowering.Tree.Traversal

/-!
# Lowering rules

What becomes of each form of the host language.  The rules are a `Visitor` over
the monad `LowerM`, which keeps its state when it fails: the local names in
scope, the captures so far, and the last position seen, which an error carries
when the construct it is about has none.

Types are replaced by their shader counterparts.  Attributes are dropped without
being visited, a reference parameter becomes `inout`, `default(T)` and `new T()`
become `(T)0`, `new T(args)` becomes a call, and a member access becomes what the
resolver says.  A `foreach` loop, an implicitly typed local, an object
initialiser, a string, a null and a lambda are refused before anything inside
them is visited.

The rules are put together from three kinds of steps: plain ones, which neither visit
anything nor ask the resolver, parts with a frame of their own, and accesses, which are
resolved.  They are stated over any choice of these; lowering is one choice.

## Main definitions

* `LoweringContext`, `LoweringState`, `LowerM` — what a lowering is given and keeps.
* `LowerM.inFrame` — a part of a method with a frame of its own.
* `LoweringSteps`, `LoweringContext.steps` — what the rules are put together from.
* `LoweringContext.rulesIn`, `LoweringContext.rules` — the visitor, over any steps and over
  those of lowering.
-/

namespace ShaderLowering

/-- What a lowering is given: how members are resolved, how types are mapped, and
how capture names begin. -/
structure LoweringContext where
  resolver : Resolver
  types : TypeMap
  capturePrefix : String

/-- What a lowering keeps. -/
structure LoweringState where
  scope : Scope
  captures : Captures
  /-- The method that is being lowered. -/
  method : String
  /-- The last known position seen in this method. -/
  location : Span
  journal : List Event
deriving Repr

/-- The state before the first method. -/
def LoweringState.initial : LoweringState :=
  ⟨.fresh, .empty, "", .unknown, []⟩

/-- A lowering step: it may fail, and its state outlives the failure. -/
abbrev LowerM := ExceptT LoweringError (StateM LoweringState)

/-! ## Steps -/

namespace LowerM

/-- Adds an event to the journal. -/
def note (event : Event) : LowerM Unit :=
  modify fun s => { s with journal := s.journal ++ [event] }

/-- Makes a local name visible. -/
def declare (name : String) : LowerM Unit :=
  modify fun s => { s with scope := s.scope.declare name }

/-- Runs a step in a frame of its own, which is closed also when the step fails. -/
def inFrame {α : Type} (step : LowerM α) : LowerM α :=
  ExceptT.mk do
    modify fun s => { s with scope := s.scope.push }
    let result ← step.run
    modify fun s => { s with scope := s.scope.pop }
    pure result

/-- Remembers a position, if it is known. -/
def passBy (span : Span) : LowerM Unit :=
  modify fun s => if span.isKnown then { s with location := span } else s

/-- Gives up on a construct.  Where its own position is not known, the error
carries the last one seen. -/
def refuse {α : Type} (construct : Construct) (source : String) (span : Span) : LowerM α := do
  let s ← get
  throw (.unsupported s.method construct source (if span.isKnown then span else s.location))

end LowerM

/-- The passing mode of a lowered parameter. -/
def Passing.lowered : Passing → Passing
  | .reference => .inout
  | passing => passing

/-- The steps that the rules of lowering are put together from, in any monad. -/
structure LoweringSteps (m : Type → Type) where
  /-- A step that visits nothing and asks nothing. -/
  plain : ∀ {α : Type}, LowerM α → m α
  /-- A part of a method with a frame of its own. -/
  frame : ∀ {α : Type}, m α → m α
  /-- An access whose target is lowered already. -/
  resolve : Access → m Expr

namespace LoweringContext

open LowerM

/-- Replaces a type by its shader counterpart. -/
def mapType (cx : LoweringContext) (type : TypeName) : LowerM TypeName := do
  passBy type.span
  match cx.types.map type with
  | .ok mapped => pure mapped
  | .error e => throw e

/-- Records a captured member and gives the identifier that stands for it. -/
def capture (cx : LoweringContext) (member : Member) : LowerM String := do
  let name := member.captureName cx.capturePrefix
  let s ← get
  set { s with captures := s.captures.insert name member }
  match s.captures.recorded name member with
  | .added => note (.captured s.method member name)
  | .known => pure ()
  | .collision bound => note (.collided s.method name bound)
  pure name

/-- Replaces an access, whose target is lowered already, by what it stands for. -/
def resolve (cx : LoweringContext) (a : Access) : LowerM Expr := do
  let s ← get
  match cx.resolver a s.scope.contains with
  | .ok (.capture member) =>
    let name ← cx.capture member
    pure (.ident name)
  | .ok (.direct replacement) => pure replacement
  | .error e => throw e

/-- The steps of lowering itself. -/
def steps (cx : LoweringContext) : LoweringSteps LowerM where
  plain x := x
  frame := LowerM.inFrame
  resolve := cx.resolve

/-! ## The rules -/

/-- The rules of lowering over a choice of steps. -/
def rulesIn {m : Type → Type} [Monad m] (cx : LoweringContext) (st : LoweringSteps m) :
    Visitor m where
  method x children := do
    st.plain (modify fun s => { s with method := x.name, scope := .fresh, location := .unknown })
    st.plain (note (.started x.name))
    let lowered ← children
    let returnType ← st.plain (cx.mapType lowered.returnType)
    pure { lowered with attributes := [], returnType := returnType }
  parameter p _ := do
    let type ← st.plain (cx.mapType p.type)
    st.plain (declare p.name)
    pure ⟨[], p.passing.lowered, type, p.name⟩
  block _ children := st.frame children
  stmt s children :=
    match s with
    | .foreachLoop type .. => st.plain (refuse .foreachLoop s.source type.span)
    | .forLoop .. => st.frame children
    | _ => children
  declaration d children :=
    match d.type with
    | none => st.plain (refuse .implicitLocal (Stmt.declare d).source .unknown)
    | some type => do
      let lowered ← children
      let type ← st.plain (cx.mapType type)
      pure ⟨some type, lowered.declarators⟩
  declarator d children := do
    let lowered ← children
    st.plain (declare d.name)
    pure lowered
  expr e children :=
    match e with
    | .literal (.string _) => st.plain (refuse .stringLiteral e.source .unknown)
    | .literal .null => st.plain (refuse .nullLiteral e.source .unknown)
    | .lambda .. => st.plain (refuse .lambda e.source .unknown)
    | _ => children
  access a children := do
    st.plain (passBy a.span)
    let target ← children
    st.resolve ⟨target, a.name, a.span⟩
  cast type _ children := do
    let operand ← children
    let type ← st.plain (cx.mapType type)
    pure (.cast type operand)
  creation type _ children := do
    let args ← children
    let type ← st.plain (cx.mapType type)
    match args with
    | [] => pure (.zero type)
    | args => pure (.call (.ident type.name) args)
  creationWith type args fields _ :=
    st.plain (refuse .objectInitializer (Expr.creationWith type args fields).source type.span)
  defaultOf type := do
    let type ← st.plain (cx.mapType type)
    pure (.zero type)

/-- The rules of lowering: those over its own steps. -/
def rules (cx : LoweringContext) : Visitor LowerM :=
  cx.rulesIn cx.steps

end LoweringContext

end ShaderLowering
