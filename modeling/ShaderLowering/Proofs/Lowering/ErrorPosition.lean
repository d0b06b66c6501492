import ShaderLowering.Proofs.Lowering.FirstError
import ShaderLowering.Proofs.Lowering.Transcript

/-!
# Where errors say they are

An error about a refused construct carries a position.  It is the position of the construct
where that has one, and otherwise the last one that was noted before: a type's when the type
is mapped, an access's when the access is entered.  The places in front of the construct, in
the order in which they are reached, are all that matters; what comes behind, the attributes,
the return type and the methods lowered before have no part in it.

A resolver may refuse an access, with an error of its own that is passed on as it is.  Such a
run agrees with the run for a resolver that refuses nothing until then, which is the run that
goes through the stops.

## Main definitions

* `RefusedNode` — the nodes that are refused.
* `Stop.noted`, `lastKnown` — the positions that are noted, and the last one.
* `LoweringContext.answering` — a context that refuses no access.
* `Transcript.EndsRefused` — the last question was answered with an error.

## Main statements

* `lowerFrom_refused_or_answering` — errors of the resolver's, and others.
* `firstError_of_lowerFrom` — the error of a method, from whatever state.
* `lowerFrom_unsupported` — the position of an error about a construct.
-/

namespace ShaderLowering

/-! ## Refused nodes -/

/-- A node that is refused as soon as it is met. -/
inductive RefusedNode where
  | foreachLoop (type : TypeName) (name : String) (collection : Expr) (body : Block)
  | implicitLocal (declarators : List Declarator)
  | objectInitializer (type : TypeName) (args : List Expr) (fields : List (String × Expr))
  | stringLiteral (text : String)
  | nullLiteral
  | lambda (params : List String) (body : Expr)

namespace RefusedNode

/-- The construct that a node is. -/
def construct : RefusedNode → Construct
  | foreachLoop .. => .foreachLoop
  | implicitLocal _ => .implicitLocal
  | objectInitializer .. => .objectInitializer
  | stringLiteral _ => .stringLiteral
  | nullLiteral => .nullLiteral
  | lambda .. => .lambda

/-- The source text of a node. -/
def source : RefusedNode → String
  | foreachLoop type name collection body =>
    (Stmt.foreachLoop type name collection body).source
  | implicitLocal declarators => (Stmt.declare ⟨none, declarators⟩).source
  | objectInitializer type args fields => (Expr.creationWith type args fields).source
  | stringLiteral text => (Expr.literal (.string text)).source
  | nullLiteral => (Expr.literal .null).source
  | lambda params body => (Expr.lambda params body).source

/-- The position of a node: that of its type, if it has one. -/
def span : RefusedNode → Span
  | foreachLoop type .. | objectInitializer type .. => type.span
  | implicitLocal _ | stringLiteral _ | nullLiteral | lambda .. => .unknown

/-- A node as a stop. -/
def stop (n : RefusedNode) : Stop :=
  .construct n.construct n.source n.span

end RefusedNode

/-- A stop where a construct is refused is a node that is refused. -/
def Stop.IsOfNode : Stop → Prop
  | .construct c source span => ∃ n : RefusedNode, n.stop = .construct c source span
  | .position _ | .type _ => True

/-- This holds of several stops. -/
def AreOfNodes (stops : List Stop) : Prop :=
  ∀ s ∈ stops, s.IsOfNode

namespace AreOfNodes

theorem nil : AreOfNodes [] := by
  simp [AreOfNodes]

theorem append {stops more : List Stop} (h : AreOfNodes stops) (h' : AreOfNodes more) :
    AreOfNodes (stops ++ more) :=
  List.forall_mem_append.2 ⟨h, h'⟩

theorem node {stops : List Stop} (n : RefusedNode) (h : AreOfNodes stops) :
    AreOfNodes (n.stop :: stops) :=
  List.forall_mem_cons.2 ⟨⟨n, rfl⟩, h⟩

theorem position {stops : List Stop} (span : Span) (h : AreOfNodes stops) :
    AreOfNodes (.position span :: stops) :=
  List.forall_mem_cons.2 ⟨trivial, h⟩

theorem type (t : TypeName) : AreOfNodes [.type t] := by
  simp [AreOfNodes, Stop.IsOfNode]

end AreOfNodes

mutual

theorem Expr.areOfNodes_stops : ∀ e : Expr, AreOfNodes e.stops
  | .literal (.string text) => .node (.stringLiteral text) .nil
  | .literal .null => .node .nullLiteral .nil
  | .literal (.bool _) | .literal (.int _) | .literal (.uint _) | .literal (.float _)
  | .literal (.double _) | .ident _ => .nil
  | .member target _ span => .position span target.areOfNodes_stops
  | .call callee args => callee.areOfNodes_stops.append (Expr.areOfNodes_allStops args)
  | .index target position => target.areOfNodes_stops.append position.areOfNodes_stops
  | .cast type operand => operand.areOfNodes_stops.append (.type type)
  | .creation type args => (Expr.areOfNodes_allStops args).append (.type type)
  | .creationWith type args fields =>
    .node (.objectInitializer type args fields)
      ((Expr.areOfNodes_fieldStops fields).append
        ((Expr.areOfNodes_allStops args).append (.type type)))
  | .defaultOf type => .type type
  | .unary _ operand => operand.areOfNodes_stops
  | .binary _ lhs rhs => lhs.areOfNodes_stops.append rhs.areOfNodes_stops
  | .assign _ target value => target.areOfNodes_stops.append value.areOfNodes_stops
  | .conditional cond onTrue onFalse =>
    cond.areOfNodes_stops.append (onTrue.areOfNodes_stops.append onFalse.areOfNodes_stops)
  | .paren inner => inner.areOfNodes_stops
  | .lambda params body => .node (.lambda params body) body.areOfNodes_stops
termination_by structural e => e

theorem Expr.areOfNodes_allStops : ∀ es : List Expr, AreOfNodes (Expr.allStops es)
  | [] => .nil
  | e :: es => e.areOfNodes_stops.append (Expr.areOfNodes_allStops es)
termination_by structural es => es

theorem Expr.areOfNodes_fieldStops : ∀ fields : List (String × Expr),
    AreOfNodes (Expr.fieldStops fields)
  | [] => .nil
  | (_, value) :: fields => value.areOfNodes_stops.append (Expr.areOfNodes_fieldStops fields)
termination_by structural fields => fields

end

theorem Expr.areOfNodes_optionStops (e : Option Expr) : AreOfNodes (Expr.optionStops e) := by
  cases e with
  | none => exact .nil
  | some e => exact e.areOfNodes_stops

theorem Declaration.areOfNodes_stops (d : Declaration) : AreOfNodes d.stops := by
  have inits (ds : List Declarator) :
      AreOfNodes (ds.flatMap fun d => Expr.optionStops d.init) := by
    induction ds with
    | nil => exact .nil
    | cons d ds ih => exact (Expr.areOfNodes_optionStops d.init).append ih
  obtain ⟨type, declarators⟩ := d
  cases type with
  | none => exact .node (.implicitLocal declarators) (inits declarators)
  | some type => exact (inits declarators).append (.type type)

mutual

theorem Stmt.areOfNodes_stops : ∀ s : Stmt, AreOfNodes s.stops
  | .declare d => d.areOfNodes_stops
  | .expr value => value.areOfNodes_stops
  | .ret value => Expr.areOfNodes_optionStops value
  | .branch cond onTrue onFalse =>
    cond.areOfNodes_stops.append
      ((Stmt.areOfNodes_allStops onTrue).append (Stmt.areOfNodes_elseStops onFalse))
  | .forLoop init cond step body =>
    (Stmt.areOfNodes_initStops init).append ((Expr.areOfNodes_optionStops cond).append
      ((Expr.areOfNodes_allStops step).append (Stmt.areOfNodes_allStops body)))
  | .whileLoop cond body => cond.areOfNodes_stops.append (Stmt.areOfNodes_allStops body)
  | .foreachLoop type name collection body =>
    .node (.foreachLoop type name collection body)
      (collection.areOfNodes_stops.append (Stmt.areOfNodes_allStops body))
  | .block body => Stmt.areOfNodes_allStops body
  | .breakLoop | .continueLoop => .nil
termination_by structural s => s

theorem Stmt.areOfNodes_allStops : ∀ b : List Stmt, AreOfNodes (Stmt.allStops b)
  | [] => .nil
  | s :: rest => s.areOfNodes_stops.append (Stmt.areOfNodes_allStops rest)
termination_by structural b => b

theorem Stmt.areOfNodes_elseStops : ∀ b : Option (List Stmt), AreOfNodes (Stmt.elseStops b)
  | none => .nil
  | some body => Stmt.areOfNodes_allStops body
termination_by structural b => b

theorem Stmt.areOfNodes_initStops : ∀ init : Option Stmt, AreOfNodes (Stmt.initStops init)
  | none => .nil
  | some init => init.areOfNodes_stops
termination_by structural init => init

end

/-! ## Noted positions -/

/-- The position that is noted at a stop. -/
def Stop.noted : Stop → Span
  | .position span => span
  | .type t => t.span
  | .construct .. => .unknown

/-- The last of several positions that is known. -/
def lastKnown (spans : List Span) : Span :=
  (spans.filter Span.isKnown).getLast?.getD .unknown

theorem Stop.past_eq (passed : Span) (stop : Stop) :
    stop.past passed = if stop.noted.isKnown then stop.noted else passed := by
  cases stop <;> rfl

/-- Behind some stops, the last known position is the last known one of theirs, or else the
one from before. -/
theorem foldl_past (passed : Span) (stops : List Stop) :
    stops.foldl Stop.past passed
      = ((stops.map Stop.noted).filter Span.isKnown).getLast?.getD passed := by
  induction stops generalizing passed with
  | nil => rfl
  | cons stop stops ih =>
    rw [List.foldl_cons, ih, stop.past_eq, List.map_cons]
    by_cases known : stop.noted.isKnown = true
    · rw [if_pos known, List.filter_cons_of_pos known, List.getLast?_cons, Option.getD_some]
    · rw [if_neg known, List.filter_cons_of_neg known]

/-! ## Errors of the resolver's -/

/-- The answer to the last question of a transcript is an error. -/
def Transcript.EndsRefused (t : Transcript) (e : LoweringError) : Prop :=
  ∃ q, t.questions.getLast? = some q ∧ q.answer = .error e

/-- A context whose resolver refuses nothing: what would be refused is left as it is. -/
def LoweringContext.answering (cx : LoweringContext) : LoweringContext :=
  { cx with resolver := fun a visible =>
      match cx.resolver a visible with
      | .ok answer => .ok answer
      | .error _ => .ok (.direct a.toExpr) }

theorem LoweringContext.resolves_answering (cx : LoweringContext) : cx.answering.Resolves := by
  intro a visible
  simp only [answering]
  split
  · exact ⟨_, rfl⟩
  · exact ⟨_, rfl⟩

/-- A step with a transcript ends like one without refusals, unless it fails with the answer
to its last question. -/
def UnlessRefused {α : Type} (x : TranscriptM α) (y : LowerM α) : Prop :=
  ∀ t : Transcript, outcome y t.state = ((outcome x t).1, (outcome x t).2.state) ∨
    ∃ e, (outcome x t).1 = .error e ∧ (outcome x t).2.EndsRefused e

namespace UnlessRefused

variable {cx : LoweringContext} {α β : Type}

theorem pure (a : α) : UnlessRefused (Pure.pure a) (Pure.pure a) :=
  fun _ => .inl rfl

theorem bind {x : TranscriptM α} {y : LowerM α} {f : α → TranscriptM β} {g : α → LowerM β}
    (hx : UnlessRefused x y) (hf : ∀ a, UnlessRefused (f a) (g a)) :
    UnlessRefused (x >>= f) (y >>= g) := by
  intro t
  have first := hx t
  rcases done : outcome x t with ⟨e | a, u⟩ <;> rw [done] at first
  · rw [outcome_bind_error done]
    rcases first with same | refused
    · exact .inl (outcome_bind_error same)
    · rcases refused with ⟨e', failed, refused⟩
      cases failed
      exact .inr ⟨e, rfl, refused⟩
  · rw [outcome_bind_ok done]
    rcases first with same | ⟨_, failed, _⟩
    · rw [outcome_bind_ok same]
      exact hf a u
    · cases failed

theorem frame {x : TranscriptM α} {y : LowerM α} (h : UnlessRefused x y) :
    UnlessRefused (cx.transcriptSteps.frame x) (cx.answering.steps.frame y) := by
  intro t
  rcases h { t with state := { t.state with scope := t.state.scope.push } } with same | refused
  · refine .inl ?_
    change outcome (LowerM.inFrame y) t.state = _
    rw [LowerM.outcome_inFrame, same]
    rfl
  · exact .inr refused

/-- An access that is refused ends the run; any other is resolved alike. -/
theorem resolve (a : Access) :
    UnlessRefused (cx.transcriptSteps.resolve a) (cx.answering.steps.resolve a) := by
  intro t
  let question : Question :=
    ⟨a, t.state.scope, cx.resolver a t.state.scope.contains, (outcome (cx.resolve a) t.state).1⟩
  change outcome (cx.answering.resolve a) t.state = outcome (cx.resolve a) t.state ∨
    ∃ e, (outcome (cx.resolve a) t.state).1 = .error e ∧
      Transcript.EndsRefused ⟨(outcome (cx.resolve a) t.state).2, t.questions ++ [question]⟩ e
  cases answer : cx.resolver a t.state.scope.contains with
  | ok resolution =>
    have answer' : cx.answering.resolver a t.state.scope.contains = .ok resolution := by
      simp only [LoweringContext.answering, answer]
    rw [cx.outcome_resolve, cx.answering.outcome_resolve, answer, answer']
    exact .inl rfl
  | error e =>
    refine .inr ⟨e, ?_, question, List.getLast?_concat, answer⟩
    rw [cx.outcome_resolve_error answer]

end UnlessRefused

/-- The relation of steps to steps without refusals. -/
def unlessRefused : StepRelation TranscriptM LowerM where
  Rel := UnlessRefused
  pure := .pure
  bind := .bind

/-- A method in a transcript of its own. -/
theorem LoweringContext.transcript_method (cx : LoweringContext) (t : Transcript) (m : Method) :
    cx.transcript t [.method m] = (outcome (m.visit (cx.rulesIn cx.transcriptSteps)) t).2 :=
  congrArg Prod.snd (outcome_map Fragment.method _ t)

/-- An error of a method is the resolver's answer to the last question, or the error that the
method has when nothing is refused. -/
theorem lowerFrom_refused_or_answering (cx : LoweringContext) {s : LoweringState} {m : Method}
    {e : LoweringError} (failed : (cx.lowerFrom s m).1 = .error e) :
    (cx.transcript ⟨s, []⟩ [.method m]).EndsRefused e ∨
      (cx.answering.lowerFrom s m).1 = .error e := by
  have steps : LoweringSteps.Related unlessRefused cx.transcriptSteps cx.answering.steps :=
    ⟨fun _ _ => .inl rfl, .frame, .resolve⟩
  obtain ⟨asked, kept, -⟩ := transcribes_method cx m ⟨s, []⟩
  have failed' : (outcome (m.visit (cx.rulesIn cx.transcriptSteps)) ⟨s, []⟩).1 = .error e := by
    rw [kept]
    exact failed
  rw [cx.transcript_method]
  rcases m.visit_related (rulesIn_related cx steps) ⟨s, []⟩ with same | ⟨e', refused, ends⟩
  · exact .inr ((congrArg Prod.fst same).trans failed')
  · rw [failed'] at refused
    cases refused
    exact .inl ends

/-- No run ends with a refusal when every question is answered. -/
theorem not_endsRefused {cx : LoweringContext} (resolves : cx.Resolves) (s : LoweringState)
    (fragments : List Fragment) (e : LoweringError) :
    ¬ (cx.transcript ⟨s, []⟩ fragments).EndsRefused e := by
  rintro ⟨q, last, refused⟩
  obtain ⟨asked, transcript_eq, -, settled⟩ := transcript_eq cx ⟨s, []⟩ fragments
  rw [transcript_eq] at last
  obtain ⟨answer, ok⟩ := resolves q.access q.scope.contains
  rw [(settled q (List.mem_of_getLast? last)).answered, ok] at refused
  cases refused

/-! ## The error of a method -/

/-- An error of a method, from whatever state, is the one at the first of its stops that
offends, behind no position yet. -/
theorem firstError_of_lowerFrom {cx : LoweringContext} (resolves : cx.Resolves)
    {s : LoweringState} {m : Method} {e : LoweringError}
    (failed : (cx.lowerFrom s m).1 = .error e) : FirstError cx.types m.name .unknown m.stops e := by
  have walked : (outcome (cx.visitParts m) (s.entering m)).1 = .error e := by
    rw [← outcome_visit_method]
    exact failed
  have follows := follows_method resolves m
  rw [← scan_eq_error_iff]
  cases scanned : scan cx.types m.name .unknown m.stops with
  | ok last =>
    obtain ⟨lowered, t, done, -⟩ := follows.succeeds (s := s.entering m) scanned
    rw [done] at walked
    cases walked
  | error e' =>
    obtain ⟨t, done⟩ := follows.fails (s := s.entering m) scanned
    rw [done] at walked
    cases walked
    rfl

/-- The stops of the parameters and the body of a method. -/
def Method.bodyStops (m : Method) : List Stop :=
  m.parameters.map (fun p => .type p.type) ++ Stmt.allStops m.body

theorem Method.stops_eq (m : Method) : m.stops = m.bodyStops ++ [.type m.returnType] :=
  (List.append_assoc ..).symm

theorem Method.areOfNodes_bodyStops (m : Method) : AreOfNodes m.bodyStops := by
  refine AreOfNodes.append (fun stop mem => ?_) (Stmt.areOfNodes_allStops m.body)
  obtain ⟨p, -, rfl⟩ := List.mem_map.1 mem
  trivial

/-- Where a method is said to contain something refused, a node is refused, and it is the
first thing to offend in the parameters and the body. -/
theorem refused_of_firstError {types : TypeMap} {m : Method} {method source : String}
    {construct : Construct} {span : Span}
    (first : FirstError types m.name .unknown m.stops (.unsupported method construct source span)) :
    method = m.name ∧ ∃ (node : RefusedNode) (before after : List Stop),
      m.bodyStops = before ++ node.stop :: after ∧ harmless types before = true ∧
      construct = node.construct ∧ source = node.source ∧
      span = if node.span.isKnown then node.span else lastKnown (before.map Stop.noted) := by
  obtain ⟨before, stop, after, split, passes, error⟩ := first
  cases stop with
  | position _ => cases error
  | type t =>
    rw [Stop.error?] at error
    split at error <;> cases error
  | construct c text own =>
    -- The return type comes last and is no construct, so what is refused comes before it.
    obtain ⟨after, split⟩ : ∃ after, m.bodyStops = before ++ .construct c text own :: after := by
      rw [m.stops_eq, List.append_eq_append_iff] at split
      rcases split with ⟨rest, -, last⟩ | ⟨rest, split, last⟩
      · cases rest <;> simp at last
      · cases rest with
        | nil => simp at last
        | cons stop rest =>
          obtain ⟨rfl, -⟩ := List.cons.inj last
          exact ⟨rest, split⟩
    obtain ⟨node, node_eq⟩ : ∃ node : RefusedNode, node.stop = .construct c text own := by
      refine m.areOfNodes_bodyStops (.construct c text own) ?_
      rw [split]
      exact List.mem_append_right _ List.mem_cons_self
    cases node_eq
    cases error
    refine ⟨rfl, node, before, after, split, passes, rfl, rfl, ?_⟩
    rw [foldl_past]
    rfl

/-- **An error about a construct says where it is.**  When a method, lowered from whatever
state earlier methods have left, fails with an error about a refused construct, the resolver
has given that error in answer to the last question, or the error is about this method, and
about the first node to be refused in its parameters and its body: in front of it nothing
offends.  The position is that of the node if it is known, and otherwise the last known one
that was noted in front of it, or unknown if there is none. -/
theorem lowerFrom_unsupported (cx : LoweringContext) (s : LoweringState) (m : Method)
    {method source : String} {construct : Construct} {span : Span}
    (failed : (cx.lowerFrom s m).1 = .error (.unsupported method construct source span)) :
    (cx.transcript ⟨s, []⟩ [.method m]).EndsRefused (.unsupported method construct source span) ∨
      method = m.name ∧ ∃ (node : RefusedNode) (before after : List Stop),
        m.bodyStops = before ++ node.stop :: after ∧ harmless cx.types before = true ∧
        construct = node.construct ∧ source = node.source ∧
        span = if node.span.isKnown then node.span else lastKnown (before.map Stop.noted) := by
  rcases lowerFrom_refused_or_answering cx failed with refused | failed
  · exact .inl refused
  · exact .inr (refused_of_firstError (firstError_of_lowerFrom cx.resolves_answering failed))

/-- A method with a string behind a local of a type of its own, and with positions on its
attribute and its return type. -/
def stringBehindLocal : Method where
  attributes := [⟨"Kernel", [.member (.ident "Stage") "Pixel" ⟨1, 2⟩]⟩]
  returnType := ⟨"void", ⟨2, 1⟩⟩
  name := "Run"
  parameters := [.plain ⟨"Vector2", ⟨2, 10⟩⟩ "v"]
  body := [.declare ⟨some ⟨"float", ⟨3, 5⟩⟩,
    [⟨"k", some (.cast ⟨"float", ⟨3, 16⟩⟩ (.member (.ident "v") "X" ⟨3, 23⟩))⟩]⟩,
    .expr (.literal (.string "s"))]

/-- What is given to lower it: tables that refuse nothing. -/
def halfContext : LoweringContext :=
  MemberTable.vectorFields.context
    ((TypeMap.empty.register "float" "half").register "Vector2" "half2") "__"

/-- The state behind a method that ended at some other position. -/
def behindAnother : LoweringState :=
  { LoweringState.initial with method := "Before", location := ⟨9, 9⟩ }

/-- The string is at the position of the type of the local, which is noted last: behind its
initialiser, and in front of the return type.  The method before has no part in it. -/
theorem lowerFrom_unsupported_string :
    (halfContext.lowerFrom behindAnother stringBehindLocal).1
      = .error (.unsupported "Run" .stringLiteral "\"s\"" ⟨3, 5⟩) ∧
    "Run" = stringBehindLocal.name ∧ ∃ (node : RefusedNode) (before after : List Stop),
      stringBehindLocal.bodyStops = before ++ node.stop :: after ∧
      harmless halfContext.types before = true ∧
      Construct.stringLiteral = node.construct ∧ "\"s\"" = node.source ∧
      ⟨3, 5⟩ = if node.span.isKnown then node.span else lastKnown (before.map Stop.noted) := by
  have failed : (halfContext.lowerFrom behindAnother stringBehindLocal).1
      = .error (.unsupported "Run" .stringLiteral "\"s\"" ⟨3, 5⟩) := by rfl
  have resolves : halfContext.Resolves := MemberTable.resolves_context rfl _ _
  rcases lowerFrom_unsupported halfContext behindAnother stringBehindLocal failed with
    refused | located
  · exact absurd refused (not_endsRefused resolves _ _ _)
  · exact ⟨failed, located⟩

end ShaderLowering
