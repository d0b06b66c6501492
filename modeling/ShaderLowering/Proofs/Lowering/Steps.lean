import ShaderLowering.Proofs.Lowering.Outcome
import ShaderLowering.Proofs.Tree.Related

/-!
# Lowering in other monads

The rules of lowering are stated over a choice of steps, in any monad.  With the steps of
lowering itself they are lowering; with others they are lowering with more or less being
kept.  If each kind of step is related to its counterpart in another choice, so are the
rules.

## Main definitions

* `Place`, `LowerM.IsPlain` — what a plain step depends on, and what it leaves alone.
* `LoweringSteps.Related` — two choices of steps are related.

## Main statements

* `rulesIn_related` — over related steps the rules are related.
-/

namespace ShaderLowering

/-! ## Related steps -/

/-- The place at which a lowering is, which is all that a plain step looks at. -/
structure Place where
  scope : Scope
  method : String
  location : Span

/-- The place of a state. -/
def LoweringState.place (s : LoweringState) : Place :=
  ⟨s.scope, s.method, s.location⟩

/-- A plain step leaves the captures alone, whether it succeeds or fails, and what it
gives and where it leaves off depends on its place only. -/
structure LowerM.IsPlain {α : Type} (x : LowerM α) : Prop where
  captures_eq : ∀ s, (outcome x s).2.captures = s.captures
  result_eq : ∀ {s t}, s.place = t.place → (outcome x s).1 = (outcome x t).1
  place_eq : ∀ {s t}, s.place = t.place → (outcome x s).2.place = (outcome x t).2.place

/-- Two choices of steps are related. -/
structure LoweringSteps.Related {m n : Type → Type} [Monad m] [Monad n] (R : StepRelation m n)
    (st : LoweringSteps m) (st' : LoweringSteps n) : Prop where
  plain : ∀ {α : Type} {x : LowerM α}, x.IsPlain → R.Rel (st.plain x) (st'.plain x)
  frame : ∀ {α : Type} {x : m α} {y : n α}, R.Rel x y → R.Rel (st.frame x) (st'.frame y)
  resolve : ∀ a, R.Rel (st.resolve a) (st'.resolve a)

namespace LoweringState

variable {s t : LoweringState}

theorem place_eq_iff :
    s.place = t.place ↔ s.scope = t.scope ∧ s.method = t.method ∧ s.location = t.location := by
  simp only [place, Place.mk.injEq]

/-- The place behind a node depends on the place in front of it. -/
theorem place_past (h : s.place = t.place) (span : Span) :
    (s.past span).place = (t.past span).place := by
  obtain ⟨scope_eq, method_eq, location_eq⟩ := place_eq_iff.1 h
  refine place_eq_iff.2 ⟨by simpa, by simpa, ?_⟩
  unfold past
  split
  · rfl
  · exact location_eq

end LoweringState

namespace LowerM

open LoweringState (place_eq_iff captures_past place_past)

theorem isPlain_refuse {α : Type} (construct : Construct) (source : String) (span : Span) :
    (refuse construct source span : LowerM α).IsPlain where
  captures_eq _ := rfl
  result_eq h := by
    obtain ⟨-, method_eq, location_eq⟩ := place_eq_iff.1 h
    rw [outcome_refuse, outcome_refuse, method_eq, location_eq]
  place_eq h := h

theorem isPlain_declare (name : String) : (declare name).IsPlain where
  captures_eq _ := rfl
  result_eq _ := rfl
  place_eq {s t} h := by
    obtain ⟨scope_eq, method_eq, location_eq⟩ := place_eq_iff.1 h
    exact place_eq_iff.2 ⟨congrArg (Scope.declare · name) scope_eq, method_eq, location_eq⟩

theorem isPlain_note (event : Event) : (note event).IsPlain where
  captures_eq _ := rfl
  result_eq _ := rfl
  place_eq h := h

/-- Beginning a method sets its place, whatever the place was before. -/
theorem isPlain_begin (name : String) :
    IsPlain (modify fun s => { s with method := name, scope := .fresh, location := .unknown }) where
  captures_eq _ := rfl
  result_eq _ := rfl
  place_eq _ := rfl

theorem isPlain_passBy (span : Span) : (passBy span).IsPlain where
  captures_eq s := captures_past s span
  result_eq _ := rfl
  place_eq h := place_past h span

theorem isPlain_mapType (cx : LoweringContext) (type : TypeName) : (cx.mapType type).IsPlain where
  captures_eq s := by
    rw [cx.outcome_mapType]
    exact captures_past s type.span
  result_eq h := by rw [cx.outcome_mapType, cx.outcome_mapType]
  place_eq h := by
    rw [cx.outcome_mapType, cx.outcome_mapType]
    exact place_past h type.span

end LowerM

section Related

open LowerM

variable {m n : Type → Type} [Monad m] [Monad n] {R : StepRelation m n} {st : LoweringSteps m}
  {st' : LoweringSteps n}

/-- Over related steps the rules are related. -/
theorem rulesIn_related (cx : LoweringContext) (h : LoweringSteps.Related R st st') :
    (cx.rulesIn st).Related R (cx.rulesIn st') where
  method node {x y} children := by
    refine R.bind (h.plain (isPlain_begin _)) fun _ => ?_
    refine R.bind (h.plain (isPlain_note _)) fun _ => ?_
    exact R.bind children fun _ => R.result (h.plain (isPlain_mapType cx _)) _
  parameter node {x y} children := by
    refine R.bind (h.plain (isPlain_mapType cx _)) fun _ => ?_
    exact R.result (h.plain (isPlain_declare _)) fun _ => _
  block node {x y} children := h.frame children
  stmt node {x y} children := by
    cases node with
    | foreachLoop type name collection body => exact h.plain (isPlain_refuse _ _ _)
    | forLoop init cond step body => exact h.frame children
    | _ => exact children
  declaration node {x y} children := by
    obtain ⟨type, declarators⟩ := node
    cases type with
    | none => exact h.plain (isPlain_refuse _ _ _)
    | some type =>
      exact R.bind children fun _ => R.result (h.plain (isPlain_mapType cx _)) _
  declarator node {x y} children :=
    R.bind children fun _ => R.result (h.plain (isPlain_declare _)) fun _ => _
  expr node {x y} children := by
    cases node with
    | literal value =>
      cases value with
      | string text => exact h.plain (isPlain_refuse _ _ _)
      | null => exact h.plain (isPlain_refuse _ _ _)
      | _ => exact children
    | lambda params body => exact h.plain (isPlain_refuse _ _ _)
    | _ => exact children
  access node {x y} children := by
    refine R.bind (h.plain (isPlain_passBy _)) fun _ => ?_
    exact R.bind children fun _ => h.resolve _
  cast type operand {x y} children :=
    R.bind children fun _ => R.result (h.plain (isPlain_mapType cx _)) _
  creation type args {x y} children := by
    refine R.bind children fun lowered => R.bind (h.plain (isPlain_mapType cx _)) fun _ => ?_
    cases lowered with
    | nil => exact R.pure _
    | cons e es => exact R.pure _
  creationWith type args fields {x y} _ := h.plain (isPlain_refuse _ _ _)
  defaultOf type := R.result (h.plain (isPlain_mapType cx _)) _

end Related

end ShaderLowering
