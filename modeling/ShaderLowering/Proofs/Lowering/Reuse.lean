import ShaderLowering.Proofs.Lowering.Steps
import ShaderLowering.Proofs.Names.Captures

/-!
# Lowering one method after another

A lowering keeps its state from one method to the next, and from a method that could
not be lowered as well.  Of that state only the captures reach the next method, and
they do not reach its tree: an access becomes the identifier of its member whether or
not the identifier was taken.

The proof runs a method twice, from two states at one place.  Both runs ask the
resolver the same questions, so they record the same captures, one behind the entries
of one state and one behind those of the other.

## Main definitions

* `Echoes` — two steps give the same and record the same, from states at one place.
* `LoweringContext.lowerInTurn` — methods lowered one after the other.

## Main statements

* `lowerFrom_eq` — what lowering a method gives from any state.
* `lowerInTurn_eq` — each of several methods is lowered as if it were the only one.
-/

namespace ShaderLowering

/-! ## Two runs -/

/-- From states at one place, two steps give the same result and leave off at one
place.  They record the same captures behind those of the two states. -/
def Echoes {α : Type} (x y : LowerM α) : Prop :=
  ∀ s t, s.place = t.place →
    (outcome x s).1 = (outcome y t).1 ∧
    (outcome x s).2.place = (outcome y t).2.place ∧
    ∃ given : List Capture,
      (outcome x s).2.captures = s.captures.insertAll given ∧
      (outcome y t).2.captures = t.captures.insertAll given

namespace Echoes

variable {cx : LoweringContext} {α β : Type}

theorem pure (a : α) : Echoes (Pure.pure a) (Pure.pure a) :=
  fun _ _ place_eq => ⟨rfl, place_eq, [], rfl, rfl⟩

/-- The second steps begin at one place again, because they do so only if both of the
first ones have succeeded. -/
theorem bind {x y : LowerM α} {f g : α → LowerM β} (hx : Echoes x y)
    (hf : ∀ a, Echoes (f a) (g a)) : Echoes (x >>= f) (y >>= g) := by
  intro s t place_eq
  obtain ⟨result_eq, place_eq', given, captures_s, captures_t⟩ := hx s t place_eq
  rcases hs : outcome x s with ⟨e | a, s'⟩ <;> rcases ht : outcome y t with ⟨e' | a', t'⟩ <;>
    rw [hs, ht] at result_eq place_eq' <;> rw [hs] at captures_s <;> rw [ht] at captures_t <;>
    cases result_eq
  case error =>
    rw [outcome_bind_error hs, outcome_bind_error ht]
    exact ⟨rfl, place_eq', given, captures_s, captures_t⟩
  case ok =>
    obtain ⟨result_eq, place_eq'', given', captures_s', captures_t'⟩ := hf a s' t' place_eq'
    rw [outcome_bind_ok hs, outcome_bind_ok ht]
    refine ⟨result_eq, place_eq'', given ++ given', ?_, ?_⟩
    · rw [captures_s', captures_s, Captures.insertAll_append]
    · rw [captures_t', captures_t, Captures.insertAll_append]

theorem plain {x : LowerM α} (hx : x.IsPlain) : Echoes x x :=
  fun s t place_eq => ⟨hx.result_eq place_eq, hx.place_eq place_eq, [], hx.captures_eq s,
    hx.captures_eq t⟩

theorem frame {x y : LowerM α} (h : Echoes x y) :
    Echoes (LowerM.inFrame x) (LowerM.inFrame y) := by
  intro s t place_eq
  obtain ⟨scope_eq, method_eq, location_eq⟩ := LoweringState.place_eq_iff.1 place_eq
  have inside : { s with scope := s.scope.push }.place = { t with scope := t.scope.push }.place :=
    LoweringState.place_eq_iff.2 ⟨congrArg Scope.push scope_eq, method_eq, location_eq⟩
  obtain ⟨result_eq, place_eq', given, captures_s, captures_t⟩ := h _ _ inside
  obtain ⟨scope_eq', method_eq', location_eq'⟩ := LoweringState.place_eq_iff.1 place_eq'
  rw [LowerM.outcome_inFrame, LowerM.outcome_inFrame]
  refine ⟨result_eq, ?_, given, captures_s, captures_t⟩
  exact LoweringState.place_eq_iff.2 ⟨congrArg Scope.pop scope_eq', method_eq', location_eq'⟩

/-- The resolver sees one scope in both runs, so it gives one answer.  A member is
recorded under the same name, whatever the name stands for already. -/
theorem resolve (a : Access) : Echoes (cx.resolve a) (cx.resolve a) := by
  intro s t place_eq
  have answer_eq : cx.resolver a t.scope.contains = cx.resolver a s.scope.contains := by
    rw [(LoweringState.place_eq_iff.1 place_eq).1]
  rcases answer : cx.resolver a s.scope.contains with e | member | replacement
  · rw [cx.outcome_resolve_error answer, cx.outcome_resolve_error (answer_eq.trans answer)]
    exact ⟨rfl, place_eq, [], rfl, rfl⟩
  · obtain ⟨journal, done⟩ := cx.outcome_resolve_capture answer
    obtain ⟨journal', done'⟩ := cx.outcome_resolve_capture (answer_eq.trans answer)
    rw [done, done']
    exact ⟨rfl, place_eq, [⟨member.captureName cx.capturePrefix, member⟩], rfl, rfl⟩
  · rw [cx.outcome_resolve_direct answer, cx.outcome_resolve_direct (answer_eq.trans answer)]
    exact ⟨rfl, place_eq, [], rfl, rfl⟩

end Echoes

/-- The relation of a step to one that echoes it. -/
def echoing : StepRelation LowerM LowerM where
  Rel := Echoes
  pure := .pure
  bind := .bind

/-- The rules of lowering echo themselves. -/
theorem echoes_rules (cx : LoweringContext) : cx.rules.Related echoing cx.rules := by
  have steps : LoweringSteps.Related echoing cx.steps cx.steps := ⟨.plain, .frame, .resolve⟩
  exact rulesIn_related cx steps

/-- The walk over the parts of a method echoes itself. -/
theorem echoes_visitParts (cx : LoweringContext) (m : Method) :
    Echoes (cx.visitParts m) (cx.visitParts m) := by
  have rules := echoes_rules cx
  refine Echoes.bind (Parameter.visitAll_related rules m.parameters) fun parameters => ?_
  refine Echoes.bind (Block.visit_related rules m.body) fun body => ?_
  exact Echoes.bind (.plain (LowerM.isPlain_mapType cx m.returnType)) fun _ => .pure _

/-! ## Methods -/

/-- Each method begins at a place of its own, so any two runs of it echo each other. -/
theorem echoes_lowerFrom (cx : LoweringContext) (s t : LoweringState) (m : Method) :
    (cx.lowerFrom s m).1 = (cx.lowerFrom t m).1 ∧
    (cx.lowerFrom s m).2.place = (cx.lowerFrom t m).2.place ∧
    ∃ given : List Capture,
      (cx.lowerFrom s m).2.captures = s.captures.insertAll given ∧
      (cx.lowerFrom t m).2.captures = t.captures.insertAll given := by
  have run (u : LoweringState) :
      cx.lowerFrom u m = outcome (cx.visitParts m) (u.entering m) :=
    outcome_visit_method cx m u
  rw [run s, run t]
  exact echoes_visitParts cx m (s.entering m) (t.entering m) rfl

theorem lower_eq_map_lowerFrom (cx : LoweringContext) (m : Method) :
    (cx.lower m).map LoweredMethod.method = (cx.lowerFrom .initial m).1 := by
  rw [LoweringContext.lower]
  rcases cx.lowerFrom .initial m with ⟨_ | lowered, s⟩ <;> rfl

/-- **A method is lowered alike from every state**, whatever was lowered before, or
could not be.  It becomes the same tree or fails with the same error as from the
initial state, which is how it is lowered on its own, and it leaves off at the same
place.  The captures that were there stay in front; behind them stand, in their order,
those of the run from the initial state whose names were free. -/
theorem lowerFrom_eq_initial (cx : LoweringContext) (s : LoweringState) (m : Method) :
    let later := cx.lowerFrom s m
    let fresh := cx.lowerFrom .initial m
    later.1 = fresh.1 ∧
    later.1 = (cx.lower m).map LoweredMethod.method ∧
    later.2.place = fresh.2.place ∧
    later.2.captures.entries
      = s.captures.entries
        ++ fresh.2.captures.entries.filter fun e => !s.captures.contains e.name := by
  intro later fresh
  obtain ⟨result_eq, place_eq, given, captures_later, captures_fresh⟩ :=
    echoes_lowerFrom cx s .initial m
  refine ⟨result_eq, ?_, place_eq, ?_⟩
  · rw [lower_eq_map_lowerFrom]
    exact result_eq
  · calc later.2.captures.entries
        = (s.captures.insertAll given).entries := congrArg Captures.entries captures_later
      _ = s.captures.entries ++ (Captures.empty.insertAll given).entries.filter
            fun e => !s.captures.contains e.name := s.captures.entries_insertAll_eq_filter given
      _ = s.captures.entries ++ fresh.2.captures.entries.filter
            fun e => !s.captures.contains e.name := by
          rw [show fresh.2.captures = Captures.empty.insertAll given from captures_fresh]

/-! ## Several methods -/

/-- Lowers several methods, each from the state that the one before it has left. -/
def LoweringContext.lowerInTurn (cx : LoweringContext) (s : LoweringState) :
    List Method → List (Except LoweringError Method)
  | [] => []
  | m :: methods =>
    let (result, t) := cx.lowerFrom s m
    result :: cx.lowerInTurn t methods

/-- Several methods in turn become what each of them becomes on its own. -/
theorem lowerInTurn_eq (cx : LoweringContext) (s : LoweringState) (methods : List Method) :
    cx.lowerInTurn s methods = (cx.lowerAll methods).map (Except.map LoweredMethod.method) := by
  induction methods generalizing s with
  | nil => rfl
  | cons m methods ih =>
    have first : (cx.lowerFrom s m).1 = (cx.lower m).map LoweredMethod.method := by
      rw [lower_eq_map_lowerFrom]
      exact (echoes_lowerFrom cx s .initial m).1
    calc cx.lowerInTurn s (m :: methods)
        = (cx.lowerFrom s m).1 :: cx.lowerInTurn (cx.lowerFrom s m).2 methods := rfl
      _ = (cx.lowerAll (m :: methods)).map (Except.map LoweredMethod.method) := by
        rw [first, ih]
        rfl

end ShaderLowering
