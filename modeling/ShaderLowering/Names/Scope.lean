/-!
# Scopes

The local names that are visible at a place in a method, in nested frames.

## Main definitions

* `Scope` — the frames, innermost first.
* `Scope.push`, `Scope.pop`, `Scope.declare`, `Scope.contains` — the operations.
-/

namespace ShaderLowering

/-- Frames of local names, the innermost one first.  A frame keeps its names in
the order in which they were declared. -/
structure Scope where
  frames : List (List String)
deriving DecidableEq, Repr, Inhabited

namespace Scope

/-- A scope with one frame and no names. -/
def fresh : Scope := ⟨[[]]⟩

/-- A scope without a frame. -/
def empty : Scope := ⟨[]⟩

/-- Opens a frame. -/
def push (s : Scope) : Scope :=
  ⟨[] :: s.frames⟩

/-- Closes the innermost frame, if there is one. -/
def pop (s : Scope) : Scope :=
  ⟨s.frames.tail⟩

/-- Declares a name in the innermost frame, opening one if there is none. -/
def declare (s : Scope) (name : String) : Scope :=
  match s.frames with
  | [] => ⟨[[name]]⟩
  | frame :: outer => ⟨(frame ++ [name]) :: outer⟩

/-- Whether a name is visible. -/
def contains (s : Scope) (name : String) : Bool :=
  s.frames.any fun frame => frame.contains name

@[simp] theorem pop_push (s : Scope) : s.push.pop = s := rfl

@[simp] theorem contains_fresh (name : String) : fresh.contains name = false := rfl

@[simp] theorem contains_push (s : Scope) (name : String) :
    s.push.contains name = s.contains name := by
  simp [push, contains]

/-- Declaring makes one name visible and hides none. -/
@[simp] theorem contains_declare (s : Scope) (declared name : String) :
    (s.declare declared).contains name = (s.contains name || decide (name = declared)) := by
  obtain ⟨frames⟩ := s
  cases frames with
  | nil => simp [declare, contains]
  | cons frame outer =>
    simp only [declare, contains, List.any_cons, List.contains_append]
    cases frame.contains name <;> cases outer.any _ <;> simp

end Scope

end ShaderLowering
