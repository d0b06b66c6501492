import ShaderLowering.Lowering.Rules
import ShaderLowering.Tree.Fragment

/-!
# Lowering a method

A method is lowered by one walk with the lowering rules, from the initial state.
What comes out is a shader method and the static members it reads, in the order
in which they are first met.

Several fragments of methods can also be lowered in one session, in which each
one finds the state that the one before it has left, whether that one could be
lowered or not.

## Main definitions

* `LoweredMethod` — a shader method with its captures.
* `LoweringContext.lower`, `LoweringContext.lowerAll` — one method and several.
* `LoweringContext.journal` — what happens meanwhile.
* `LoweringContext.lowerFragment`, `LoweringContext.session` — one fragment from
  a given state, and the state after several.
-/

namespace ShaderLowering

/-- A lowered method and the static members it reads. -/
structure LoweredMethod where
  method : Method
  captures : Captures

/-- The source text of a lowered method. -/
def LoweredMethod.source (m : LoweredMethod) : String :=
  m.method.source

namespace LoweringContext

/-- The context with the default capture prefix. -/
def standard (resolver : Resolver) (types : TypeMap) : LoweringContext :=
  ⟨resolver, types, defaultCapturePrefix⟩

/-- The walk over a method from a given state: what comes out, and the state
afterwards. -/
def lowerFrom (cx : LoweringContext) (s : LoweringState) (m : Method) :
    Except LoweringError Method × LoweringState :=
  (m.visit cx.rules).run.run s

/-- Lowers a method. -/
def lower (cx : LoweringContext) (m : Method) : Except LoweringError LoweredMethod :=
  match cx.lowerFrom .initial m with
  | (.ok lowered, s) => .ok ⟨lowered, s.captures⟩
  | (.error e, _) => .error e

/-- The events of lowering a method, with how it ends. -/
def journal (cx : LoweringContext) (m : Method) : List Event :=
  match cx.lowerFrom .initial m with
  | (.ok _, s) => s.journal ++ [.finished m.name s.captures.size]
  | (.error e, s) => s.journal ++ [.failed m.name e]

/-- Lowers several methods, each on its own. -/
def lowerAll (cx : LoweringContext) (methods : List Method) :
    List (Except LoweringError LoweredMethod) :=
  methods.map cx.lower

/-! ## Sessions -/

/-- Lowers a fragment from a given state: what comes out, and the state afterwards. -/
def lowerFragment (cx : LoweringContext) (s : LoweringState) (f : Fragment) :
    Except LoweringError Fragment × LoweringState :=
  (f.visit cx.rules).run.run s

/-- The state after lowering several fragments, one after the other. -/
def session (cx : LoweringContext) (s : LoweringState) (fragments : List Fragment) :
    LoweringState :=
  fragments.foldl (fun s f => (cx.lowerFragment s f).2) s

end LoweringContext

end ShaderLowering
