import ShaderLowering.Tree.Traversal

/-!
# Fragments

A part of a method that can be visited on its own, and the method itself.

## Main definitions

* `Fragment`, `Fragment.visit` — a part of any kind, and the walk over it.
-/

namespace ShaderLowering

/-- A part of a method, or a whole one. -/
inductive Fragment where
  | method (m : Method)
  | parameter (p : Parameter)
  | block (b : Block)
  | declaration (d : Declaration)
  | stmt (s : Stmt)
  | expr (e : Expr)
deriving Repr, Inhabited

/-- Walks a fragment. -/
def Fragment.visit {m : Type → Type} [Monad m] (v : Visitor m) : Fragment → m Fragment
  | method x => .method <$> x.visit v
  | parameter x => .parameter <$> x.visit v
  | block x => .block <$> Block.visit v x
  | declaration x => .declaration <$> x.visit v
  | stmt x => .stmt <$> x.visit v
  | expr x => .expr <$> x.visit v

end ShaderLowering
