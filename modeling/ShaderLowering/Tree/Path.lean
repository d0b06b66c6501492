import ShaderLowering.Tree.Basic

/-!
# Dotted paths

A chain of member accesses that ends in an identifier is written as a dotted
path.  `Expr.ofPath` cuts a path at its dots and builds the chain;
`Expr.path?` reads a chain back.  Segments may be empty, so every string is a
path.

## Main definitions

* `Path.segments` — the first segment and the others.
* `Path.root` — the first segment.
* `Expr.ofPath`, `Expr.path?` — from a path to a chain and back.
-/

namespace ShaderLowering

namespace Path

/-- The segments of a path: the first one, and those behind a dot. -/
def segments : List Char → List Char × List (List Char)
  | [] => ([], [])
  | c :: cs =>
    let (first, others) := segments cs
    if c = '.' then ([], first :: others) else (c :: first, others)

/-- The first segment of a path. -/
def root (path : String) : String :=
  String.ofList (segments path.toList).1

/-- A path followed by one more segment. -/
def extend (path : String) (segment : String) : String :=
  path ++ "." ++ segment

end Path

namespace Expr

/-- The chain of member accesses that a path names, without positions. -/
def ofPath (path : String) : Expr :=
  let (first, others) := Path.segments path.toList
  others.foldl (fun e segment => .member e (String.ofList segment) .unknown)
    (.ident (String.ofList first))

/-- The dotted path of a chain of member accesses that ends in an identifier. -/
def path? : Expr → Option String
  | .ident name => some name
  | .member target name _ => target.path?.map (Path.extend · name)
  | _ => none

end Expr

/-- The dotted path of what an access reads from. -/
def Access.targetPath? (a : Access) : Option String :=
  a.target.path?

end ShaderLowering
