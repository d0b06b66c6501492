import ShaderLowering.Tree.Basic

/-!
# Static members

A static member of a host type, whose value a shader may read, and the
identifier that stands for it in shader code.

## Main definitions

* `Member`, `Member.qualified` — a member and its dotted name.
* `identifierOf` — a text with everything but identifier characters replaced.
* `Member.captureName` — the identifier of a captured member.
-/

namespace ShaderLowering

/-- How a member is declared on the host side. -/
inductive MemberKind where
  | field | property | constant
deriving DecidableEq, Repr, Inhabited

/-- A static member of a host type. -/
structure Member where
  owner : String
  name : String
  type : TypeName
  kind : MemberKind
deriving DecidableEq, Repr, Inhabited

namespace Member

/-- The name of a member behind the name of its type. -/
def qualified (m : Member) : String :=
  m.owner ++ "." ++ m.name

end Member

/-- Whether a character may stand in an identifier. -/
def isIdentifierChar (c : Char) : Bool :=
  c.isAlphanum || c == '_'

/-- A text in which an underscore replaces every character that may not stand in
an identifier. -/
def identifierOf (text : String) : String :=
  String.ofList (text.toList.map fun c => if isIdentifierChar c then c else '_')

/-- The prefix of capture names where nothing else is configured. -/
def defaultCapturePrefix : String := "__"

/-- The identifier that stands for a captured member. -/
def Member.captureName (capturePrefix : String) (m : Member) : String :=
  capturePrefix ++ identifierOf m.owner ++ "__" ++ identifierOf m.name

end ShaderLowering
