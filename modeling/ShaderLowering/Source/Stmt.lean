import ShaderLowering.Source.Expr
import ShaderLowering.Text.Blank

/-!
# Source text of statements and methods

A statement is written as lines, each with a depth: the number of blocks around
it inside the statement or method that is printed.  A line is indented by four
spaces for each block, braces stand on lines of their own, and the blanks at the
end of the whole text are dropped.

## Main definitions

* `Line` — a depth and a text.
* `Stmt.lines`, `Method.lines` — the lines of a statement and of a method.
* `Stmt.source`, `Method.source` — their texts.
-/

namespace ShaderLowering

/-! ## Lines -/

/-- One line of source text. -/
structure Line where
  depth : Nat
  text : String
deriving DecidableEq, Repr

/-- A line with its indentation and its line break. -/
def Line.source (l : Line) : String :=
  String.ofList (List.replicate (4 * l.depth) ' ') ++ l.text ++ "\n"

/-- The text of several lines, without the blanks at its end. -/
def Line.joined (lines : List Line) : String :=
  Text.trimEnd (String.join (lines.map Line.source))

/-! ## Pieces of a line -/

/-- The text of a declarator. -/
def Declarator.source (d : Declarator) : String :=
  match d.init with
  | some init => d.name ++ " = " ++ init.source
  | none => d.name

/-- The text of a local declaration, without the semicolon. -/
def Declaration.source (d : Declaration) : String :=
  (match d.type with | some type => type.name | none => "var") ++ " "
    ++ commaSeparated (d.declarators.map Declarator.source)

/-- The text of an optional expression: empty when there is none. -/
def optionalSource : Option Expr → String
  | some e => e.source
  | none => ""

/-- The text of an attribute in brackets.  Empty parentheses are left out. -/
def Attribute.source (a : Attribute) : String :=
  match a.arguments with
  | [] => "[" ++ a.name ++ "]"
  | arguments => "[" ++ a.name ++ "(" ++ Expr.listSource arguments ++ ")]"

/-- The text of several attributes, one behind the other. -/
def Attribute.sources (attributes : List Attribute) : String :=
  String.join (attributes.map Attribute.source)

/-- The text of a parameter. -/
def Parameter.source (p : Parameter) : String :=
  (match p.attributes with | [] => "" | attributes => Attribute.sources attributes ++ " ")
    ++ (match p.passing.keyword? with | none => "" | some word => word ++ " ")
    ++ p.type.name ++ " " ++ p.name

/-! ## Statements -/

/-- The text of a statement as the first part of a `for` header, where the
semicolon is the header's own.  Declarations and expressions fit on the header's
line; any other statement is written with the lines it has at depth zero. -/
def Stmt.headerSource (s : Stmt) (lines : List Line) : String :=
  match s with
  | .declare declaration => declaration.source
  | .expr value => value.source
  | _ => Text.trimSemicolons (Line.joined lines)

mutual

/-- The lines of a statement at a depth. -/
def Stmt.lines (depth : Nat) : Stmt → List Line
  | .declare declaration => [⟨depth, declaration.source ++ ";"⟩]
  | .expr value => [⟨depth, value.source ++ ";"⟩]
  | .ret none => [⟨depth, "return;"⟩]
  | .ret (some value) => [⟨depth, "return " ++ value.source ++ ";"⟩]
  | .branch cond onTrue none =>
    ⟨depth, "if (" ++ cond.source ++ ")"⟩ :: ⟨depth, "\x7b"⟩ :: Stmt.linesOfAll (depth + 1) onTrue
      ++ [⟨depth, "\x7d"⟩]
  | .branch cond onTrue (some onFalse) =>
    ⟨depth, "if (" ++ cond.source ++ ")"⟩ :: ⟨depth, "\x7b"⟩ :: Stmt.linesOfAll (depth + 1) onTrue
      ++ ⟨depth, "\x7d"⟩ :: ⟨depth, "else"⟩ :: ⟨depth, "\x7b"⟩
        :: Stmt.linesOfAll (depth + 1) onFalse ++ [⟨depth, "\x7d"⟩]
  | .forLoop none cond step body =>
    ⟨depth, "for (; " ++ optionalSource cond ++ "; " ++ Expr.listSource step ++ ")"⟩
      :: ⟨depth, "\x7b"⟩ :: Stmt.linesOfAll (depth + 1) body ++ [⟨depth, "\x7d"⟩]
  | .forLoop (some init) cond step body =>
    ⟨depth, "for (" ++ init.headerSource (Stmt.lines 0 init) ++ "; " ++ optionalSource cond ++ "; "
        ++ Expr.listSource step ++ ")"⟩
      :: ⟨depth, "\x7b"⟩ :: Stmt.linesOfAll (depth + 1) body ++ [⟨depth, "\x7d"⟩]
  | .whileLoop cond body =>
    ⟨depth, "while (" ++ cond.source ++ ")"⟩ :: ⟨depth, "\x7b"⟩
      :: Stmt.linesOfAll (depth + 1) body ++ [⟨depth, "\x7d"⟩]
  | .foreachLoop type name collection body =>
    ⟨depth, "foreach (" ++ type.name ++ " " ++ name ++ " in " ++ collection.source ++ ")"⟩
      :: ⟨depth, "\x7b"⟩ :: Stmt.linesOfAll (depth + 1) body ++ [⟨depth, "\x7d"⟩]
  | .block body => ⟨depth, "\x7b"⟩ :: Stmt.linesOfAll (depth + 1) body ++ [⟨depth, "\x7d"⟩]
  | .breakLoop => [⟨depth, "break;"⟩]
  | .continueLoop => [⟨depth, "continue;"⟩]
termination_by structural s => s

/-- The lines of several statements at one depth. -/
def Stmt.linesOfAll (depth : Nat) : List Stmt → List Line
  | [] => []
  | s :: rest => Stmt.lines depth s ++ Stmt.linesOfAll depth rest
termination_by structural stmts => stmts

end

/-- The text of a statement. -/
def Stmt.source (s : Stmt) : String :=
  Line.joined (s.lines 0)

/-! ## Methods -/

/-- The first line of a method behind its attributes. -/
def Method.signature (m : Method) : String :=
  m.returnType.name ++ " " ++ m.name ++ "("
    ++ commaSeparated (m.parameters.map Parameter.source) ++ ")"

/-- The lines of a method. -/
def Method.lines (m : Method) : List Line :=
  (match m.attributes with | [] => [] | attributes => [⟨0, Attribute.sources attributes⟩])
    ++ ⟨0, m.signature⟩ :: (Stmt.block m.body).lines 0

/-- The text of a method. -/
def Method.source (m : Method) : String :=
  Line.joined m.lines

end ShaderLowering
