import ShaderLowering.Proofs.Source.Grammar
import ShaderLowering.Proofs.Tree.Core

/-!
# Formulas are read back

A formula consists of identifiers and integers without a sign, with parentheses,
binary operators, accesses, indices and calls.  Its text is read back by the grammar
of C: the parentheses that the text leaves out are those that the grammar supplies.

A number in the target of an access is no formula: its text runs together with the
dot.

## Main definitions

* `Expr.isFormula` — the trees that are formulas.
* `Writes` — a text has the tokens of a tree.

## Main statements

* `read_source` — the text of a formula is read as the formula.
-/

namespace ShaderLowering

/-! ## Formulas -/

/-- Whether an expression is a literal. -/
def Expr.isLiteral : Expr → Bool
  | .literal _ => true
  | _ => false

mutual

/-- Whether an expression consists of identifiers and integers without a sign, with
parentheses, binary operators, accesses, indices and calls. -/
def Expr.isFormula : Expr → Bool
  | .literal value => Formula.isNatural value
  | .ident name => Formula.isIdentifier name
  | .member target name _ =>
    !target.isLiteral && target.isFormula && Formula.isIdentifier name
  | .call callee args => callee.isFormula && Expr.allFormulas args
  | .index target position => target.isFormula && position.isFormula
  | .binary _ lhs rhs => lhs.isFormula && rhs.isFormula
  | .paren inner => inner.isFormula
  | _ => false
termination_by structural e => e

/-- Whether several expressions do. -/
def Expr.allFormulas : List Expr → Bool
  | [] => true
  | e :: es => e.isFormula && Expr.allFormulas es
termination_by structural es => es

end

namespace Formula

/-! ## Texts with the tokens of a tree -/

/-- What stands in front of a text ends there: the text lengthens no word, and unless
`dot` says so it begins with no dot. -/
def Ends (dot : Bool) (rest : List Char) : Prop :=
  ∀ c ∈ rest.head?, isWordChar c = false ∧ (c = '.' → dot = true)

theorem Ends.nil (dot : Bool) : Ends dot [] := by
  intro c hc
  cases hc

theorem Ends.cons {dot : Bool} {c : Char} (hc : isWordChar c = false) (hd : c = '.' → dot = true)
    (rest : List Char) : Ends dot (c :: rest) := by
  intro d hd'
  cases hd'
  exact ⟨hc, hd⟩

/-- A text has the tokens of an expression of a level; `dot` says whether the dot of an
access can stand behind it. -/
def Writes (text : List Char) (k : Nat) (dot : Bool) (e : Expr) : Prop :=
  ∃ ts, Derives k ts e ∧ ∀ rest, Ends dot rest → Lexes text ts rest

/-- A text has the tokens of one or more expressions. -/
def Lists (text : List Char) (es : List Expr) : Prop :=
  ∃ ts, Several ts es ∧ ∀ rest, Ends false rest → Lexes text ts rest

namespace Writes

variable {text more : List Char} {k : Nat} {dot : Bool} {e : Expr}

theorem mono (h : Writes text k dot e) {j : Nat} (hjk : j ≤ k) : Writes text j dot e := by
  obtain ⟨ts, hd, hl⟩ := h
  exact ⟨ts, hd.mono hjk, hl⟩

/-- A text can stand where no dot follows. -/
theorem undotted (h : Writes text k dot e) : Writes text k false e := by
  obtain ⟨ts, hd, hl⟩ := h
  refine ⟨ts, hd, fun rest ends => hl rest fun c hc => ⟨(ends c hc).1, fun hdot => ?_⟩⟩
  cases (ends c hc).2 hdot

theorem natural {value : Literal} (h : isNatural value = true) :
    Writes value.source.toList primary false (.literal value) := by
  refine ⟨_, .number value, fun rest ends => .natural h fun c hc => ⟨(ends c hc).1, ?_⟩⟩
  intro hdot
  cases (ends c hc).2 hdot

theorem name {x : String} (h : isIdentifier x = true) : Writes x.toList primary dot (.ident x) :=
  ⟨_, .name x, fun _ ends => .name h fun c hc => (ends c hc).1⟩

/-- A closing bracket ends every text. -/
theorem group (h : Writes text 0 false e) :
    Writes ('(' :: (text ++ [')'])) primary dot e := by
  obtain ⟨ts, hd, hl⟩ := h
  refine ⟨_, .group hd, fun rest _ => ?_⟩
  exact .enclosed rfl rfl (hl _ (.cons rfl (by decide) rest))

theorem member (h : Writes text primary true e) {x : String} (hx : isIdentifier x = true) :
    Writes (text ++ '.' :: x.toList) primary dot (.access e x) := by
  obtain ⟨ts, hd, hl⟩ := h
  refine ⟨_, .member x hd, fun rest ends => ?_⟩
  have target : Lexes text ts ('.' :: x.toList ++ rest) := hl _ (.cons rfl (fun _ => rfl) _)
  have named : Lexes x.toList [.name x] rest := .name hx fun c hc => (ends c hc).1
  exact target.append ((Lexes.punctuation rfl _).append named)

theorem index (h : Writes text primary dot e) {position : Expr}
    (h' : Writes more 0 false position) :
    Writes (text ++ '[' :: (more ++ [']'])) primary true (.index e position) := by
  obtain ⟨ts, hd, hl⟩ := h.undotted
  obtain ⟨us, hd', hl'⟩ := h'
  refine ⟨_, .index hd hd', fun rest _ => ?_⟩
  have target : Lexes text ts ('[' :: (more ++ [']']) ++ rest) := hl _ (.cons rfl (by decide) _)
  exact target.append (.enclosed rfl rfl (hl' _ (.cons rfl (by decide) rest)))

theorem callNone (h : Writes text primary dot e) :
    Writes (text ++ ['(', ')']) primary true (.call e []) := by
  obtain ⟨ts, hd, hl⟩ := h.undotted
  refine ⟨_, .callNone hd, fun rest _ => ?_⟩
  have callee : Lexes text ts (['(', ')'] ++ rest) := hl _ (.cons rfl (by decide) _)
  exact callee.append ((Lexes.punctuation rfl _).append (.punctuation rfl rest))

theorem call (h : Writes text primary dot e) {args : List Expr} (h' : Lists more args) :
    Writes (text ++ '(' :: (more ++ [')'])) primary true (.call e args) := by
  obtain ⟨ts, hd, hl⟩ := h.undotted
  obtain ⟨us, hd', hl'⟩ := h'
  refine ⟨_, .call hd hd', fun rest _ => ?_⟩
  have callee : Lexes text ts ('(' :: (more ++ [')']) ++ rest) := hl _ (.cons rfl (by decide) _)
  exact callee.append (.enclosed rfl rfl (hl' _ (.cons rfl (by decide) rest)))

theorem binary {op : Binary} {rhs : Expr} (h : Writes text op.precedence dot e)
    (h' : Writes more (op.precedence + 1) false rhs) :
    Writes (text ++ ' ' :: (op.symbol.toList ++ [' ']) ++ more) op.precedence false
      (.binary op e rhs) := by
  obtain ⟨ts, hd, hl⟩ := h.undotted
  obtain ⟨us, hd', hl'⟩ := h'
  refine ⟨_, .binary op hd hd', fun rest ends => ?_⟩
  have left : Lexes text ts (' ' :: (op.symbol.toList ++ [' ']) ++ (more ++ rest)) :=
    hl _ (.cons rfl (by decide) _)
  simpa using (left.append (.operator op _)).append (hl' rest ends)

end Writes

theorem Lists.one {text : List Char} {dot : Bool} {e : Expr} (h : Writes text 0 dot e) :
    Lists text [e] := by
  obtain ⟨ts, hd, hl⟩ := h.undotted
  exact ⟨ts, .one hd, hl⟩

theorem Lists.more {text more : List Char} {dot : Bool} {es : List Expr} {e : Expr}
    (h : Lists text es) (h' : Writes more 0 dot e) :
    Lists (text ++ ',' :: ' ' :: more) (es ++ [e]) := by
  obtain ⟨ts, hd, hl⟩ := h
  obtain ⟨us, hd', hl'⟩ := h'.undotted
  refine ⟨_, .more hd hd', fun rest ends => ?_⟩
  have front : Lexes text ts (',' :: ' ' :: more ++ rest) := hl _ (.cons rfl (by decide) _)
  exact front.append ((Lexes.punctuation rfl _).append ((Lexes.blank _).append (hl' rest ends)))

/-! ## The text of a formula -/

/-- The level of an expression that stands without parentheses. -/
def level : Expr → Nat
  | .binary op .. => op.precedence
  | _ => primary

/-- Whether the dot of an access can stand behind the text of an expression. -/
def takesDot : Expr → Bool
  | .literal _ | .binary .. => false
  | _ => true

/-- The text of an expression has the tokens of the expression. -/
def IsRead (e : Expr) : Prop :=
  Writes e.source.toList (level e) (takesDot e) e.core

/-- The text of an argument that is not the first one. -/
def behindComma (e : Expr) : List Char :=
  ',' :: ' ' :: e.source.toList

theorem toList_commaSeparated (e : Expr) (es : List Expr) :
    (commaSeparated (Expr.sources (e :: es))).toList
      = e.source.toList ++ es.flatMap behindComma := by
  induction es generalizing e with
  | nil => simp [commaSeparated, Expr.sources]
  | cons e' es ih =>
    rw [commaSeparated, Expr.sources, Expr.sources, String.intercalate_cons_cons]
    have others := ih e'
    rw [commaSeparated, Expr.sources] at others
    simp [others, behindComma]

theorem toList_parenthesized (text : String) :
    (parenthesizedIf true text).toList = '(' :: (text.toList ++ [')']) := by
  simp [parenthesizedIf]

namespace IsRead

variable {e : Expr}

theorem whole (h : IsRead e) : Writes e.source.toList 0 false e.core :=
  (Writes.mono h (Nat.zero_le _)).undotted

/-- The target of an access, an index or a call is a primary. -/
theorem operand (h : IsRead e) :
    Writes (parenthesizedIf e.needsParens e.source).toList primary (!e.isLiteral) e.core := by
  cases hp : e.needsParens with
  | true =>
    rw [toList_parenthesized]
    exact h.whole.group
  | false =>
    cases e with
    | binary | assign | conditional | lambda => cases hp
    | _ => exact h

/-- A child of an operator is of the level that the operator asks for on its side. -/
theorem child (h : IsRead e) (op : Binary) (right : Bool) :
    Writes (parenthesizedIf (e.needsParensUnder op right) e.source).toList
      (op.precedence + right.toNat) false e.core := by
  have below : op.precedence + right.toNat ≤ primary := by
    have := precedence_lt_primary op
    have := right.toNat_le
    omega
  cases hp : e.needsParensUnder op right with
  | true =>
    rw [toList_parenthesized]
    exact h.whole.group.mono below
  | false =>
    refine (Writes.mono h ?_).undotted
    cases e with
    | binary inner lhs rhs =>
      rw [Expr.needsParensUnder] at hp
      rw [level]
      cases right <;> simp at hp ⊢ <;> omega
    | _ => exact below

/-- Arguments are read one after another. -/
theorem arguments : ∀ {es : List Expr} {text : List Char} {front : List Expr}, Lists text front →
    (∀ e ∈ es, IsRead e) → Lists (text ++ es.flatMap behindComma) (front ++ Expr.cores es) := by
  intro es
  induction es with
  | nil =>
    intro text front h _
    simpa [Expr.cores] using h
  | cons e es ih =>
    intro text front h read
    rw [List.forall_mem_cons] at read
    simpa [Expr.cores, behindComma] using ih (h.more read.1.whole) read.2

end IsRead

mutual

/-- The text of a formula has the tokens of the formula. -/
theorem isRead : ∀ e : Expr, e.isFormula = true → IsRead e
  | .literal _, h => .natural h
  | .ident _, h => .name h
  | .member target name _, h => by
    rw [Expr.isFormula, Bool.and_eq_true, Bool.and_eq_true] at h
    have read := (isRead target h.1.2).operand
    rw [h.1.1] at read
    simpa [IsRead, Expr.source, level, takesDot, Expr.core] using read.member h.2
  | .call callee args, h => by
    rw [Expr.isFormula, Bool.and_eq_true] at h
    have operand := (isRead callee h.1).operand
    have read := allRead args h.2
    cases args with
    | nil => simpa [IsRead, Expr.source, Expr.sources, commaSeparated, level, takesDot, Expr.core,
        Expr.cores] using operand.callNone
    | cons e es =>
      rw [List.forall_mem_cons] at read
      have listed := IsRead.arguments (.one read.1.whole) read.2
      simpa [IsRead, Expr.source, level, takesDot, Expr.core, Expr.cores,
        toList_commaSeparated] using operand.call listed
  | .index target position, h => by
    rw [Expr.isFormula, Bool.and_eq_true] at h
    have read := (isRead target h.1).operand.index (isRead position h.2).whole
    simpa [IsRead, Expr.source, level, takesDot, Expr.core] using read
  | .binary op lhs rhs, h => by
    rw [Expr.isFormula, Bool.and_eq_true] at h
    have read := ((isRead lhs h.1).child op false).binary ((isRead rhs h.2).child op true)
    simpa [IsRead, Expr.source, level, takesDot, Expr.core] using read
  | .paren inner, h => by
    rw [Expr.isFormula] at h
    have read : Writes _ primary true inner.core := (isRead inner h).whole.group
    simpa [IsRead, Expr.source, level, takesDot, Expr.core] using read
termination_by structural e => e

theorem allRead : ∀ es : List Expr, Expr.allFormulas es = true → ∀ e ∈ es, IsRead e
  | [], _ => by simp
  | e :: es, h => by
    rw [Expr.allFormulas, Bool.and_eq_true] at h
    rw [List.forall_mem_cons]
    exact ⟨isRead e h.1, allRead es h.2⟩
termination_by structural es => es

end

/-- **The text of a formula is read as the formula.**  The parser gives its core, which
has neither parentheses nor positions, and the grammar gives it no other tree. -/
theorem read_source {e : Expr} (h : e.isFormula = true) :
    read e.source = some e.core ∧ ∀ t, Reads e.source t ↔ t = e.core := by
  have given : read e.source = some e.core := by
    obtain ⟨ts, hd, hl⟩ := (isRead e h).whole
    have tokens : lex e.source.toList = some ts := by
      simpa [Lexes, lex, lexFrom, flush] using hl [] (.nil false)
    exact read_eq_some_iff.2 ⟨ts, tokens, hd⟩
  refine ⟨given, fun t => ?_⟩
  rw [← read_eq_some_iff, given, Option.some_inj, eq_comm]

/-- Operators of all kinds of grouping, with arguments, an index and an access inside. -/
def grouped : Expr :=
  .binary .and
    (.binary .or (.ident "a")
      (.call (.ident "f")
        [.binary .sub (.ident "b") (.binary .sub (.ident "c") (.int 1)), .literal (.uint 2)]))
    (.binary .lt (.access (.index (.ident "v") (.binary .shl (.ident "i") (.int 1))) "x")
      (.paren (.int 10)))

theorem read_source_grouped :
    grouped.isFormula = true ∧
      grouped.source = "(a || f(b - (c - 1), 2u)) && v[i << 1].x < (10)" ∧
      read "(a || f(b - (c - 1), 2u)) && v[i << 1].x < (10)" = some grouped.core := by
  have formula : grouped.isFormula = true := by decide
  have written : grouped.source = "(a || f(b - (c - 1), 2u)) && v[i << 1].x < (10)" := by rfl
  exact ⟨formula, written, written ▸ (read_source formula).1⟩

/-- A number in the target of an access runs together with the dot. -/
example : lex (Expr.access (.int 1) "x").source.toList = none := by
  decide

end Formula

end ShaderLowering
