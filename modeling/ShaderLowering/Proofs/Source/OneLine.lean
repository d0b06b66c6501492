import ShaderLowering.Proofs.Source.Regrouping
import ShaderLowering.Source.Stmt

/-!
# Texts on one line

The text of an expression stands on one line when none of its names has a line break.
Literals bring no line breaks with them: numbers are written with digits, a sign, a point
and an exponent, and the line breaks of a quoted string are escaped.  A statement stands
on several lines, but what is written on each of them is made of names and expressions.

## Main definitions

* `isOneLine` — a text without line breaks.
* `Expr.fitsLine`, `Declaration.fitsLine` — no name in an expression or a declaration has
  a line break.
* `Stmt.fitsLines` — no name in a statement has one, and `for` headers begin with a
  declaration or an expression.

## Main statements

* `Literal.isOneLine_source` — every literal is written on one line.
* `Expr.isOneLine_source`, `Declaration.isOneLine_source` — so are expressions and
  declarations, when they fit.
-/

namespace ShaderLowering

/-! ## Line breaks -/

/-- Whether a text has no line break. -/
def isOneLine (text : String) : Bool :=
  isFreeOf ['\n'] text

theorem isOneLine_iff {text : String} : isOneLine text = true ↔ '\n' ∉ text.toList := by
  rw [isOneLine, isFreeOf, List.all_eq_true]
  refine ⟨fun h mem => by simpa using h _ mem, fun h c mem => ?_⟩
  have other : c ≠ '\n' := fun same => h (same ▸ mem)
  simpa using other

@[simp] theorem isOneLine_append {text more : String} :
    isOneLine (text ++ more) = true ↔ isOneLine text = true ∧ isOneLine more = true := by
  simp [isOneLine_iff]

@[simp] theorem isOneLine_parenthesizedIf {parens : Bool} {text : String} :
    isOneLine (parenthesizedIf parens text) = true ↔ isOneLine text = true := by
  cases parens <;> simp [parenthesizedIf, isOneLine_iff]

/-- Commas bring no line breaks with them. -/
theorem isOneLine_commaSeparated {texts : List String}
    (h : ∀ text ∈ texts, isOneLine text = true) : isOneLine (commaSeparated texts) = true := by
  induction texts with
  | nil => rfl
  | cons text texts ih =>
    rw [List.forall_mem_cons] at h
    cases texts with
    | nil => simpa [commaSeparated] using h.1
    | cons next texts =>
      rw [commaSeparated, String.intercalate_cons_cons, isOneLine_append, isOneLine_append]
      exact ⟨⟨h.1, rfl⟩, ih h.2⟩

/-! ## Literals -/

theorem isOneLine_ofList {cs : List Char} : isOneLine (String.ofList cs) = true ↔ '\n' ∉ cs := by
  rw [isOneLine_iff, String.toList_ofList]

theorem notMem_of_isDigit {cs : List Char} (h : ∀ c ∈ cs, c.isDigit = true) : '\n' ∉ cs := by
  intro mem
  cases h _ mem

theorem isOneLine_natToString (n : Nat) : isOneLine (toString n) = true := by
  rw [Nat.toString_eq_ofList_toDigits, isOneLine_ofList]
  exact notMem_of_isDigit fun _ => Nat.isDigit_of_mem_toDigits (by decide) (by decide)

theorem isOneLine_intToString (n : Int) : isOneLine (toString n) = true := by
  cases n with
  | ofNat n => exact isOneLine_natToString n
  | negSucc n =>
    have written : toString (Int.negSucc n) = "-" ++ toString (n + 1) := rfl
    rw [written, isOneLine_append]
    exact ⟨rfl, isOneLine_natToString (n + 1)⟩

theorem notMem_toDigits_hex (n : Nat) : '\n' ∉ Nat.toDigits 16 n := by
  induction n using Nat.strongRecOn with
  | ind n ih =>
    have digit (d : Nat) (h : d < 16) : '\n' ≠ d.digitChar := by
      revert d
      decide
    rw [Nat.toDigits_eq_if (by decide)]
    split
    · simp [digit n ‹_›]
    · rw [List.mem_append, List.mem_singleton, not_or]
      exact ⟨ih _ (Nat.div_lt_self (by omega) (by decide)), digit _ (Nat.mod_lt _ (by decide))⟩

/-- A quoted string has its line breaks escaped. -/
theorem Text.isOneLine_quote (text : String) : isOneLine (quote text) = true := by
  have escaped (c : Char) : '\n' ∉ escape c := by
    by_cases lineBreak : '\n' = c
    · subst lineBreak
      decide
    · unfold escape
      repeat' split
      any_goals decide
      · simp [codePointEscape, notMem_toDigits_hex]
      · simpa using lineBreak
  rw [quote, isOneLine_ofList]
  simp [escaped]

namespace Decimal

theorem isDigit_of_mem_significantDigits {n : Nat} {c : Char}
    (h : c ∈ significantDigits n) : c.isDigit = true := by
  have digits : ∀ c ∈ Nat.toDigits 10 n, c.isDigit = true := fun _ =>
    Nat.isDigit_of_mem_toDigits (by decide) (by decide)
  unfold significantDigits at h
  cases toDigits : Nat.toDigits 10 n with
  | nil => simp [toDigits] at h
  | cons d ds =>
    rw [toDigits] at h digits
    rcases List.mem_cons.1 h with rfl | mem
    · exact digits _ List.mem_cons_self
    · rw [List.mem_reverse] at mem
      have mem := (List.dropWhile_sublist _).mem mem
      exact digits _ (List.mem_cons_of_mem _ (List.mem_reverse.1 mem))

theorem isOneLine_ofDigits {cs : List Char} (h : ∀ c ∈ cs, c.isDigit = true) :
    isOneLine (String.ofList cs) = true :=
  isOneLine_ofList.2 (notMem_of_isDigit h)

theorem isDigit_of_mem_zeros {n : Nat} {c : Char} (h : c ∈ List.replicate n '0') :
    c.isDigit = true := by
  rw [List.eq_of_mem_replicate h]
  rfl

/-- Digits with a point stay on the line. -/
theorem isOneLine_positional {digits : List Char} (h : ∀ c ∈ digits, c.isDigit = true)
    (whole : Nat) : isOneLine (literal.positional digits whole) = true := by
  have front : ∀ c ∈ digits.take whole ++ List.replicate (whole - digits.length) '0',
      c.isDigit = true :=
    List.forall_mem_append.2
      ⟨fun c mem => h c (List.mem_of_mem_take mem), fun _ => isDigit_of_mem_zeros⟩
  unfold Style.positional
  rw [isOneLine_append, isOneLine_append]
  refine ⟨⟨isOneLine_ofDigits front, rfl⟩, ?_⟩
  split
  · rfl
  · exact isOneLine_ofDigits fun c mem => h c (List.mem_of_mem_drop mem)

/-- Digits with an exponent stay on the line. -/
theorem isOneLine_scientific {digits : List Char} (h : ∀ c ∈ digits, c.isDigit = true)
    (exponent : Int) : isOneLine (literal.scientific digits exponent) = true := by
  unfold Style.scientific
  rw [isOneLine_append, isOneLine_append, isOneLine_append]
  refine ⟨⟨⟨isOneLine_ofDigits fun c mem => h c (List.mem_of_mem_take mem), ?_⟩, rfl⟩,
    isOneLine_intToString exponent⟩
  split
  · rfl
  · rw [isOneLine_append]
    exact ⟨rfl, isOneLine_ofDigits fun c mem => h c (List.mem_of_mem_drop mem)⟩

theorem isOneLine_magnitude (x : Scaled) : isOneLine (literal.magnitude x) = true := by
  have digits : ∀ c ∈ significantDigits x.coefficient, c.isDigit = true := fun _ =>
    isDigit_of_mem_significantDigits
  have padded (n : Nat) : ∀ c ∈ '0' :: List.replicate n '0' ++ significantDigits x.coefficient,
      c.isDigit = true := by
    rw [← List.replicate_succ, List.forall_mem_append]
    exact ⟨fun _ => isDigit_of_mem_zeros, digits⟩
  simp only [Style.magnitude]
  split
  · exact isOneLine_positional (List.forall_mem_singleton.2 rfl) 1
  · split
    · exact isOneLine_scientific digits _
    · split
      · exact isOneLine_positional (padded _) 1
      · exact isOneLine_positional digits _

theorem isOneLine_written (x : Decoded) : isOneLine (literal.written x) = true := by
  have sign (negative : Bool) : isOneLine (if negative then "-" else "") = true := by
    cases negative <;> rfl
  cases x with
  | nan => rfl
  | infinite negative => exact isOneLine_append.2 ⟨sign negative, rfl⟩
  | finite negative x => exact isOneLine_append.2 ⟨sign negative, isOneLine_magnitude _⟩

end Decimal

theorem Literal.isOneLine_source (value : Literal) : isOneLine value.source = true := by
  cases value with
  | bool value => cases value <;> rfl
  | int value => exact isOneLine_intToString _
  | uint value => exact isOneLine_append.2 ⟨isOneLine_natToString _, rfl⟩
  | float bits => exact isOneLine_append.2 ⟨Decimal.isOneLine_written _, rfl⟩
  | double bits => exact isOneLine_append.2 ⟨Decimal.isOneLine_written _, rfl⟩
  | string text => exact Text.isOneLine_quote text
  | null => rfl

theorem Unary.isOneLine_symbol (op : Unary) : isOneLine op.symbol = true := by
  cases op <;> rfl

theorem Binary.isOneLine_symbol (op : Binary) : isOneLine op.symbol = true := by
  cases op <;> rfl

/-! ## Expressions -/

mutual

/-- Whether no name in an expression has a line break. -/
def Expr.fitsLine : Expr → Bool
  | .literal _ => true
  | .ident name => isOneLine name
  | .member target name _ => target.fitsLine && isOneLine name
  | .call callee args => callee.fitsLine && Expr.allFitLine args
  | .index target position => target.fitsLine && position.fitsLine
  | .cast type operand => isOneLine type.name && operand.fitsLine
  | .creation type args => isOneLine type.name && Expr.allFitLine args
  | .creationWith type args fields =>
    isOneLine type.name && (Expr.allFitLine args && Expr.fieldsFitLine fields)
  | .defaultOf type => isOneLine type.name
  | .unary _ operand => operand.fitsLine
  | .binary _ lhs rhs => lhs.fitsLine && rhs.fitsLine
  | .assign _ target value => target.fitsLine && value.fitsLine
  | .conditional cond onTrue onFalse =>
    cond.fitsLine && (onTrue.fitsLine && onFalse.fitsLine)
  | .paren inner => inner.fitsLine
  | .lambda params body => params.all isOneLine && body.fitsLine
termination_by structural e => e

/-- Whether this holds of several expressions. -/
def Expr.allFitLine : List Expr → Bool
  | [] => true
  | e :: es => e.fitsLine && Expr.allFitLine es
termination_by structural es => es

/-- Whether this holds of the fields of an object initialiser. -/
def Expr.fieldsFitLine : List (String × Expr) → Bool
  | [] => true
  | (name, value) :: fields => isOneLine name && (value.fitsLine && Expr.fieldsFitLine fields)
termination_by structural fields => fields

end

mutual

/-- An expression is written on one line when its names are. -/
theorem Expr.isOneLine_source : ∀ {e : Expr}, e.fitsLine = true → isOneLine e.source = true
  | .literal value, _ => value.isOneLine_source
  | .ident _, h => h
  | .member target name _, h => by
    rw [fitsLine, Bool.and_eq_true] at h
    simp +decide [source, isOneLine_source h.1, h.2]
  | .call callee args, h => by
    rw [fitsLine, Bool.and_eq_true] at h
    simp +decide [source, isOneLine_source h.1, isOneLine_commaSeparated (isOneLine_sources h.2)]
  | .index target position, h => by
    rw [fitsLine, Bool.and_eq_true] at h
    simp +decide [source, isOneLine_source h.1, isOneLine_source h.2]
  | .cast type operand, h => by
    rw [fitsLine, Bool.and_eq_true] at h
    simp +decide [source, h.1, isOneLine_source h.2]
  | .creation type args, h => by
    rw [fitsLine, Bool.and_eq_true] at h
    simp +decide [source, h.1, isOneLine_commaSeparated (isOneLine_sources h.2)]
  | .creationWith type args fields, h => by
    rw [fitsLine, Bool.and_eq_true, Bool.and_eq_true] at h
    obtain ⟨ht, ha, hf⟩ := h
    simp +decide [source, ht, isOneLine_commaSeparated (isOneLine_sources ha),
      isOneLine_commaSeparated (isOneLine_fieldSources hf)]
  | .defaultOf type, h => by
    rw [fitsLine] at h
    simp +decide [source, h]
  | .unary op operand, h => by
    rw [fitsLine] at h
    rw [source]
    split <;> simp [op.isOneLine_symbol, isOneLine_source h]
  | .binary op lhs rhs, h => by
    rw [fitsLine, Bool.and_eq_true] at h
    simp +decide [source, op.isOneLine_symbol, isOneLine_source h.1, isOneLine_source h.2]
  | .assign op target value, h => by
    rw [fitsLine, Bool.and_eq_true] at h
    cases op with
    | none => simp +decide [source, isOneLine_source h.1, isOneLine_source h.2]
    | some op =>
      simp +decide [source, op.isOneLine_symbol, isOneLine_source h.1, isOneLine_source h.2]
  | .conditional cond onTrue onFalse, h => by
    rw [fitsLine, Bool.and_eq_true, Bool.and_eq_true] at h
    obtain ⟨hc, ht, hf⟩ := h
    simp +decide [source, isOneLine_source hc, isOneLine_source ht, isOneLine_source hf]
  | .paren inner, h => by
    rw [fitsLine] at h
    simp +decide [source, isOneLine_source h]
  | .lambda params body, h => by
    rw [fitsLine, Bool.and_eq_true, List.all_eq_true] at h
    simp +decide [source, isOneLine_commaSeparated h.1, isOneLine_source h.2]
termination_by structural e => e

theorem Expr.isOneLine_sources : ∀ {es : List Expr}, Expr.allFitLine es = true →
    ∀ text ∈ Expr.sources es, isOneLine text = true
  | [], _ => by simp [sources]
  | e :: es, h => by
    rw [allFitLine, Bool.and_eq_true] at h
    rw [sources, List.forall_mem_cons]
    exact ⟨isOneLine_source h.1, isOneLine_sources h.2⟩
termination_by structural es => es

theorem Expr.isOneLine_fieldSources : ∀ {fields : List (String × Expr)},
    Expr.fieldsFitLine fields = true → ∀ text ∈ Expr.fieldSources fields, isOneLine text = true
  | [], _ => by simp [fieldSources]
  | (name, value) :: fields, h => by
    rw [fieldsFitLine, Bool.and_eq_true, Bool.and_eq_true] at h
    obtain ⟨hn, hv, hf⟩ := h
    rw [fieldSources, List.forall_mem_cons]
    refine ⟨?_, isOneLine_fieldSources hf⟩
    simp +decide [hn, isOneLine_source hv]
termination_by structural fields => fields

end

/-! ## Statements -/

/-- Whether no name in a local declaration has a line break. -/
def Declaration.fitsLine (d : Declaration) : Bool :=
  d.type.all (isOneLine ·.name)
    && d.declarators.all fun d => isOneLine d.name && d.init.all Expr.fitsLine

/-- Whether a statement is a declaration or an expression, the names of which have no line
break: what a `for` header can begin with. -/
def Stmt.fitsHeader : Stmt → Bool
  | .declare declaration => declaration.fitsLine
  | .expr value => value.fitsLine
  | _ => false

mutual

/-- Whether no name in a statement has a line break, and `for` headers begin with a
declaration or an expression. -/
def Stmt.fitsLines : Stmt → Bool
  | .declare declaration => declaration.fitsLine
  | .expr value => value.fitsLine
  | .ret value => value.all Expr.fitsLine
  | .branch cond onTrue onFalse =>
    cond.fitsLine && (Stmt.allFitLines onTrue && Stmt.elseFitsLines onFalse)
  | .forLoop init cond step body =>
    init.all Stmt.fitsHeader
      && (cond.all Expr.fitsLine && (Expr.allFitLine step && Stmt.allFitLines body))
  | .whileLoop cond body => cond.fitsLine && Stmt.allFitLines body
  | .foreachLoop type name collection body =>
    isOneLine type.name && (isOneLine name && (collection.fitsLine && Stmt.allFitLines body))
  | .block body => Stmt.allFitLines body
  | .breakLoop | .continueLoop => true
termination_by structural s => s

/-- Whether this holds of several statements. -/
def Stmt.allFitLines : List Stmt → Bool
  | [] => true
  | s :: rest => s.fitsLines && Stmt.allFitLines rest
termination_by structural b => b

/-- Whether this holds of the block behind `else`. -/
def Stmt.elseFitsLines : Option (List Stmt) → Bool
  | none => true
  | some body => Stmt.allFitLines body
termination_by structural b => b

end

/-- Every statement of a block fits its lines when the block does. -/
theorem Stmt.fitsLines_of_mem {b : List Stmt} (fits : Stmt.allFitLines b = true) {s : Stmt}
    (mem : s ∈ b) : s.fitsLines = true := by
  induction b with
  | nil => cases mem
  | cons first rest ih =>
    rw [allFitLines, Bool.and_eq_true] at fits
    rcases List.mem_cons.1 mem with rfl | mem
    · exact fits.1
    · exact ih fits.2 mem

theorem Declaration.isOneLine_source {d : Declaration} (h : d.fitsLine = true) :
    isOneLine d.source = true := by
  rw [fitsLine, Bool.and_eq_true, List.all_eq_true] at h
  have declarator (d : Declarator) (h : (isOneLine d.name && d.init.all Expr.fitsLine) = true) :
      isOneLine d.source = true := by
    rw [Bool.and_eq_true] at h
    rw [Declarator.source]
    split
    · next init found =>
      rw [found] at h
      simp +decide [h.1, Expr.isOneLine_source h.2]
    · exact h.1
  rw [source, isOneLine_append, isOneLine_append]
  refine ⟨⟨?_, rfl⟩, isOneLine_commaSeparated ?_⟩
  · split
    · next type found =>
      rw [found] at h
      exact h.1
    · rfl
  · rw [List.forall_mem_map]
    exact fun d mem => declarator d (h.2 d mem)

theorem isOneLine_optionalSource {e : Option Expr} (h : e.all Expr.fitsLine = true) :
    isOneLine (optionalSource e) = true := by
  cases e with
  | none => rfl
  | some e => exact e.isOneLine_source h

theorem Expr.isOneLine_listSource {es : List Expr} (h : Expr.allFitLine es = true) :
    isOneLine (Expr.listSource es) = true := by
  rw [listSource, ← sources_eq_map]
  exact isOneLine_commaSeparated (isOneLine_sources h)

/-- What a `for` header begins with stays on the line of the header. -/
theorem Stmt.isOneLine_headerSource {s : Stmt} (h : s.fitsHeader = true) (lines : List Line) :
    isOneLine (s.headerSource lines) = true := by
  cases s with
  | declare declaration => exact declaration.isOneLine_source h
  | expr value => exact value.isOneLine_source h
  | _ => cases h

end ShaderLowering
