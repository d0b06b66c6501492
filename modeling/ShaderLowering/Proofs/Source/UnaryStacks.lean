import ShaderLowering.Proofs.Source.Regrouping

/-!
# Stacks of unary operators in a text

Unary operators are written in front of their operand and behind it, with nothing in
between.  In the text of a stack, the operators behind a name or a parenthesis are read
first and then those in front of it, from the inside to the outside, and two minus signs
beside each other are read as one operator.  So a stack is read back unless an operator
that stands behind its operand is applied to one that stands in front of its own, or a
minus sign is put in front of another one.

## Main definitions

* `Expr.isStack` — the trees that consist of names, parentheses and unary operators.
* `Expr.Suffixed`, `Expr.Separated` — the trees that are read back.
* `Expr.respaced` — the tree that is read from the text of a tree.

## Main statements

* `Expr.Separated.source_inj` — the text of a tree that is read back determines it.
* `Expr.core_eq_iff_of_isStack` — which trees their texts tell apart.
-/

namespace ShaderLowering

namespace Expr

/-! ## Trees of names, parentheses and unary operators -/

/-- The characters that no name of these trees contains. -/
def stackLimits : List Char :=
  ['+', '-', '!', '~', '(', ')']

/-- Whether a text is a name in these trees. -/
def isStackName (text : String) : Bool :=
  !text.toList.isEmpty && isFreeOf stackLimits text

/-- Whether a tree consists of names, parentheses and unary operators. -/
def isStack : Expr → Bool
  | .ident name => isStackName name
  | .paren inner => inner.isStack
  | .unary _ operand => operand.isStack
  | _ => false
termination_by structural e => e

/-- Whether the text of a tree begins with the minus sign of an operator. -/
def startsMinus : Expr → Bool
  | .unary .neg _ | .unary .preDecrement _ => true
  | _ => false

mutual

/-- What is read behind the last operator in front: a name or a tree in parentheses, with
operators behind it. -/
inductive Suffixed : Expr → Prop
  | ident {name : String} (spelled : isStackName name = true) : Suffixed (.ident name)
  | paren {inner : Expr} (inside : Separated inner) : Suffixed (.paren inner)
  | behind {op : Unary} {e : Expr} (side : op.isPostfix = true) (operand : Suffixed e) :
      Suffixed (.unary op e)

/-- What is read in parentheses and as a whole text. -/
inductive Separated : Expr → Prop
  | suffixed {e : Expr} (h : Suffixed e) : Separated e
  | front {op : Unary} {e : Expr} (side : op.isPostfix = false)
      (apart : op = .neg → e.startsMinus = false) (operand : Separated e) :
      Separated (.unary op e)

end

mutual

theorem Suffixed.isStack : ∀ {e : Expr}, Suffixed e → e.isStack = true
  | _, .ident h => h
  | _, .paren he => by
    rw [Expr.isStack, Separated.isStack he]
  | _, .behind _ he => by
    rw [Expr.isStack, Suffixed.isStack he]
termination_by structural _ he => he

theorem Separated.isStack : ∀ {e : Expr}, Separated e → e.isStack = true
  | _, .suffixed he => Suffixed.isStack he
  | _, .front _ _ he => by
    rw [Expr.isStack, Separated.isStack he]
termination_by structural _ he => he

end

/-! ## The texts of stacks -/

theorem toList_source_paren (inner : Expr) :
    (Expr.paren inner).source.toList = '(' :: (inner.source.toList ++ [')']) := by
  simp [source]

/-- No operand in a stack is put in parentheses. -/
theorem needsParens_of_isStack {e : Expr} (h : e.isStack = true) : e.needsParens = false := by
  cases e with
  | ident | paren | unary => rfl
  | _ => cases h

theorem toList_source_behind {op : Unary} (side : op.isPostfix = true) {e : Expr}
    (h : e.isStack = true) :
    (Expr.unary op e).source.toList = e.source.toList ++ op.symbol.toList := by
  simp [source, side, needsParens_of_isStack h, parenthesizedIf]

theorem toList_source_front {op : Unary} (side : op.isPostfix = false) {e : Expr}
    (h : e.isStack = true) :
    (Expr.unary op e).source.toList = op.symbol.toList ++ e.source.toList := by
  simp [source, side, needsParens_of_isStack h, parenthesizedIf]

theorem postfix_cases {op : Unary} (side : op.isPostfix = true) :
    op = .postIncrement ∨ op = .postDecrement := by
  cases op <;> simp_all [Unary.isPostfix]

/-- Behind a text there is one operator at most that the text can end with. -/
theorem behind_append_inj {op op' : Unary} (side : op.isPostfix = true)
    (side' : op'.isPostfix = true) {k l : List Char}
    (same : k ++ op.symbol.toList = l ++ op'.symbol.toList) : op = op' ∧ k = l := by
  have last := congrArg List.getLast? same
  obtain rfl | rfl := postfix_cases side <;> obtain rfl | rfl := postfix_cases side'
  · exact ⟨rfl, List.append_cancel_right same⟩
  · simp [Unary.symbol] at last
  · simp [Unary.symbol] at last
  · exact ⟨rfl, List.append_cancel_right same⟩

/-- In front of a text there is one operator at most that the text can begin with, unless
it is a minus sign in front of another one. -/
theorem front_append_inj {op op' : Unary} (side : op.isPostfix = false)
    (side' : op'.isPostfix = false) {k l : List Char}
    (same : op.symbol.toList ++ k = op'.symbol.toList ++ l) :
    (op = op' ∧ k = l) ∨ (op = .neg ∧ k = '-' :: l) ∨ (op' = .neg ∧ '-' :: k = l) := by
  cases op <;> cases op' <;> simp_all [Unary.symbol, Unary.isPostfix]

/-- A name does not begin with an operator. -/
theorem head?_of_isStackName {name : String} (h : isStackName name = true) :
    ∃ c, name.toList.head? = some c ∧ c ∉ ['+', '-', '!', '~'] := by
  rw [isStackName, Bool.and_eq_true] at h
  cases ht : name.toList with
  | nil => simp [ht] at h
  | cons c cs =>
    refine ⟨c, rfl, fun hc => ?_⟩
    exact notMem_of_isFreeOf h.2 (List.mem_append_left ['(', ')'] hc) (by simp [ht])

/-- The text of a suffixed tree does not begin with an operator. -/
theorem Suffixed.head?_source : ∀ {e : Expr}, Suffixed e →
    ∃ c, e.source.toList.head? = some c ∧ c ∉ ['+', '-', '!', '~']
  | _, .ident h => head?_of_isStackName h
  | _, .paren _ => ⟨'(', by rw [toList_source_paren]; rfl, by decide⟩
  | _, .behind side he => by
    obtain ⟨c, hc, hn⟩ := Suffixed.head?_source he
    refine ⟨c, ?_, hn⟩
    rw [toList_source_behind side he.isStack, List.head?_append, hc]
    rfl

/-- The text of a tree that is read back begins with a minus sign only if an operator
does. -/
theorem Separated.startsMinus_of_source {e : Expr} (he : Separated e) {k : List Char}
    (h : e.source.toList = '-' :: k) : e.startsMinus = true := by
  cases he with
  | suffixed he =>
    obtain ⟨c, hc, hn⟩ := he.head?_source
    rw [h] at hc
    cases hc
    exact absurd hn (by decide)
  | @front op e side _ operand =>
    rw [toList_source_front side operand.isStack] at h
    cases op <;> simp_all [Unary.symbol, Unary.isPostfix, startsMinus]

/-! ## A text has one reading -/

/-- A suffixed tree is not written as an operator in front of something. -/
theorem Suffixed.source_ne_front {e : Expr} (he : Suffixed e) {op : Unary}
    (k : List Char) : e.source.toList ≠ op.symbol.toList ++ k := by
  intro h
  obtain ⟨c, hc, hn⟩ := he.head?_source
  rw [h] at hc
  cases op <;> cases hc <;> exact absurd hn (by decide)

/-- A name is not written as something with one of the signs in it. -/
theorem ident_ne_of_mem {name : String} (h : isStackName name = true) {k : List Char} {c : Char}
    (hc : c ∈ stackLimits) (hk : c ∈ k) : name.toList ≠ k := by
  rintro rfl
  rw [isStackName, Bool.and_eq_true] at h
  exact notMem_of_isFreeOf h.2 hc hk

theorem ident_ne_behind {name : String} (h : isStackName name = true) {op : Unary} (k : List Char)
    (side : op.isPostfix = true) : name.toList ≠ k ++ op.symbol.toList := by
  obtain rfl | rfl := postfix_cases side
  · exact ident_ne_of_mem (c := '+') h (by decide) (by simp [Unary.symbol])
  · exact ident_ne_of_mem (c := '-') h (by decide) (by simp [Unary.symbol])

theorem paren_ne_behind {op : Unary} (k l : List Char) (side : op.isPostfix = true) :
    '(' :: (k ++ [')']) ≠ l ++ op.symbol.toList := by
  intro h
  have last := congrArg List.getLast? h
  rw [← List.cons_append, List.getLast?_concat] at last
  obtain rfl | rfl := postfix_cases side <;> simp [Unary.symbol] at last

mutual

theorem Suffixed.source_inj : ∀ {e f : Expr}, Suffixed e → Suffixed f →
    e.source.toList = f.source.toList → e = f
  | _, _, .ident _, .ident _, h => congrArg Expr.ident (String.toList_inj.1 h)
  | _, _, .ident hu, .paren _, h => by
    rw [toList_source_paren] at h
    exact absurd h (ident_ne_of_mem (c := '(') hu (by decide) (by simp))
  | _, _, .paren _, .ident hv, h => by
    rw [toList_source_paren] at h
    exact absurd h.symm (ident_ne_of_mem (c := '(') hv (by decide) (by simp))
  | _, _, .ident hu, .behind side hf, h => by
    rw [toList_source_behind side hf.isStack] at h
    exact absurd h (ident_ne_behind hu _ side)
  | _, _, .behind side he, .ident hv, h => by
    rw [toList_source_behind side he.isStack] at h
    exact absurd h.symm (ident_ne_behind hv _ side)
  | _, _, .paren _, .behind side hf, h => by
    rw [toList_source_paren, toList_source_behind side hf.isStack] at h
    exact absurd h (paren_ne_behind _ _ side)
  | _, _, .behind side he, .paren _, h => by
    rw [toList_source_paren, toList_source_behind side he.isStack] at h
    exact absurd h.symm (paren_ne_behind _ _ side)
  | _, _, .paren he, .paren hf, h => by
    rw [toList_source_paren, toList_source_paren] at h
    rw [Separated.source_inj he hf (List.append_cancel_right (List.cons.inj h).2)]
  | _, _, .behind side he, .behind side' hf, h => by
    rw [toList_source_behind side he.isStack, toList_source_behind side' hf.isStack] at h
    obtain ⟨rfl, operands⟩ := behind_append_inj side side' h
    rw [Suffixed.source_inj he hf operands]
termination_by structural _ _ he => he

/-- The text of a tree that is read back determines the tree. -/
theorem Separated.source_inj : ∀ {e f : Expr}, Separated e → Separated f →
    e.source.toList = f.source.toList → e = f
  | _, _, .suffixed he, .suffixed hf, h => Suffixed.source_inj he hf h
  | _, _, .suffixed he, .front side _ hf, h => by
    rw [toList_source_front side hf.isStack] at h
    exact absurd h (he.source_ne_front _)
  | _, _, .front side _ he, .suffixed hf, h => by
    rw [toList_source_front side he.isStack] at h
    exact absurd h.symm (hf.source_ne_front _)
  | _, _, .front side apart he, .front side' apart' hf, h => by
    rw [toList_source_front side he.isStack, toList_source_front side' hf.isStack] at h
    obtain ⟨rfl, operands⟩ | ⟨rfl, operand⟩ | ⟨rfl, operand⟩ := front_append_inj side side' h
    · rw [Separated.source_inj he hf operands]
    -- A minus sign and a decrement: the operand of the minus sign begins with another one.
    · rw [he.startsMinus_of_source operand] at apart
      cases apart rfl
    · rw [hf.startsMinus_of_source operand.symm] at apart'
      cases apart' rfl
termination_by structural _ _ he => he

end

/-! ## The tree that is read -/

/-- What is read where an operator stands behind the text of a tree: it belongs to the
operand of the operators in front. -/
def putBehind (op : Unary) : Expr → Expr
  | .unary front e => if front.isPostfix then .unary op (.unary front e)
    else .unary front (e.putBehind op)
  | e => .unary op e
termination_by structural e => e

/-- What is read where a minus sign stands in front of the text of a tree: with another
one behind it, it becomes one operator. -/
def putMinus : Expr → Expr
  | .unary .neg e => .unary .preDecrement e
  | .unary .preDecrement e => .unary .preDecrement e.putMinus
  | e => .unary .neg e
termination_by structural e => e

/-- What is read where an operator stands beside the text of a tree. -/
def put (op : Unary) (e : Expr) : Expr :=
  if op.isPostfix then e.putBehind op else if op = .neg then e.putMinus else .unary op e

/-- The tree that is read from the text of a tree. -/
def respaced : Expr → Expr
  | .paren inner => .paren inner.respaced
  | .unary op operand => operand.respaced.put op
  | e => e
termination_by structural e => e

theorem Suffixed.putBehind_eq {e : Expr} (h : Suffixed e) (op : Unary) :
    e.putBehind op = .unary op e := by
  cases h with
  | ident | paren => rfl
  | behind side => rw [putBehind, if_pos side]

theorem putMinus_eq {e : Expr} (h : e.startsMinus = false) : e.putMinus = .unary .neg e := by
  cases e with
  | unary op e =>
    cases op with
    | neg | preDecrement => cases h
    | _ => rfl
  | _ => rfl

theorem Suffixed.startsMinus_eq {e : Expr} (h : Suffixed e) : e.startsMinus = false := by
  cases h with
  | ident | paren => rfl
  | behind side => obtain rfl | rfl := postfix_cases side <;> rfl

/-- An operator in front of a tree that is read back. -/
theorem Separated.of_front {op : Unary} {e : Expr} (h : Separated (.unary op e))
    (side : op.isPostfix = false) : (op = .neg → e.startsMinus = false) ∧ Separated e := by
  cases h with
  | suffixed h =>
    cases h with
    | behind side' => cases side.symm.trans side'
  | front _ apart operand => exact ⟨apart, operand⟩

section PutBehind

variable {op : Unary}

theorem startsMinus_putBehind (side : op.isPostfix = true) {e : Expr} (he : Separated e) :
    (e.putBehind op).startsMinus = e.startsMinus := by
  cases he with
  | suffixed he =>
    rw [he.putBehind_eq, he.startsMinus_eq, (Suffixed.behind side he).startsMinus_eq]
  | @front front e side' _ _ =>
    rw [putBehind, side']
    cases front <;> rfl

theorem Separated.putBehind (side : op.isPostfix = true) :
    ∀ {e : Expr}, Separated e → Separated (e.putBehind op)
  | _, .suffixed he => by
    rw [he.putBehind_eq]
    exact .suffixed (.behind side he)
  | _, .front side' apart he => by
    rw [Expr.putBehind, side']
    refine .front side' (fun minus => ?_) (Separated.putBehind side he)
    rw [startsMinus_putBehind side he]
    exact apart minus
termination_by structural _ he => he

theorem Separated.toList_source_putBehind (side : op.isPostfix = true) :
    ∀ {e : Expr}, Separated e →
      (e.putBehind op).source.toList = e.source.toList ++ op.symbol.toList
  | _, .suffixed he => by
    rw [he.putBehind_eq, toList_source_behind side he.isStack]
  | _, .front side' _ he => by
    rw [Expr.putBehind, side', if_neg nofun,
      toList_source_front side' (Separated.putBehind side he).isStack,
      Separated.toList_source_putBehind side he, toList_source_front side' he.isStack,
      List.append_assoc]
termination_by structural _ he => he

end PutBehind

theorem Separated.putMinus {e : Expr} (he : Separated e) : Separated e.putMinus := by
  fun_induction Expr.putMinus e with
  | case1 e => exact .front rfl nofun (he.of_front rfl).2
  | case2 e ih => exact .front rfl nofun (ih (he.of_front rfl).2)
  | case3 e noNeg noPreDecrement =>
    refine .front rfl (fun _ => ?_) he
    cases e with
    | unary op e =>
      cases op with
      | neg => cases noNeg e rfl
      | preDecrement => cases noPreDecrement e rfl
      | _ => rfl
    | _ => rfl

theorem Separated.toList_source_putMinus {e : Expr} (he : Separated e) :
    e.putMinus.source.toList = '-' :: e.source.toList := by
  fun_induction Expr.putMinus e with
  | case1 e =>
    have operand := (he.of_front rfl).2.isStack
    rw [toList_source_front rfl operand, toList_source_front rfl operand]
    rfl
  | case2 e ih =>
    have operand := (he.of_front rfl).2
    rw [toList_source_front rfl operand.putMinus.isStack, ih operand,
      toList_source_front rfl operand.isStack]
    rfl
  | case3 e =>
    rw [toList_source_front rfl he.isStack]
    rfl

section Put

variable {op : Unary} {e : Expr}

theorem Separated.put (op : Unary) (he : Separated e) : Separated (e.put op) := by
  rw [Expr.put]
  split_ifs with side minus
  · exact he.putBehind side
  · exact he.putMinus
  · exact .front (by simpa using side) (fun h => absurd h minus) he

theorem Separated.source_put (op : Unary) (he : Separated e) :
    (e.put op).source = (Expr.unary op e).source := by
  rw [← String.toList_inj, Expr.put]
  split_ifs with side minus
  · rw [he.toList_source_putBehind side, toList_source_behind side he.isStack]
  · subst minus
    rw [he.toList_source_putMinus, toList_source_front rfl he.isStack]
    rfl
  · rfl

/-- An operator is put beside a tree as it is when the result is read back. -/
theorem Separated.put_eq (h : Separated (.unary op e)) : e.put op = .unary op e := by
  cases h with
  | suffixed h =>
    cases h with
    | behind side operand => rw [Expr.put, if_pos side, operand.putBehind_eq]
  | front side apart operand =>
    rw [Expr.put, if_neg (by simp [side])]
    split_ifs with minus
    · rw [putMinus_eq (apart minus), minus]
    · rfl

/-- An operator that is outermost where it is put beside a tree is read back. -/
theorem Separated.of_core_put (he : Separated e) {c : Expr} (h : (e.put op).core = .unary op c) :
    Separated (.unary op e) := by
  rw [Expr.put] at h
  split_ifs at h with side minus
  · cases he with
    | suffixed he => exact .suffixed (.behind side he)
    | front side' =>
      rw [Expr.putBehind, side', if_neg nofun, core, unary.injEq] at h
      rw [h.1, side] at side'
      cases side'
  · subst minus
    refine .front rfl (fun _ => ?_) he
    cases e with
    | unary op e =>
      cases op with
      | neg | preDecrement => cases h
      | _ => rfl
    | _ => rfl
  · exact .front (by simpa using side) (fun minus' => absurd minus' minus) he

end Put

/-- What is read from a text is read back. -/
theorem separated_respaced : ∀ e : Expr, e.isStack = true → Separated e.respaced
  | .ident _, h => .suffixed (.ident h)
  | .paren inner, h => .suffixed (.paren (separated_respaced inner h))
  | .unary op operand, h => (separated_respaced operand h).put op
termination_by structural e => e

/-- The tree that is read has the text that it is read from. -/
theorem source_respaced : ∀ e : Expr, e.isStack = true → e.respaced.source = e.source
  | .ident _, _ => rfl
  | .paren inner, h => by
    rw [respaced, source, source, source_respaced inner h]
  | .unary op operand, h => by
    rw [respaced, (separated_respaced operand h).source_put, source, source,
      source_respaced operand h, needsParens_of_isStack (e := operand) h,
      needsParens_of_isStack (separated_respaced operand h).isStack]
termination_by structural e => e

mutual

theorem Suffixed.respaced_eq : ∀ {e : Expr}, Suffixed e → e.respaced = e
  | _, .ident _ => rfl
  | _, .paren he => by
    rw [respaced, Separated.respaced_eq he]
  | _, .behind side he => by
    rw [respaced, Suffixed.respaced_eq he, (Separated.suffixed (.behind side he)).put_eq]
termination_by structural _ he => he

/-- A tree that is read back is read as it is. -/
theorem Separated.respaced_eq : ∀ {e : Expr}, Separated e → e.respaced = e
  | _, .suffixed he => Suffixed.respaced_eq he
  | _, .front side apart he => by
    rw [respaced, Separated.respaced_eq he, (Separated.front side apart he).put_eq]
termination_by structural _ he => he

end

/-- A tree that is read as the same tree is read back. -/
theorem separated_of_core : ∀ e : Expr, e.isStack = true → e.respaced.core = e.core →
    Separated e
  | .ident _, h, _ => .suffixed (.ident h)
  | .paren inner, h, same => .suffixed (.paren (separated_of_core inner h same))
  | .unary op operand, h, same => by
    have whole : Separated (.unary op operand.respaced) :=
      (separated_respaced operand h).of_core_put same
    rw [respaced, whole.put_eq, core, core, unary.injEq] at same
    rwa [(separated_of_core operand h same.2).respaced_eq] at whole
termination_by structural e => e

/-- Trees of names, parentheses and unary operators are regrouped by their texts. -/
theorem regrouping_respaced : Regrouping (·.isStack = true) Separated respaced where
  kind_of_grouped := Separated.isStack
  grouped_regroup h := separated_respaced _ h
  source_regroup h := source_respaced _ h
  regroup_eq_self := Separated.respaced_eq
  grouped_of_core_eq h := separated_of_core _ h
  eq_of_source_eq he hf same := he.source_inj hf (String.toList_inj.2 same)

/-! ## What the text tells apart -/

/-- **A stack of unary operators is told apart by its text when no operator behind is
applied to one in front, and no minus sign to another one.**  Two such trees have one text
exactly when one tree is read from both.  If the second of them is read back, the first
is the same tree up to parentheses exactly when it is read back too.  And a tree that is
not read back has the text of another tree. -/
theorem core_eq_iff_of_isStack {e f : Expr} (he : e.isStack = true) (hf : f.isStack = true) :
    (e.source = f.source ↔ e.respaced = f.respaced) ∧
    (e.source = f.source → f.Separated → (e.core = f.core ↔ e.Separated)) ∧
    (¬ e.Separated → ∃ g : Expr, g.isStack = true ∧ g.Separated ∧ g.source = e.source
      ∧ g.core ≠ e.core) :=
  ⟨regrouping_respaced.source_eq_iff he hf, regrouping_respaced.core_eq_iff he hf,
    regrouping_respaced.exists_source_eq he⟩

/-- An increment behind a negation has the text of the negation of an increment, and is
another tree. -/
theorem core_eq_iff_of_isStack_increment :
    (unary .postIncrement (.unary .neg (.ident "a"))).source
        = (unary .neg (.unary .postIncrement (.ident "a"))).source ∧
      (unary .postIncrement (.unary .neg (.ident "a"))).core
        ≠ (unary .neg (.unary .postIncrement (.ident "a"))).core := by
  have tells := core_eq_iff_of_isStack (e := unary .postIncrement (.unary .neg (.ident "a")))
    (f := unary .neg (.unary .postIncrement (.ident "a"))) rfl rfl
  have same := tells.1.2 rfl
  have apart : Separated (unary .neg (.unary .postIncrement (.ident "a"))) :=
    .front rfl (fun _ => rfl) (.suffixed (.behind rfl (.ident rfl)))
  refine ⟨same, fun cores => ?_⟩
  cases (tells.2.1 same apart).1 cores with
  | suffixed h =>
    cases h with
    | behind _ operand =>
      cases operand with
      | behind side => cases side
  | front side => cases side

/-- The negation of a negation has the text of a decrement. -/
theorem source_negated_negation :
    (unary .neg (.unary .neg (.ident "a"))).source
        = (unary .preDecrement (.ident "a")).source ∧
      (unary .neg (.unary .neg (.ident "a"))).core ≠ (unary .preDecrement (.ident "a")).core := by
  refine ⟨rfl, fun same => ?_⟩
  cases same

end Expr

end ShaderLowering
