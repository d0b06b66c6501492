import ShaderLowering.Proofs.Source.Regrouping
import ShaderLowering.Proofs.Source.Token

/-!
# The grouping of conditionals and assignments in a text

The parts of a conditional and of an assignment are written without parentheses,
whatever they are.  Behind the question mark, the colon and the sign of an assignment
there stands, as the text is read, as much as can, so that a conditional or an assignment
in this place is read back.  What stands in front of a question mark or of the sign of an
assignment is as little as can be: of a conditional or an assignment there, only the last
part is read as the condition or the target.

## Main definitions

* `Expr.isLoose` — the trees that consist of names, parentheses, conditionals and
  assignments.
* `Expr.Closed`, `Expr.Clause` — the trees that are read back.
* `Expr.rightGrouped` — the tree that is read from the text of a tree.

## Main statements

* `Expr.Clause.append_inj` — the text of a tree that is read back determines it.
* `Expr.core_eq_iff_of_isLoose` — which trees their texts tell apart.
-/

namespace ShaderLowering

namespace Expr

/-! ## Trees of names, parentheses, conditionals and assignments -/

/-- The characters that no name of these trees contains. -/
def nameLimits : List Char :=
  [' ', '(', ')']

/-- Whether a tree consists of names, parentheses, conditionals and assignments. -/
def isLoose : Expr → Bool
  | .ident name => isFreeOf nameLimits name
  | .paren inner => inner.isLoose
  | .conditional cond onTrue onFalse => cond.isLoose && onTrue.isLoose && onFalse.isLoose
  | .assign _ target value => target.isLoose && value.isLoose
  | _ => false
termination_by structural e => e

mutual

/-- What is read as a condition, or as the target of an assignment: a name, or a tree in
parentheses. -/
inductive Closed : Expr → Prop
  | ident {name : String} (spelled : isFreeOf nameLimits name = true) : Closed (.ident name)
  | paren {inner : Expr} (inside : Clause inner) : Closed (.paren inner)

/-- What is read in parentheses, behind a sign, and as a whole text. -/
inductive Clause : Expr → Prop
  | closed {e : Expr} (h : Closed e) : Clause e
  | conditional {cond onTrue onFalse : Expr} (head : Closed cond) (positive : Clause onTrue)
      (negative : Clause onFalse) : Clause (.conditional cond onTrue onFalse)
  | assign (op : Option Binary) {target value : Expr} (head : Closed target)
      (assigned : Clause value) : Clause (.assign op target value)

end

/-! ## The signs of conditionals and assignments -/

/-- The sign between the target and the value of an assignment. -/
def assignSign (op : Option Binary) : String :=
  (match op with | none => "" | some o => o.symbol) ++ "="

theorem assignSign_injective : Function.Injective assignSign := by
  have read : ∀ op : Option Binary,
      (none :: Formula.operators.map some).find? (assignSign · == assignSign op) = some op := by
    intro op
    cases op with
    | none => rfl
    | some o => cases o <;> rfl
  intro op op' h
  exact Option.some.inj (by rw [← read op, h, read op'])

/-- The sign of an assignment is one word, and not the sign of a conditional. -/
theorem assignSign_spec (op : Option Binary) : isFreeOf [' '] (assignSign op) = true ∧
    assignSign op ≠ "?" ∧ assignSign op ≠ ":" := by
  cases op with
  | none => decide
  | some o => cases o <;> decide

/-- Two signs between blanks are the same when the texts are. -/
theorem sign_append_inj {u v : String} (hu : isFreeOf [' '] u = true)
    (hv : isFreeOf [' '] v = true) {k l : List Char}
    (h : ' ' :: (u.toList ++ ' ' :: k) = ' ' :: (v.toList ++ ' ' :: l)) : u = v ∧ k = l := by
  have blank (m : List Char) : ∀ c ∈ (' ' :: m).head?, c ∈ [' '] := by simp
  obtain ⟨same, behind⟩ := isFreeOf_append_inj hu hv (blank k) (blank l) (List.cons.inj h).2
  exact ⟨same, (List.cons.inj behind).2⟩

section Text

variable (op : Option Binary) (e f g : Expr) (k : List Char)

theorem source_paren_append :
    (Expr.paren e).source.toList ++ k = '(' :: (e.source.toList ++ ')' :: k) := by
  simp [source]

theorem source_assign_append : (Expr.assign op e f).source.toList ++ k =
    e.source.toList ++ ' ' :: ((assignSign op).toList ++ ' ' :: (f.source.toList ++ k)) := by
  cases op <;> simp [source, assignSign]

theorem source_conditional_append : (Expr.conditional e f g).source.toList ++ k =
    e.source.toList ++ ' ' :: ("?".toList ++ ' ' :: (f.source.toList
      ++ ' ' :: (":".toList ++ ' ' :: (g.source.toList ++ k)))) := by
  simp [source]

end Text

/-! ## Where a tree ends in a text -/

/-- A closed tree is at its end where a blank or a closing parenthesis stands. -/
def EndsClosed (rest : List Char) : Prop :=
  ∀ c ∈ rest.head?, c = ' ' ∨ c = ')'

/-- A clause is at its end in front of a closing parenthesis and of a colon. -/
inductive EndsClause : List Char → Prop
  | nil : EndsClause []
  | paren (rest : List Char) : EndsClause (')' :: rest)
  | colon (rest : List Char) : EndsClause (' ' :: (":".toList ++ ' ' :: rest))

theorem endsClosed_blank (rest : List Char) : EndsClosed (' ' :: rest) := by
  simp [EndsClosed]

theorem EndsClause.endsClosed {rest : List Char} (h : EndsClause rest) : EndsClosed rest := by
  cases h <;> simp [EndsClosed]

/-- In front of any other sign than a colon a clause goes on. -/
theorem EndsClause.sign_eq {sign : String} (hs : isFreeOf [' '] sign = true) {rest : List Char}
    (h : EndsClause (' ' :: (sign.toList ++ ' ' :: rest))) : sign = ":" := by
  generalize ht : ' ' :: (sign.toList ++ ' ' :: rest) = text at h
  cases h with
  | nil => cases ht
  | paren => cases ht
  | colon behind => exact (sign_append_inj hs (by decide) ht).1

/-- A name where a closed tree ends does not begin with a parenthesis. -/
theorem ident_append_ne {name : String} (hn : isFreeOf nameLimits name = true)
    {k : List Char} (hk : EndsClosed k) (l : List Char) : name.toList ++ k ≠ '(' :: l := by
  intro h
  cases ht : name.toList with
  | nil =>
    rw [ht, List.nil_append] at h
    subst h
    exact absurd (hk '(' rfl) (by decide)
  | cons c cs =>
    rw [ht] at h
    obtain ⟨rfl, -⟩ := List.cons.inj h
    exact notMem_of_isFreeOf hn (by decide : '(' ∈ nameLimits) (by simp [ht])

/-! ## A text has one reading -/

-- The induction is on how the first tree is read.  What stands behind the two texts is
-- part of the statement: it is a different text for every part of a clause.
mutual

/-- The text of a closed tree determines it, and where it ends. -/
theorem Closed.append_inj : ∀ {e f : Expr}, Closed e → Closed f → ∀ {k l : List Char},
    EndsClosed k → EndsClosed l → e.source.toList ++ k = f.source.toList ++ l → e = f ∧ k = l
  | _, _, .ident hu, .ident hv, _, _, hk, hl, h => by
    have ends {k : List Char} (hk : EndsClosed k) : ∀ c ∈ k.head?, c ∈ nameLimits := by
      intro c hc
      rcases hk c hc with rfl | rfl <;> decide
    obtain ⟨rfl, behind⟩ := isFreeOf_append_inj hu hv (ends hk) (ends hl) h
    exact ⟨rfl, behind⟩
  | _, _, .ident hu, .paren _, _, _, hk, _, h => by
    rw [source_paren_append] at h
    exact absurd h (ident_append_ne hu hk _)
  | _, _, .paren _, .ident hv, _, _, _, hl, h => by
    rw [source_paren_append] at h
    exact absurd h.symm (ident_append_ne hv hl _)
  | _, _, .paren he, .paren hf, k, l, _, _, h => by
    rw [source_paren_append, source_paren_append] at h
    obtain ⟨rfl, behind⟩ := Clause.append_inj he hf (.paren k) (.paren l) (List.cons.inj h).2
    exact ⟨rfl, (List.cons.inj behind).2⟩
termination_by structural _ _ he => he

/-- The text of a clause determines it, and where it ends. -/
theorem Clause.append_inj : ∀ {e f : Expr}, Clause e → Clause f → ∀ {k l : List Char},
    EndsClause k → EndsClause l → e.source.toList ++ k = f.source.toList ++ l → e = f ∧ k = l
  | _, _, .closed he, .closed hf, _, _, hk, hl, h =>
    Closed.append_inj he hf hk.endsClosed hl.endsClosed h
  -- If only one of them is closed, the other one begins with it and goes on with a sign,
  -- which is not the colon that would end the closed one.
  | _, _, .closed he, .conditional hc _ _, _, _, hk, _, h => by
    rw [source_conditional_append] at h
    obtain ⟨-, rfl⟩ := Closed.append_inj he hc hk.endsClosed (endsClosed_blank _) h
    exact absurd (hk.sign_eq (by decide)) (by decide)
  | _, _, .closed he, .assign op ht _, _, _, hk, _, h => by
    rw [source_assign_append] at h
    obtain ⟨-, rfl⟩ := Closed.append_inj he ht hk.endsClosed (endsClosed_blank _) h
    exact absurd (hk.sign_eq (assignSign_spec op).1) (assignSign_spec op).2.2
  | _, _, .conditional hc _ _, .closed hf, _, _, _, hl, h => by
    rw [source_conditional_append] at h
    obtain ⟨-, rfl⟩ := Closed.append_inj hc hf (endsClosed_blank _) hl.endsClosed h
    exact absurd (hl.sign_eq (by decide)) (by decide)
  | _, _, .assign op ht _, .closed hf, _, _, _, hl, h => by
    rw [source_assign_append] at h
    obtain ⟨-, rfl⟩ := Closed.append_inj ht hf (endsClosed_blank _) hl.endsClosed h
    exact absurd (hl.sign_eq (assignSign_spec op).1) (assignSign_spec op).2.2
  | _, _, .conditional hc _ _, .assign op ht _, _, _, _, _, h => by
    rw [source_conditional_append, source_assign_append] at h
    obtain ⟨-, behind⟩ := Closed.append_inj hc ht (endsClosed_blank _) (endsClosed_blank _) h
    have sign := (sign_append_inj (by decide) (assignSign_spec op).1 behind).1
    exact absurd sign.symm (assignSign_spec op).2.1
  | _, _, .assign op ht _, .conditional hc _ _, _, _, _, _, h => by
    rw [source_conditional_append, source_assign_append] at h
    obtain ⟨-, behind⟩ := Closed.append_inj ht hc (endsClosed_blank _) (endsClosed_blank _) h
    have sign := (sign_append_inj (assignSign_spec op).1 (by decide) behind).1
    exact absurd sign (assignSign_spec op).2.1
  | _, _, .conditional hc ht hf, .conditional hc' ht' hf', _, _, hk, hl, h => by
    rw [source_conditional_append, source_conditional_append] at h
    obtain ⟨rfl, onTrue⟩ := Closed.append_inj hc hc' (endsClosed_blank _) (endsClosed_blank _) h
    obtain ⟨rfl, onFalse⟩ := Clause.append_inj ht ht' (.colon _) (.colon _)
      (sign_append_inj (by decide) (by decide) onTrue).2
    obtain ⟨rfl, behind⟩ := Clause.append_inj hf hf' hk hl
      (sign_append_inj (by decide) (by decide) onFalse).2
    exact ⟨rfl, behind⟩
  | _, _, .assign op ht hv, .assign op' ht' hv', _, _, hk, hl, h => by
    rw [source_assign_append, source_assign_append] at h
    obtain ⟨rfl, behind⟩ := Closed.append_inj ht ht' (endsClosed_blank _) (endsClosed_blank _) h
    obtain ⟨sign, value⟩ := sign_append_inj (assignSign_spec op).1 (assignSign_spec op').1 behind
    obtain rfl := assignSign_injective sign
    obtain ⟨rfl, rest⟩ := Clause.append_inj hv hv' hk hl value
    exact ⟨rfl, rest⟩
termination_by structural _ _ he => he

end

/-! ## The tree that is read -/

/-- What a tree becomes when something goes on behind it: its last part alone goes on. -/
def onTail (goOn : Expr → Expr) : Expr → Expr
  | .conditional cond onTrue onFalse => .conditional cond onTrue (onFalse.onTail goOn)
  | .assign op target value => .assign op target (value.onTail goOn)
  | e => goOn e
termination_by structural e => e

/-- The tree that is read from the text of a tree.  A condition and the target of an
assignment go on behind their last part. -/
def rightGrouped : Expr → Expr
  | .paren inner => .paren inner.rightGrouped
  | .conditional cond onTrue onFalse =>
    cond.rightGrouped.onTail (.conditional · onTrue.rightGrouped onFalse.rightGrouped)
  | .assign op target value => target.rightGrouped.onTail (.assign op · value.rightGrouped)
  | e => e
termination_by structural e => e

theorem Closed.onTail_eq {e : Expr} (h : Closed e) (goOn : Expr → Expr) :
    e.onTail goOn = goOn e := by
  cases h <;> rfl

section Tail

variable {goOn : Expr → Expr}

/-- What can go on behind a closed tree can go on behind the last part of a clause. -/
theorem Clause.onTail : ∀ {e : Expr}, Clause e → (∀ last, Closed last → Clause (goOn last)) →
    Clause (e.onTail goOn)
  | _, .closed he, h => by
    rw [he.onTail_eq]
    exact h _ he
  | _, .conditional hc ht hf, h => .conditional hc ht (Clause.onTail hf h)
  | _, .assign op ht hv, h => .assign op ht (Clause.onTail hv h)
termination_by structural _ he => he

theorem Clause.source_onTail {behind : List Char → List Char} : ∀ {e : Expr}, Clause e →
    (∀ last k, (goOn last).source.toList ++ k = last.source.toList ++ behind k) →
      ∀ k, (e.onTail goOn).source.toList ++ k = e.source.toList ++ behind k
  | _, .closed he, h, k => by
    rw [he.onTail_eq, h]
  | _, .conditional _ _ hf, h, k => by
    rw [Expr.onTail, source_conditional_append, Clause.source_onTail hf h,
      source_conditional_append]
  | _, .assign op _ hv, h, k => by
    rw [Expr.onTail, source_assign_append, Clause.source_onTail hv h, source_assign_append]
termination_by structural _ he => he

end Tail

/-- What is read from a text is a clause. -/
theorem clause_rightGrouped : ∀ e : Expr, e.isLoose = true → Clause e.rightGrouped
  | .ident _, h => .closed (.ident h)
  | .paren inner, h => .closed (.paren (clause_rightGrouped inner h))
  | .conditional cond onTrue onFalse, h => by
    rw [isLoose, Bool.and_eq_true, Bool.and_eq_true] at h
    exact (clause_rightGrouped cond h.1.1).onTail fun _ hl =>
      .conditional hl (clause_rightGrouped onTrue h.1.2) (clause_rightGrouped onFalse h.2)
  | .assign op target value, h => by
    rw [isLoose, Bool.and_eq_true] at h
    exact (clause_rightGrouped target h.1).onTail fun _ hl =>
      .assign op hl (clause_rightGrouped value h.2)
termination_by structural e => e

/-- The tree that is read has the text that it is read from. -/
theorem source_rightGrouped_append : ∀ (e : Expr) (k : List Char), e.isLoose = true →
    e.rightGrouped.source.toList ++ k = e.source.toList ++ k
  | .ident _, _, _ => rfl
  | .paren inner, k, h => by
    rw [rightGrouped, source_paren_append, source_paren_append,
      source_rightGrouped_append inner _ h]
  | .conditional cond onTrue onFalse, k, h => by
    rw [isLoose, Bool.and_eq_true, Bool.and_eq_true] at h
    rw [rightGrouped, (clause_rightGrouped cond h.1.1).source_onTail
      fun last k => source_conditional_append last _ _ k]
    rw [source_rightGrouped_append cond _ h.1.1, source_rightGrouped_append onTrue _ h.1.2,
      source_rightGrouped_append onFalse _ h.2, source_conditional_append]
  | .assign op target value, k, h => by
    rw [isLoose, Bool.and_eq_true] at h
    rw [rightGrouped, (clause_rightGrouped target h.1).source_onTail
      fun last k => source_assign_append op last _ k]
    rw [source_rightGrouped_append target _ h.1, source_rightGrouped_append value _ h.2,
      source_assign_append]
termination_by structural e => e

theorem source_rightGrouped {e : Expr} (h : e.isLoose = true) :
    e.rightGrouped.source = e.source := by
  have same := source_rightGrouped_append e [] h
  rw [List.append_nil, List.append_nil] at same
  exact String.toList_inj.1 same

mutual

theorem Closed.isLoose : ∀ {e : Expr}, Closed e → e.isLoose = true
  | _, .ident h => h
  | _, .paren he => by
    rw [Expr.isLoose, Clause.isLoose he]
termination_by structural _ he => he

theorem Clause.isLoose : ∀ {e : Expr}, Clause e → e.isLoose = true
  | _, .closed he => Closed.isLoose he
  | _, .conditional hc ht hf => by
    rw [Expr.isLoose, Closed.isLoose hc, Clause.isLoose ht, Clause.isLoose hf]
    rfl
  | _, .assign _ ht hv => by
    rw [Expr.isLoose, Closed.isLoose ht, Clause.isLoose hv]
    rfl
termination_by structural _ he => he

end

mutual

theorem Closed.rightGrouped_eq : ∀ {e : Expr}, Closed e → e.rightGrouped = e
  | _, .ident _ => rfl
  | _, .paren he => by
    rw [rightGrouped, Clause.rightGrouped_eq he]
termination_by structural _ he => he

/-- A clause is read as it is. -/
theorem Clause.rightGrouped_eq : ∀ {e : Expr}, Clause e → e.rightGrouped = e
  | _, .closed he => Closed.rightGrouped_eq he
  | _, .conditional hc ht hf => by
    rw [rightGrouped, Closed.rightGrouped_eq hc, hc.onTail_eq, Clause.rightGrouped_eq ht,
      Clause.rightGrouped_eq hf]
  | _, .assign _ ht hv => by
    rw [rightGrouped, Closed.rightGrouped_eq ht, ht.onTail_eq, Clause.rightGrouped_eq hv]
termination_by structural _ he => he

end

/-! ## Trees that are read as another one -/

/-- The characters of a text without its parentheses. -/
def bare (text : String) : List Char :=
  text.toList.filter fun c => c != '(' && c != ')'

theorem bare_append (s t : String) : bare (s ++ t) = bare s ++ bare t := by
  simp [bare]

/-- Trees that differ in parentheses only have texts that differ in parentheses only. -/
theorem bare_source_core : ∀ e : Expr, e.isLoose = true → bare e.core.source = bare e.source
  | .ident _, _ => rfl
  | .paren inner, h => by
    have brackets : bare "(" = [] ∧ bare ")" = [] := ⟨rfl, rfl⟩
    rw [core, bare_source_core inner h]
    simp [source, bare_append, brackets]
  | .conditional cond onTrue onFalse, h => by
    rw [isLoose, Bool.and_eq_true, Bool.and_eq_true] at h
    simp only [core, source, bare_append, bare_source_core cond h.1.1,
      bare_source_core onTrue h.1.2, bare_source_core onFalse h.2]
  | .assign op target value, h => by
    rw [isLoose, Bool.and_eq_true] at h
    simp only [core, source, bare_append, bare_source_core target h.1, bare_source_core value h.2]
termination_by structural e => e

/-- A tree is not the same as one whose text goes on behind it. -/
theorem core_ne_of_source_eq {c e : Expr} (hc : c.isLoose = true) (he : e.isLoose = true)
    {rest : List Char} (h : e.source.toList = c.source.toList ++ ' ' :: rest) :
    c.core ≠ e.core := by
  intro same
  have texts : bare c.source = bare e.source := by
    rw [← bare_source_core c hc, same, bare_source_core e he]
  rw [bare, bare, h, List.filter_append] at texts
  have goesOn := List.self_eq_append_right.1 texts
  cases goesOn

/-- The condition of a conditional, and the target of an assignment. -/
def head : Expr → Expr
  | .conditional cond _ _ => cond
  | .assign _ target _ => target
  | e => e

/-- What is read from the text of a tree is closed if the tree stays whole when it goes
on behind its last part. -/
theorem Clause.closed_of_core {r e : Expr} (hr : Clause r) (he : e.isLoose = true)
    (same : r.source = e.source) {goOn : Expr → Expr} (h : (r.onTail goOn).core.head = e.core) :
    Closed r := by
  cases hr with
  | closed hr => exact hr
  -- Otherwise the condition or target that is read is only the beginning of the tree.
  | @conditional cond onTrue onFalse hc ht hf =>
    have text := source_conditional_append cond onTrue onFalse []
    rw [List.append_nil, same] at text
    exact absurd h (core_ne_of_source_eq hc.isLoose he text)
  | @assign op target value ht hv =>
    have text := source_assign_append op target value []
    rw [List.append_nil, same] at text
    exact absurd h (core_ne_of_source_eq ht.isLoose he text)

/-- A tree that is read as the same tree is a clause. -/
theorem clause_of_core : ∀ e : Expr, e.isLoose = true → e.rightGrouped.core = e.core → Clause e
  | .ident _, h, _ => .closed (.ident h)
  | .paren inner, h, same => .closed (.paren (clause_of_core inner h same))
  | .conditional cond onTrue onFalse, h, same => by
    rw [isLoose, Bool.and_eq_true, Bool.and_eq_true] at h
    have closed : Closed cond.rightGrouped := (clause_rightGrouped cond h.1.1).closed_of_core
      h.1.1 (source_rightGrouped h.1.1) (congrArg head same)
    rw [rightGrouped, closed.onTail_eq, core, core, conditional.injEq] at same
    rw [(clause_of_core cond h.1.1 same.1).rightGrouped_eq] at closed
    exact .conditional closed (clause_of_core onTrue h.1.2 same.2.1)
      (clause_of_core onFalse h.2 same.2.2)
  | .assign op target value, h, same => by
    rw [isLoose, Bool.and_eq_true] at h
    have closed : Closed target.rightGrouped := (clause_rightGrouped target h.1).closed_of_core
      h.1 (source_rightGrouped h.1) (congrArg head same)
    rw [rightGrouped, closed.onTail_eq, core, core, assign.injEq] at same
    rw [(clause_of_core target h.1 same.2.1).rightGrouped_eq] at closed
    exact .assign op closed (clause_of_core value h.2 same.2.2)
termination_by structural e => e

/-- Trees of names, parentheses, conditionals and assignments are regrouped by their
texts. -/
theorem regrouping_rightGrouped : Regrouping (·.isLoose = true) Clause rightGrouped where
  kind_of_grouped := Clause.isLoose
  grouped_regroup h := clause_rightGrouped _ h
  source_regroup := source_rightGrouped
  regroup_eq_self := Clause.rightGrouped_eq
  grouped_of_core_eq h := clause_of_core _ h
  eq_of_source_eq he hf same := (Clause.append_inj he hf .nil .nil (by rw [same])).1

/-! ## What the text tells apart -/

/-- **A tree of names, parentheses, conditionals and assignments is told apart by its
text when no condition and no target is a conditional or an assignment.**  Two such
trees have one text exactly when one tree is read from both.  If the second of them is
grouped as it is read, the first is the same tree up to parentheses exactly when it is
grouped so too.  And a tree that is not has the text of another tree. -/
theorem core_eq_iff_of_isLoose {e f : Expr} (he : e.isLoose = true) (hf : f.isLoose = true) :
    (e.source = f.source ↔ e.rightGrouped = f.rightGrouped) ∧
    (e.source = f.source → f.Clause → (e.core = f.core ↔ e.Clause)) ∧
    (¬ e.Clause → ∃ g : Expr, g.isLoose = true ∧ g.Clause ∧ g.source = e.source
      ∧ g.core ≠ e.core) :=
  ⟨regrouping_rightGrouped.source_eq_iff he hf, regrouping_rightGrouped.core_eq_iff he hf,
    regrouping_rightGrouped.exists_source_eq he⟩

/-- A conditional as the target of an assignment has the text of an assignment in the last
part of a conditional, and is another tree. -/
theorem core_eq_iff_of_isLoose_target :
    (assign (some .add) (conditional (.ident "a") (.ident "b") (.ident "c")) (.ident "d")).source
        = (conditional (.ident "a") (.ident "b")
          (assign (some .add) (.ident "c") (.ident "d"))).source ∧
      (assign (some .add) (conditional (.ident "a") (.ident "b") (.ident "c"))
        (.ident "d")).core
        ≠ (conditional (.ident "a") (.ident "b")
          (assign (some .add) (.ident "c") (.ident "d"))).core := by
  have name {name : String} (h : isFreeOf nameLimits name = true) : Clause (.ident name) :=
    .closed (.ident h)
  have tells := core_eq_iff_of_isLoose
    (e := assign (some .add) (conditional (.ident "a") (.ident "b") (.ident "c")) (.ident "d"))
    (f := conditional (.ident "a") (.ident "b") (assign (some .add) (.ident "c") (.ident "d")))
    rfl rfl
  have same := tells.1.2 rfl
  have grouped : Clause (conditional (.ident "a") (.ident "b")
      (assign (some .add) (.ident "c") (.ident "d"))) :=
    .conditional (.ident rfl) (name rfl) (.assign _ (.ident rfl) (name rfl))
  refine ⟨same, fun cores => ?_⟩
  cases (tells.2.1 same grouped).1 cores with
  | closed h => cases h
  | assign op head value => cases head

/-- A conditional as the condition of another one has the text of a conditional as its
last part. -/
theorem source_nested_conditional :
    (Expr.conditional (.conditional (.ident "a") (.ident "b") (.ident "c")) (.ident "d")
        (.ident "e")).source
        = (Expr.conditional (.ident "a") (.ident "b")
          (.conditional (.ident "c") (.ident "d") (.ident "e"))).source ∧
      (Expr.conditional (.conditional (.ident "a") (.ident "b") (.ident "c")) (.ident "d")
        (.ident "e")).core
        ≠ (Expr.conditional (.ident "a") (.ident "b")
          (.conditional (.ident "c") (.ident "d") (.ident "e"))).core := by
  refine ⟨rfl, fun same => ?_⟩
  cases same

end Expr

end ShaderLowering
