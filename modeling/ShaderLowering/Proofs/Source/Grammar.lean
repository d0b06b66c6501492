import ShaderLowering.Proofs.Source.Token
import ShaderLowering.Tree.Build

/-!
# The grammar of formulas

The grammar that C gives to names, numbers and parentheses, accesses, indices and
calls, and binary operators, and a parser for it.  The grammar has one level for
each binding strength of an operator: its left operand is of the same level and its
right operand of the next one, so that operators of one strength group to the left.
Parentheses leave no trace in the tree.

The parser reads one token after another.  It keeps the operands that wait for
what stands to the right of their operators, apart for every open bracket, and puts
them together as soon as an operator that binds no tighter comes, or the bracket is
closed.

## Main definitions

* `Derives`, `Several` — the grammar, level by level.
* `State`, `step`, `parse` — the parser.
* `Reads`, `read` — the tree of a text, by the grammar and by the parser.

## Main statements

* `parse_eq_some_iff` — the parser reads what the grammar derives, and nothing else.
-/

namespace ShaderLowering.Formula

/-! ## The grammar -/

/-- The level of what binds tighter than every operator. -/
def primary : Nat := 11

theorem precedence_lt_primary (op : Binary) : op.precedence < primary := by
  cases op <;> decide

mutual

/-- The tokens of an expression in which every operator outside brackets binds at
least as tightly as a level says. -/
inductive Derives : Nat → List Token → Expr → Prop where
  | name (x : String) : Derives primary [.name x] (.ident x)
  | number (value : Literal) : Derives primary [.number value] (.literal value)
  | group {ts : List Token} {e : Expr} : Derives 0 ts e →
      Derives primary (.leftParen :: (ts ++ [.rightParen])) e
  | member {ts : List Token} {target : Expr} (x : String) : Derives primary ts target →
      Derives primary (ts ++ [.dot, .name x]) (.access target x)
  | index {ts us : List Token} {target position : Expr} : Derives primary ts target →
      Derives 0 us position →
      Derives primary (ts ++ .leftBracket :: (us ++ [.rightBracket])) (.index target position)
  | callNone {ts : List Token} {callee : Expr} : Derives primary ts callee →
      Derives primary (ts ++ [.leftParen, .rightParen]) (.call callee [])
  | call {ts us : List Token} {callee : Expr} {args : List Expr} : Derives primary ts callee →
      Several us args →
      Derives primary (ts ++ .leftParen :: (us ++ [.rightParen])) (.call callee args)
  | binary {ts us : List Token} {lhs rhs : Expr} (op : Binary) : Derives op.precedence ts lhs →
      Derives (op.precedence + 1) us rhs →
      Derives op.precedence (ts ++ .operator op :: us) (.binary op lhs rhs)
  | tighter {k : Nat} {ts : List Token} {e : Expr} : Derives (k + 1) ts e → Derives k ts e

/-- The tokens of one or more expressions with commas between them. -/
inductive Several : List Token → List Expr → Prop where
  | one {ts : List Token} {e : Expr} : Derives 0 ts e → Several ts [e]
  | more {ts us : List Token} {es : List Expr} {e : Expr} : Several ts es → Derives 0 us e →
      Several (ts ++ .comma :: us) (es ++ [e])

end

/-- What binds tightly can stand where looser forms can. -/
theorem Derives.mono {j k : Nat} {ts : List Token} {e : Expr} (h : Derives k ts e)
    (hjk : j ≤ k) : Derives j ts e := by
  induction hjk with
  | refl => exact h
  | step _ ih => exact ih h.tighter

theorem Several.ne_nil {ts : List Token} {es : List Expr} (h : Several ts es) : es ≠ [] := by
  cases h <;> simp

/-! ## The parser -/

/-- Operands with the operators behind them that wait for what stands to their right,
the last one first. -/
abbrev Pending := List (Expr × Binary)

/-- What an open bracket belongs to. -/
inductive Bracket where
  | group
  | arguments (callee : Expr) (read : List Expr)
  | position (target : Expr)

/-- An open bracket, and what waits in front of it. -/
structure Frame where
  bracket : Bracket
  pending : Pending

/-- Where the parser stands: in front of an operand, behind a primary, or behind the
dot of an access; with what waits since the last open bracket, and the open brackets,
the last one first. -/
inductive State where
  | operand (pending : Pending) (outer : List Frame)
  | behind (e : Expr) (pending : Pending) (outer : List Frame)
  | dotted (target : Expr) (pending : Pending) (outer : List Frame)

/-- What has been read since the last open bracket, as one expression. -/
def complete : Expr → Pending → Expr
  | e, [] => e
  | e, (lhs, op) :: pending => complete (.binary op lhs e) pending

/-- What has been read, as an expression of a level, and what still waits in front of
it. -/
def reduce (k : Nat) : Expr → Pending → Expr × Pending
  | e, [] => (e, [])
  | e, (lhs, op) :: pending =>
    if k ≤ op.precedence then reduce k (.binary op lhs e) pending else (e, (lhs, op) :: pending)

/-- One token. -/
def step : State → Token → Option State
  | .operand p f, .name x => some (.behind (.ident x) p f)
  | .operand p f, .number value => some (.behind (.literal value) p f)
  | .operand p f, .leftParen => some (.operand [] (⟨.group, p⟩ :: f))
  | .operand [] (⟨.arguments callee [], p⟩ :: f), .rightParen =>
    some (.behind (.call callee []) p f)
  | .behind e p f, .operator op =>
    some (.operand (((reduce op.precedence e p).1, op) :: (reduce op.precedence e p).2) f)
  | .behind e p f, .dot => some (.dotted e p f)
  | .dotted e p f, .name x => some (.behind (.access e x) p f)
  | .behind e p f, .leftParen => some (.operand [] (⟨.arguments e [], p⟩ :: f))
  | .behind e p f, .leftBracket => some (.operand [] (⟨.position e, p⟩ :: f))
  | .behind e p (⟨.group, q⟩ :: f), .rightParen => some (.behind (complete e p) q f)
  | .behind e p (⟨.arguments callee read, q⟩ :: f), .rightParen =>
    some (.behind (.call callee (read ++ [complete e p])) q f)
  | .behind e p (⟨.arguments callee read, q⟩ :: f), .comma =>
    some (.operand [] (⟨.arguments callee (read ++ [complete e p]), q⟩ :: f))
  | .behind e p (⟨.position target, q⟩ :: f), .rightBracket =>
    some (.behind (.index target (complete e p)) q f)
  | _, _ => none

/-- Several tokens. -/
def run (s : State) (ts : List Token) : Option State :=
  ts.foldlM step s

/-- The expression that has been read, when no bracket is open. -/
def State.result? : State → Option Expr
  | .behind e p [] => some (complete e p)
  | _ => none

/-- The expression of tokens. -/
def parse (ts : List Token) : Option Expr :=
  (run (.operand [] []) ts).bind State.result?

theorem run_cons (s : State) (t : Token) (ts : List Token) :
    run s (t :: ts) = (step s t).bind (run · ts) := rfl

/-- A run goes on behind a token. -/
theorem run_of_step {s s' : State} {t : Token} (h : step s t = some s') (ts : List Token) :
    run s (t :: ts) = run s' ts := by
  rw [run_cons, h, Option.bind_some]

/-- A run goes on behind a run. -/
theorem run_of_run {s s' : State} {ts : List Token} (h : run s ts = some s') (us : List Token) :
    run s (ts ++ us) = run s' us := by
  rw [run, List.foldlM_append]
  exact congrArg (Option.bind · (run · us)) h

/-! ## What the grammar derives is read -/

/-- What waits in front of an operand binds looser than a level says. -/
def Looser (p : Pending) (k : Nat) : Prop :=
  ∀ x ∈ p.head?, x.2.precedence < k

theorem Looser.nil (k : Nat) : Looser [] k := by
  intro x hx
  cases hx

theorem Looser.cons {op : Binary} {k : Nat} (h : op.precedence < k) (lhs : Expr) (p : Pending) :
    Looser ((lhs, op) :: p) k := by
  intro x hx
  cases hx
  exact h

theorem Looser.mono {p : Pending} {j k : Nat} (h : Looser p j) (hjk : j ≤ k) : Looser p k :=
  fun x hx => Nat.lt_of_lt_of_le (h x hx) hjk

/-- What binds as tightly as a level is put together, and what binds looser waits on. -/
theorem reduce_append {k : Nat} {p : Pending} (hp : Looser p k) : ∀ {spine : Pending} {tip : Expr},
    (∀ x ∈ spine, k ≤ x.2.precedence) → reduce k tip (spine ++ p) = (complete tip spine, p) := by
  intro spine
  induction spine with
  | nil =>
    intro tip _
    cases p with
    | nil => rfl
    | cons x p =>
      obtain ⟨lhs, op⟩ := x
      exact if_neg (Nat.not_le_of_lt (hp _ rfl))
  | cons x spine ih =>
    intro tip tight
    obtain ⟨lhs, op⟩ := x
    rw [List.cons_append, reduce, if_pos (tight _ (.head _)),
      ih fun x hx => tight x (.tail _ hx), complete]

theorem complete_append (tip : Expr) (p q : Pending) :
    complete tip (p ++ q) = complete (complete tip p) q := by
  induction p generalizing tip with
  | nil => rfl
  | cons x p ih => rw [List.cons_append, complete, complete, ih]

/-- Reading tokens in front of an operand leads behind an expression of a level: its
last primary has just been read, and operators of the level wait in front of that. -/
def Arrives (k : Nat) (ts : List Token) (e : Expr) : Prop :=
  ∀ p f, Looser p k → ∃ tip spine, complete tip spine = e ∧ (∀ x ∈ spine, k ≤ x.2.precedence) ∧
    run (.operand p f) ts = some (.behind tip (spine ++ p) f)

namespace Arrives

variable {ts us : List Token} {e : Expr}

theorem primary_iff : Arrives primary ts e ↔
    ∀ p f, run (.operand p f) ts = some (.behind e p f) := by
  constructor
  · intro h p f
    have loose : Looser p primary := fun x _ => precedence_lt_primary x.2
    obtain ⟨tip, spine, rfl, tight, hr⟩ := h p f loose
    cases spine with
    | nil => exact hr
    | cons x spine =>
      exact absurd (tight x (.head _)) (Nat.not_le_of_lt (precedence_lt_primary x.2))
  · intro h p f _
    exact ⟨e, [], rfl, fun x hx => (List.not_mem_nil hx).elim, h p f⟩

/-- Inside a bracket nothing waits. -/
theorem inside (h : Arrives 0 ts e) (f : List Frame) : ∃ tip spine, complete tip spine = e ∧
    run (.operand [] f) ts = some (.behind tip spine f) := by
  obtain ⟨tip, spine, he, -, hr⟩ := h [] f (.nil 0)
  exact ⟨tip, spine, he, by rw [hr, List.append_nil]⟩

end Arrives

mutual

-- By induction on the derivation.  Around an operator the level carries the proof: the
-- left operand is put together when the operator comes, because what waits in front of it
-- binds looser, and the operator waits while the right operand is read, because that is of
-- the next level.
theorem Derives.arrives : ∀ {k : Nat} {ts : List Token} {e : Expr}, Derives k ts e →
    Arrives k ts e
  | _, _, _, .name x => Arrives.primary_iff.2 fun p f => rfl
  | _, _, _, .number value => Arrives.primary_iff.2 fun p f => rfl
  | _, _, _, .group h => by
    refine Arrives.primary_iff.2 fun p f => ?_
    obtain ⟨tip, spine, he, hr⟩ := h.arrives.inside (⟨.group, p⟩ :: f)
    rw [run_of_step rfl, run_of_run hr, ← he]
    rfl
  | _, _, _, .member x h => by
    refine Arrives.primary_iff.2 fun p f => ?_
    rw [run_of_run (Arrives.primary_iff.1 h.arrives p f)]
    rfl
  | _, _, _, .index h h' => by
    refine Arrives.primary_iff.2 fun p f => ?_
    obtain ⟨tip, spine, he, hr⟩ := h'.arrives.inside (⟨.position _, p⟩ :: f)
    rw [run_of_run (Arrives.primary_iff.1 h.arrives p f), run_of_step rfl, run_of_run hr, ← he]
    rfl
  | _, _, _, .callNone h => by
    refine Arrives.primary_iff.2 fun p f => ?_
    rw [run_of_run (Arrives.primary_iff.1 h.arrives p f)]
    rfl
  | _, _, _, .call h h' => by
    refine Arrives.primary_iff.2 fun p f => ?_
    obtain ⟨tip, spine, read, hes, hr⟩ := h'.arrives _ p f
    rw [run_of_run (Arrives.primary_iff.1 h.arrives p f), run_of_step rfl, run_of_run hr, ← hes]
    rfl
  | _, _, _, .binary op h h' => by
    intro p f loose
    obtain ⟨tip, spine, rfl, tight, hr⟩ := h.arrives p f loose
    obtain ⟨tip', spine', rfl, tight', hr'⟩ := h'.arrives ((complete tip spine, op) :: p) f
      (.cons (Nat.lt_succ_self _) _ _)
    refine ⟨tip', spine' ++ [(complete tip spine, op)], by rw [complete_append]; rfl, ?_, ?_⟩
    · intro x hx
      rcases List.mem_append.1 hx with hx | hx
      · exact Nat.le_of_succ_le (tight' x hx)
      · cases List.mem_singleton.1 hx
        exact Nat.le_refl _
    · rw [run_of_run hr, run_of_step rfl, reduce_append loose tight, hr', List.append_assoc]
      rfl
  | _, _, _, .tighter h => by
    intro p f loose
    obtain ⟨tip, spine, he, tight, hr⟩ := h.arrives p f (loose.mono (Nat.le_succ _))
    exact ⟨tip, spine, he, fun x hx => Nat.le_of_succ_le (tight x hx), hr⟩
termination_by structural _ _ _ h => h

theorem Several.arrives : ∀ {ts : List Token} {es : List Expr}, Several ts es →
    ∀ (callee : Expr) (p : Pending) (f : List Frame), ∃ tip spine read,
      read ++ [complete tip spine] = es ∧
      run (.operand [] (⟨.arguments callee [], p⟩ :: f)) ts
        = some (.behind tip spine (⟨.arguments callee read, p⟩ :: f))
  | _, _, .one h => by
    intro callee p f
    obtain ⟨tip, spine, rfl, hr⟩ := h.arrives.inside (⟨.arguments callee [], p⟩ :: f)
    exact ⟨tip, spine, [], rfl, hr⟩
  | _, _, .more h h' => by
    intro callee p f
    obtain ⟨tip, spine, read, rfl, hr⟩ := h.arrives callee p f
    obtain ⟨tip', spine', rfl, hr'⟩ := h'.arrives.inside
      (⟨.arguments callee (read ++ [complete tip spine]), p⟩ :: f)
    refine ⟨tip', spine', read ++ [complete tip spine], rfl, ?_⟩
    rw [run_of_run hr, run_of_step rfl, hr']
termination_by structural _ _ h => h

end

/-- What the grammar derives is read. -/
theorem Derives.parse_eq {ts : List Token} {e : Expr} (h : Derives 0 ts e) :
    parse ts = some e := by
  obtain ⟨tip, spine, rfl, hr⟩ := h.arrives.inside []
  rw [parse, hr]
  rfl

/-! ## What is read is derived by the grammar -/

/-- Tokens that lead to what waits. -/
inductive Waits : Pending → List Token → Prop where
  | nil : Waits [] []
  | cons {p : Pending} {ts us : List Token} {lhs : Expr} {op : Binary} : Waits p ts →
      Looser p op.precedence → Derives op.precedence us lhs →
      Waits ((lhs, op) :: p) (ts ++ us ++ [.operator op])

/-- Tokens that lead into a bracket, up to the next argument. -/
inductive Opens : Bracket → List Token → Prop where
  | group : Opens .group [.leftParen]
  | callee {ts : List Token} {callee : Expr} : Derives primary ts callee →
      Opens (.arguments callee []) (ts ++ [.leftParen])
  | comma {ts us : List Token} {callee : Expr} {es : List Expr} : Derives primary ts callee →
      Several us es → Opens (.arguments callee es) (ts ++ .leftParen :: (us ++ [.comma]))
  | target {ts : List Token} {target : Expr} : Derives primary ts target →
      Opens (.position target) (ts ++ [.leftBracket])

/-- What stands in front of an argument, and the argument. -/
theorem Opens.argument {callee e : Expr} {es : List Expr} {ts us : List Token}
    (h : Opens (.arguments callee es) ts) (he : Derives 0 us e) :
    ∃ vs ws, Derives primary vs callee ∧ Several ws (es ++ [e]) ∧
      ts ++ us = vs ++ .leftParen :: ws := by
  cases h with
  | callee hc => exact ⟨_, us, hc, .one he, by simp⟩
  | comma hc hes => exact ⟨_, _, hc, .more hes he, by simp⟩

/-- Tokens that lead into open brackets. -/
inductive Encloses : List Frame → List Token → Prop where
  | nil : Encloses [] []
  | cons {f : List Frame} {b : Bracket} {p : Pending} {ts us vs : List Token} : Encloses f ts →
      Waits p us → Opens b vs → Encloses (⟨b, p⟩ :: f) (ts ++ us ++ vs)

/-- Tokens that lead to a state. -/
def State.Read : State → List Token → Prop
  | .operand p f, ts => ∃ us vs, Encloses f us ∧ Waits p vs ∧ ts = us ++ vs
  | .behind e p f, ts =>
    ∃ us vs ws, Encloses f us ∧ Waits p vs ∧ Derives primary ws e ∧ ts = us ++ vs ++ ws
  | .dotted e p f, ts =>
    ∃ us vs ws, Encloses f us ∧ Waits p vs ∧ Derives primary ws e ∧ ts = us ++ vs ++ ws ++ [.dot]

/-- What waits is completed by an operand that binds tighter. -/
theorem Waits.complete {p : Pending} {ts : List Token} (h : Waits p ts) : ∀ {k : Nat}
    {us : List Token} {e : Expr}, Looser p k → Derives k us e →
      Derives 0 (ts ++ us) (complete e p) := by
  induction h with
  | nil => exact fun _ he => he.mono (Nat.zero_le _)
  | @cons p ts vs lhs op _ loose hl ih =>
    intro k us e hk he
    have joined := Derives.binary op hl (he.mono (hk _ rfl))
    simpa [Formula.complete] using ih loose joined

/-- What waits is put together up to a level. -/
theorem Waits.reduce {p : Pending} {ts : List Token} (h : Waits p ts) (k : Nat) : ∀ {j : Nat}
    {us : List Token} {e : Expr}, Looser p j → k ≤ j → Derives j us e →
      ∃ ts' us', Waits (reduce k e p).2 ts' ∧ Looser (reduce k e p).2 k ∧
        Derives k us' (reduce k e p).1 ∧ ts ++ us = ts' ++ us' := by
  induction h with
  | nil => exact fun _ hkj he => ⟨[], _, .nil, .nil k, he.mono hkj, rfl⟩
  | @cons p ts vs lhs op hp loose hl ih =>
    intro j us e hj hkj he
    rw [Formula.reduce]
    split
    · next tight =>
      have joined := Derives.binary op hl (he.mono (hj _ rfl))
      obtain ⟨ts', us', hw, hloose, hd, same⟩ := ih loose tight joined
      exact ⟨ts', us', hw, hloose, hd, by rw [← same]; simp⟩
    · next looser =>
      exact ⟨_, us, .cons hp loose hl, .cons (Nat.lt_of_not_le looser) _ _, he.mono hkj, rfl⟩

namespace State.Read

variable {e : Expr} {p q : Pending} {b : Bracket} {f : List Frame} {s s' : State}
  {ts : List Token} {t : Token}

/-- Behind a primary, what has been read since the last open bracket is an expression. -/
theorem completed (h : (State.behind e p f).Read ts) :
    ∃ us vs, Encloses f us ∧ Derives 0 vs (complete e p) ∧ ts = us ++ vs := by
  obtain ⟨us, vs, ws, hf, hp, he, rfl⟩ := h
  have loose : Looser p primary := fun x _ => precedence_lt_primary x.2
  exact ⟨us, vs ++ ws, hf, hp.complete loose he, List.append_assoc ..⟩

/-- Behind a primary in a bracket, that is the expression in the bracket. -/
theorem inside (h : (State.behind e p (⟨b, q⟩ :: f)).Read ts) :
    ∃ us vs ws xs, Encloses f us ∧ Waits q vs ∧ Opens b ws ∧ Derives 0 xs (complete e p) ∧
      ts = us ++ vs ++ ws ++ xs := by
  obtain ⟨_, xs, hf, he, rfl⟩ := h.completed
  cases hf with
  | cons hf hq hb => exact ⟨_, _, _, xs, hf, hq, hb, he, rfl⟩

/-- A parenthesis right behind the one that opens a call closes it. -/
theorem rightParen_operand (h : (State.operand p f).Read ts)
    (hs : Formula.step (.operand p f) .rightParen = some s') :
    s'.Read (ts ++ [.rightParen]) := by
  obtain ⟨us, vs, hf, hp, rfl⟩ := h
  match p, f, hs with
  | [], ⟨.arguments callee [], q⟩ :: f, rfl =>
    cases hp
    cases hf with
    | cons hf hq hb =>
      cases hb with
      | callee hc => exact ⟨_, _, _, hf, hq, .callNone hc, by simp⟩
      | comma _ hes => exact (hes.ne_nil rfl).elim

/-- A step in front of an operand. -/
theorem step_operand (h : (State.operand p f).Read ts)
    (hs : Formula.step (.operand p f) t = some s') : s'.Read (ts ++ [t]) := by
  cases t with
  | rightParen => exact h.rightParen_operand hs
  | name x =>
    obtain ⟨us, vs, hf, hp, rfl⟩ := h
    cases hs
    exact ⟨us, vs, _, hf, hp, .name x, rfl⟩
  | number value =>
    obtain ⟨us, vs, hf, hp, rfl⟩ := h
    cases hs
    exact ⟨us, vs, _, hf, hp, .number value, rfl⟩
  | leftParen =>
    obtain ⟨us, vs, hf, hp, rfl⟩ := h
    cases hs
    exact ⟨_, [], .cons hf hp .group, .nil, by simp⟩
  | operator | leftBracket | rightBracket | comma | dot => cases hs

/-- A parenthesis behind a primary ends a group or the arguments of a call. -/
theorem rightParen_behind (h : (State.behind e p f).Read ts)
    (hs : Formula.step (.behind e p f) .rightParen = some s') :
    s'.Read (ts ++ [.rightParen]) := by
  match f, hs with
  | ⟨.group, q⟩ :: f, rfl =>
    obtain ⟨us, vs, ws, xs, hf, hq, hb, he, rfl⟩ := h.inside
    cases hb with
    | group => exact ⟨us, vs, _, hf, hq, .group he, by simp⟩
  | ⟨.arguments callee read, q⟩ :: f, rfl =>
    obtain ⟨us, vs, ws, xs, hf, hq, hb, he, rfl⟩ := h.inside
    obtain ⟨_, _, hc, hes, same⟩ := hb.argument he
    exact ⟨us, vs, _, hf, hq, .call hc hes, by simp [same]⟩

/-- A bracket behind a primary ends an index. -/
theorem rightBracket_behind (h : (State.behind e p f).Read ts)
    (hs : Formula.step (.behind e p f) .rightBracket = some s') :
    s'.Read (ts ++ [.rightBracket]) := by
  match f, hs with
  | ⟨.position target, q⟩ :: f, rfl =>
    obtain ⟨us, vs, ws, xs, hf, hq, hb, he, rfl⟩ := h.inside
    cases hb with
    | target ht => exact ⟨us, vs, _, hf, hq, .index ht he, by simp⟩

/-- A comma behind a primary ends an argument of a call. -/
theorem comma_behind (h : (State.behind e p f).Read ts)
    (hs : Formula.step (.behind e p f) .comma = some s') : s'.Read (ts ++ [.comma]) := by
  match f, hs with
  | ⟨.arguments callee read, q⟩ :: f, rfl =>
    obtain ⟨us, vs, ws, xs, hf, hq, hb, he, rfl⟩ := h.inside
    obtain ⟨_, _, hc, hes, same⟩ := hb.argument he
    exact ⟨_, [], .cons hf hq (.comma hc hes), .nil, by simp [same]⟩

/-- An operator puts together what binds at least as tightly, and waits in its turn. -/
theorem operator_behind (h : (State.behind e p f).Read ts) (op : Binary) :
    (State.operand (((reduce op.precedence e p).1, op) :: (reduce op.precedence e p).2) f).Read
      (ts ++ [.operator op]) := by
  obtain ⟨us, vs, ws, hf, hp, he, rfl⟩ := h
  have loose : Looser p primary := fun x _ => precedence_lt_primary x.2
  obtain ⟨vs', ws', hw, hloose, hd, same⟩ :=
    hp.reduce op.precedence loose (Nat.le_of_lt (precedence_lt_primary op)) he
  refine ⟨us, _, hf, .cons hw hloose hd, ?_⟩
  rw [List.append_assoc us, same, List.append_assoc]

/-- A step behind a primary. -/
theorem step_behind (h : (State.behind e p f).Read ts)
    (hs : Formula.step (.behind e p f) t = some s') : s'.Read (ts ++ [t]) := by
  cases t with
  | rightParen => exact h.rightParen_behind hs
  | rightBracket => exact h.rightBracket_behind hs
  | comma => exact h.comma_behind hs
  | operator op =>
    cases hs
    exact h.operator_behind op
  | dot =>
    obtain ⟨us, vs, ws, hf, hp, he, rfl⟩ := h
    cases hs
    exact ⟨us, vs, ws, hf, hp, he, rfl⟩
  | leftParen =>
    obtain ⟨us, vs, ws, hf, hp, he, rfl⟩ := h
    cases hs
    exact ⟨_, [], .cons hf hp (.callee he), .nil, by simp⟩
  | leftBracket =>
    obtain ⟨us, vs, ws, hf, hp, he, rfl⟩ := h
    cases hs
    exact ⟨_, [], .cons hf hp (.target he), .nil, by simp⟩
  | name | number => cases hs

/-- A step behind the dot of an access. -/
theorem step_dotted (h : (State.dotted e p f).Read ts)
    (hs : Formula.step (.dotted e p f) t = some s') : s'.Read (ts ++ [t]) := by
  cases t with
  | name x =>
    obtain ⟨us, vs, ws, hf, hp, he, rfl⟩ := h
    cases hs
    exact ⟨us, vs, _, hf, hp, .member x he, by simp⟩
  | number | operator | leftParen | rightParen | leftBracket | rightBracket | comma | dot =>
    cases hs

/-- What a step leads to has been read with one token more. -/
theorem step (h : s.Read ts) (hs : Formula.step s t = some s') : s'.Read (ts ++ [t]) := by
  cases s with
  | operand p f => exact h.step_operand hs
  | behind e p f => exact h.step_behind hs
  | dotted e p f => exact h.step_dotted hs

/-- What a run leads to has been read with its tokens. -/
theorem run {us : List Token} (h : s.Read ts) (hs : Formula.run s us = some s') :
    s'.Read (ts ++ us) := by
  induction us generalizing s ts with
  | nil =>
    cases hs
    rwa [List.append_nil]
  | cons u us ih =>
    rw [run_cons, Option.bind_eq_some_iff] at hs
    obtain ⟨s₁, first, others⟩ := hs
    rw [← List.singleton_append, ← List.append_assoc]
    exact ih (h.step first) others

end State.Read

/-- What is read is derived by the grammar. -/
theorem derives_of_parse_eq {ts : List Token} {e : Expr} (h : parse ts = some e) :
    Derives 0 ts e := by
  rw [parse, Option.bind_eq_some_iff] at h
  obtain ⟨s, hr, he⟩ := h
  have start : (State.operand [] []).Read [] := ⟨[], [], .nil, .nil, rfl⟩
  have read := start.run hr
  match s, he with
  | .behind e p [], rfl =>
    obtain ⟨us, vs, hf, hd, same⟩ := read.completed
    cases hf
    rwa [← List.nil_append ts, same, List.nil_append]

/-- **The parser reads what the grammar derives, and nothing else.** -/
theorem parse_eq_some_iff {ts : List Token} {e : Expr} : parse ts = some e ↔ Derives 0 ts e :=
  ⟨derives_of_parse_eq, Derives.parse_eq⟩

/-! ## Texts -/

/-- The grammar gives a tree to a text. -/
def Reads (text : String) (e : Expr) : Prop :=
  ∃ ts, lex text.toList = some ts ∧ Derives 0 ts e

/-- The tree of a text. -/
def read (text : String) : Option Expr :=
  (lex text.toList).bind parse

theorem read_eq_some_iff {text : String} {e : Expr} : read text = some e ↔ Reads text e := by
  simp only [read, Reads, Option.bind_eq_some_iff, parse_eq_some_iff]

end ShaderLowering.Formula
