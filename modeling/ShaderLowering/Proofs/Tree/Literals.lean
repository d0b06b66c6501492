import ShaderLowering.Proofs.Tree.Templates

/-!
# Walks over literals

A walk that does something at each literal and nothing anywhere else visits the
literals of a tree once each, in a fixed order, and puts what it is given for them in
their places: it fills the tree's template.  Walks are put together as templates are,
so there is one law for each way of putting them together, and the walk over a tree
follows its form.

## Main definitions

* `Visitor.onLiterals` — the visitor that handles literals.
* `Traverses` — a walk handles the literals of a template and fills it.
* `Handled` — several literals handled one after the other.

## Main statements

* `Fragment.traverses` — walks over literals fill templates, in any monad.
* `visit_onLiterals_spec` — walks over literals, with states and errors.
-/

namespace ShaderLowering

/-- The visitor that handles each literal and changes nothing else. -/
def Visitor.onLiterals {m : Type → Type} [Monad m] (h : Literal → m Expr) : Visitor m :=
  { Visitor.rebuild m with
    expr := fun e children => match e with
      | .literal value => h value
      | _ => children }

/-! ## Walks fill templates -/

variable {m : Type → Type} [Monad m] [LawfulMonad m] {h : Literal → m Expr} {α β γ δ ε : Type}

/-- What follows after some literals may rely on there being as many results. -/
theorem bind_mapM_congr {ls : List Literal} {k k' : List Expr → m α}
    (agree : ∀ es, es.length = ls.length → k es = k' es) :
    ls.mapM h >>= k = ls.mapM h >>= k' := by
  induction ls generalizing k k' with
  | nil => simpa using agree [] rfl
  | cons l ls ih =>
    simp only [List.mapM_cons, bind_assoc, pure_bind]
    congr 1
    funext e
    exact ih fun es length_eq => agree (e :: es) (by rw [List.length_cons, length_eq]; rfl)

/-- Whether a walk handles the literals of a template in their order, and puts the
results in their places. -/
def Traverses (h : Literal → m Expr) (t : Template α) (x : m α) : Prop :=
  x = t.fill <$> t.literals.mapM h

namespace Traverses

theorem of_pure (a : α) : Traverses h (pure a) (pure a) := by
  change pure a = (fun _ => a) <$> [].mapM h
  simp

/-- A walk handles a literal that it meets. -/
theorem of_literal (l : Literal) :
    Traverses h (Expr.literal l).template ((Expr.literal l).visit (.onLiterals h)) := by
  change h l = (fun es => es.headD (.literal .null)) <$> [l].mapM h
  simp

theorem map {t : Template α} {x : m α} (g : α → β) (walk : Traverses h t x) :
    Traverses h (g <$> t) (x >>= fun a => pure (g a)) := by
  change _ = (fun es => g (t.fill es)) <$> t.literals.mapM h
  rw [show x = _ from walk]
  simp

/-- Walks one after the other fill templates side by side. -/
theorem seq {t : Template (α → β)} {u : Template α} {x : m (α → β)} {y : m α}
    (first : Traverses h t x) (second : Traverses h u y) :
    Traverses h (t <*> u) (x <*> y) := by
  change _ = (fun es => t.fill (es.take t.literals.length) (u.fill (es.drop t.literals.length)))
    <$> (t.literals ++ u.literals).mapM h
  rw [show x = _ from first, show y = _ from second]
  simp only [seq_eq_bind_map, List.mapM_append, map_eq_pure_bind, bind_assoc, pure_bind]
  refine bind_mapM_congr fun es length_eq => ?_
  simp only [← length_eq, List.take_left, List.drop_left]

theorem map₂ {t : Template α} {u : Template β} {x : m α} {y : m β} (g : α → β → γ)
    (first : Traverses h t x) (second : Traverses h u y) :
    Traverses h (g <$> t <*> u) (x >>= fun a => y >>= fun b => pure (g a b)) := by
  simpa only [seq_eq_bind_map, map_eq_pure_bind, bind_assoc, pure_bind]
    using (first.map g).seq second

theorem map₃ {t : Template α} {u : Template β} {v : Template γ} {x : m α} {y : m β} {z : m γ}
    (g : α → β → γ → δ) (first : Traverses h t x) (second : Traverses h u y)
    (third : Traverses h v z) :
    Traverses h (g <$> t <*> u <*> v)
      (x >>= fun a => y >>= fun b => z >>= fun c => pure (g a b c)) := by
  simpa only [seq_eq_bind_map, map_eq_pure_bind, bind_assoc, pure_bind]
    using (map₂ g first second).seq third

theorem map₄ {t : Template α} {u : Template β} {v : Template γ} {w : Template δ}
    {x : m α} {y : m β} {z : m γ} {z' : m δ} (g : α → β → γ → δ → ε)
    (first : Traverses h t x) (second : Traverses h u y) (third : Traverses h v z)
    (fourth : Traverses h w z') :
    Traverses h (g <$> t <*> u <*> v <*> w)
      (x >>= fun a => y >>= fun b => z >>= fun c => z' >>= fun d => pure (g a b c d)) := by
  simpa only [seq_eq_bind_map, map_eq_pure_bind, bind_assoc, pure_bind]
    using (map₃ g first second third).seq fourth

end Traverses

namespace Expr

mutual

theorem traverses (h : Literal → m Expr) : ∀ e : Expr,
    Traverses h e.template (e.visit (.onLiterals h))
  | .literal _ => .of_literal _
  | .ident _ => .of_pure _
  | .member _ _ _ => (traverses h _).map _
  | .call _ _ => .map₂ _ (traverses h _) (traverses_all h _)
  | .index _ _ => .map₂ _ (traverses h _) (traverses h _)
  | .cast _ _ => (traverses h _).map _
  | .creation _ _ => (traverses_all h _).map _
  | .creationWith _ _ _ =>
    (Traverses.map₂ Prod.mk (traverses_fields h _) (traverses_all h _)).map _
  | .defaultOf _ => .of_pure _
  | .unary _ _ => (traverses h _).map _
  | .binary _ _ _ => .map₂ _ (traverses h _) (traverses h _)
  | .assign _ _ _ => .map₂ _ (traverses h _) (traverses h _)
  | .conditional _ _ _ => .map₃ _ (traverses h _) (traverses h _) (traverses h _)
  | .paren _ => (traverses h _).map _
  | .lambda _ _ => (traverses h _).map _
termination_by structural e => e

theorem traverses_all (h : Literal → m Expr) : ∀ es : List Expr,
    Traverses h (templates es) (visitAll (.onLiterals h) es)
  | [] => .of_pure _
  | _ :: _ => .map₂ _ (traverses h _) (traverses_all h _)
termination_by structural es => es

theorem traverses_fields (h : Literal → m Expr) : ∀ fields : List (String × Expr),
    Traverses h (fieldTemplates fields) (visitFields (.onLiterals h) fields)
  | [] => .of_pure _
  | (_, _) :: _ => .map₂ _ (traverses h _) (traverses_fields h _)
termination_by structural fields => fields

end

theorem traverses_option (h : Literal → m Expr) (e : Option Expr) :
    Traverses h (optionTemplate e) (visitOption (.onLiterals h) e) := by
  cases e with
  | none => exact .of_pure _
  | some e => exact (e.traverses h).map _

end Expr

theorem Declarator.traverses_all (h : Literal → m Expr) (ds : List Declarator) :
    Traverses h (Declarator.templates ds) (Declarator.visitAll (.onLiterals h) ds) := by
  induction ds with
  | nil => exact .of_pure _
  | cons d ds ih =>
    have first : Traverses h d.template (d.visit (.onLiterals h)) :=
      (Expr.traverses_option h d.init).map _
    exact .map₂ _ first ih

theorem Declaration.traverses (h : Literal → m Expr) (d : Declaration) :
    Traverses h d.template (d.visit (.onLiterals h)) :=
  (Declarator.traverses_all h d.declarators).map _

namespace Stmt

mutual

theorem traverses (h : Literal → m Expr) : ∀ s : Stmt,
    Traverses h s.template (s.visit (.onLiterals h))
  | .declare d => (d.traverses h).map _
  | .expr value => (value.traverses h).map _
  | .ret value => (Expr.traverses_option h value).map _
  | .branch cond _ _ => .map₃ _ (cond.traverses h) (traverses_all h _) (traverses_else h _)
  | .forLoop _ cond step _ =>
    .map₄ _ (traverses_init h _) (Expr.traverses_option h cond) (Expr.traverses_all h step)
      (traverses_all h _)
  | .whileLoop cond _ => .map₂ _ (cond.traverses h) (traverses_all h _)
  | .foreachLoop _ _ collection _ => .map₂ _ (collection.traverses h) (traverses_all h _)
  | .block _ => (traverses_all h _).map _
  | .breakLoop => .of_pure _
  | .continueLoop => .of_pure _
termination_by structural s => s

theorem traverses_all (h : Literal → m Expr) : ∀ b : List Stmt,
    Traverses h (templates b) (visitAll (.onLiterals h) b)
  | [] => .of_pure _
  | _ :: _ => .map₂ _ (traverses h _) (traverses_all h _)
termination_by structural b => b

theorem traverses_else (h : Literal → m Expr) : ∀ b : Option (List Stmt),
    Traverses h (elseTemplate b) (visitElse (.onLiterals h) b)
  | none => .of_pure _
  | some _ => (traverses_all h _).map _
termination_by structural b => b

theorem traverses_init (h : Literal → m Expr) : ∀ init : Option Stmt,
    Traverses h (initTemplate init) (visitInit (.onLiterals h) init)
  | none => .of_pure _
  | some _ => (traverses h _).map _
termination_by structural init => init

end

end Stmt

theorem Attribute.traverses_all (h : Literal → m Expr) (attributes : List Attribute) :
    Traverses h (Attribute.templates attributes)
      (Attribute.visitAll (.onLiterals h) attributes) := by
  induction attributes with
  | nil => exact .of_pure _
  | cons a rest ih => exact .map₂ _ (Expr.traverses_all h a.arguments) ih

theorem Parameter.traverses (h : Literal → m Expr) (p : Parameter) :
    Traverses h p.template (p.visit (.onLiterals h)) :=
  (Attribute.traverses_all h p.attributes).map _

theorem Parameter.traverses_all (h : Literal → m Expr) (ps : List Parameter) :
    Traverses h (Parameter.templates ps) (Parameter.visitAll (.onLiterals h) ps) := by
  induction ps with
  | nil => exact .of_pure _
  | cons p ps ih => exact .map₂ _ (p.traverses h) ih

/-- The arguments of a method's own attributes are not visited. -/
theorem Method.traverses (h : Literal → m Expr) (method : Method) :
    Traverses h method.template (method.visit (.onLiterals h)) :=
  .map₂ _ (Parameter.traverses_all h method.parameters) (Stmt.traverses_all h method.body)

/-- **A walk over literals fills a template**: it handles the literals of the tree's
template, each of them once, and the tree that it gives has the results in their
places. -/
theorem Fragment.traverses (h : Literal → m Expr) (f : Fragment) :
    f.visit (.onLiterals h) = f.template.fill <$> f.template.literals.mapM h := by
  have wrap {α : Type} {t : Template α} {x : m α} (g : α → Fragment)
      (walk : Traverses h t x) : Traverses h (g <$> t) (g <$> x) := by
    rw [map_eq_pure_bind]
    exact walk.map g
  cases f with
  | method x => exact wrap _ (x.traverses h)
  | parameter x => exact wrap _ (x.traverses h)
  | block x => exact wrap _ (Stmt.traverses_all h x)
  | declaration x => exact wrap _ (x.traverses h)
  | stmt x => exact wrap _ (x.traverses h)
  | expr x => exact wrap _ (x.traverses h)

/-! ## Handlers with a state that may fail -/

section Handlers

variable {σ ε : Type}

/-- Literals handled one after the other, each of them once: what they become, and the
state afterwards. -/
inductive Handled (h : Literal → ExceptT ε (StateM σ) Expr) :
    σ → List Literal → List Expr → σ → Prop
  | nil (s : σ) : Handled h s [] [] s
  | cons {s s' s'' : σ} {l : Literal} {ls : List Literal} {e : Expr} {es : List Expr}
    (first : (h l).run.run s = (.ok e, s')) (rest : Handled h s' ls es s'') :
    Handled h s (l :: ls) (e :: es) s''

variable {h : Literal → ExceptT ε (StateM σ) Expr}

/-- A sequence succeeds exactly when both of its steps do. -/
theorem run_bind_eq_ok {x : ExceptT ε (StateM σ) α} {k : α → ExceptT ε (StateM σ) β} {s s' : σ}
    {b : β} : (x >>= k).run.run s = (.ok b, s') ↔
      ∃ a t, x.run.run s = (.ok a, t) ∧ (k a).run.run t = (.ok b, s') := by
  rw [ExceptT.run_bind, StateT.run_bind]
  rcases x.run.run s with ⟨_ | a, t⟩
  · constructor
    · rintro ⟨⟩
    · rintro ⟨_, _, ⟨⟩, -⟩
  · constructor
    · exact fun done => ⟨a, t, rfl, done⟩
    · rintro ⟨_, _, ⟨⟩, done⟩
      exact done

/-- A sequence fails exactly when its first step does, or its second one does behind the
first. -/
theorem run_bind_eq_error {x : ExceptT ε (StateM σ) α} {k : α → ExceptT ε (StateM σ) β}
    {s s' : σ} {e : ε} : (x >>= k).run.run s = (.error e, s') ↔
      x.run.run s = (.error e, s') ∨
        ∃ a t, x.run.run s = (.ok a, t) ∧ (k a).run.run t = (.error e, s') := by
  rw [ExceptT.run_bind, StateT.run_bind]
  rcases x.run.run s with ⟨_ | a, t⟩
  · constructor
    · rintro ⟨⟩
      exact .inl rfl
    · rintro (⟨⟨⟩⟩ | ⟨_, _, ⟨⟩, -⟩)
      rfl
  · constructor
    · exact fun failed => .inr ⟨a, t, rfl, failed⟩
    · rintro (⟨⟨⟩⟩ | ⟨_, _, ⟨⟩, failed⟩)
      exact failed

/-- Literals are handled to the end exactly when each of them is handled. -/
theorem run_mapM_eq_ok {ls : List Literal} {s s' : σ} {es : List Expr} :
    (ls.mapM h).run.run s = (.ok es, s') ↔ Handled h s ls es s' := by
  induction ls generalizing s es with
  | nil =>
    constructor
    · rintro ⟨⟩
      exact .nil _
    · rintro ⟨⟩
      rfl
  | cons l ls ih =>
    rw [List.mapM_cons, run_bind_eq_ok]
    simp only [run_bind_eq_ok]
    constructor
    · rintro ⟨e, t, first, es, t', rest, ⟨⟩⟩
      exact .cons first (ih.1 rest)
    · rintro (_ | ⟨first, rest⟩)
      exact ⟨_, _, first, _, _, ih.2 rest, rfl⟩

/-- Handling stops at a literal exactly when those in front of it are handled, and it
fails. -/
theorem run_mapM_eq_error {ls : List Literal} {s s' : σ} {e : ε} :
    (ls.mapM h).run.run s = (.error e, s') ↔
      ∃ before l after es mid, ls = before ++ l :: after ∧ Handled h s before es mid ∧
        (h l).run.run mid = (.error e, s') := by
  constructor
  · intro failed
    induction ls generalizing s with
    | nil => cases failed
    | cons l ls ih =>
      rw [List.mapM_cons, run_bind_eq_error] at failed
      rcases failed with first | ⟨r, t, first, failed⟩
      · exact ⟨[], l, ls, [], s, rfl, .nil s, first⟩
      · rcases run_bind_eq_error.1 failed with rest | ⟨_, _, -, ⟨⟩⟩
        obtain ⟨before, l', after, es, mid, rfl, handled, stopped⟩ := ih rest
        exact ⟨l :: before, l', after, r :: es, mid, rfl, .cons first handled, stopped⟩
  · rintro ⟨before, l, after, es, mid, rfl, handled, stopped⟩
    induction handled with
    | nil =>
      rw [List.nil_append, List.mapM_cons]
      exact run_bind_eq_error.2 (.inl stopped)
    | cons first rest ih =>
      rw [List.cons_append, List.mapM_cons]
      exact run_bind_eq_error.2 (.inr ⟨_, _, first, run_bind_eq_error.2 (.inl (ih stopped))⟩)

/-- A handler that gives each literal back gives all of them back. -/
theorem exists_handled (returns : ∀ l s, ∃ s', (h l).run.run s = (.ok (.literal l), s'))
    (ls : List Literal) (s : σ) : ∃ s', Handled h s ls (ls.map .literal) s' := by
  induction ls generalizing s with
  | nil => exact ⟨s, .nil s⟩
  | cons l ls ih =>
    obtain ⟨t, first⟩ := returns l s
    obtain ⟨s', rest⟩ := ih t
    exact ⟨s', .cons first rest⟩

/-- **Walks over literals**, with any handler that has a state and may fail.

A walk succeeds exactly when each literal of the fragment is handled, one after the
other and each of them once; it gives the fragment with the results in their places.
It fails exactly when one of them fails after those in front of it are handled, with the
error and the state of that one, and none behind it is handled.  Filling in results
changes nothing but the literals: with a fragment's own literals it gives the fragment
back, and with others, as many, a fragment with these literals and otherwise the same.
So a handler that gives each literal back gives the fragment back. -/
theorem visit_onLiterals_spec (h : Literal → ExceptT ε (StateM σ) Expr) (f : Fragment)
    (s : σ) :
    (∀ g s', (f.visit (.onLiterals h)).run.run s = (.ok g, s') ↔
      ∃ es, Handled h s f.template.literals es s' ∧ g = f.template.fill es) ∧
    (∀ e s', (f.visit (.onLiterals h)).run.run s = (.error e, s') ↔
      ∃ before l after es mid, f.template.literals = before ++ l :: after ∧
        Handled h s before es mid ∧ (h l).run.run mid = (.error e, s')) ∧
    f.template.fill (f.template.literals.map .literal) = f ∧
    (∀ ls, ls.length = f.template.literals.length →
      (f.template.fill (ls.map .literal)).template = ⟨ls, f.template.fill⟩) ∧
    ((∀ l s, ∃ s', (h l).run.run s = (.ok (.literal l), s')) →
      ∃ s', (f.visit (.onLiterals h)).run.run s = (.ok f, s')) := by
  have succeeds (g : Fragment) (s' : σ) :
      (f.visit (.onLiterals h)).run.run s = (.ok g, s') ↔
        ∃ es, Handled h s f.template.literals es s' ∧ g = f.template.fill es := by
    rw [f.traverses h, map_eq_pure_bind, run_bind_eq_ok]
    constructor
    · rintro ⟨es, _, handled, ⟨⟩⟩
      exact ⟨es, run_mapM_eq_ok.1 handled, rfl⟩
    · rintro ⟨es, handled, rfl⟩
      exact ⟨es, s', run_mapM_eq_ok.2 handled, rfl⟩
  refine ⟨succeeds, fun e s' => ?_, f.refills.restores, f.refills.keeps, fun returns => ?_⟩
  · rw [f.traverses h, map_eq_pure_bind, run_bind_eq_error, ← run_mapM_eq_error]
    constructor
    · rintro (failed | ⟨_, _, -, ⟨⟩⟩)
      exact failed
    · exact .inl
  · obtain ⟨s', handled⟩ := exists_handled returns f.template.literals s
    exact ⟨s', (succeeds f s').2 ⟨_, handled, f.refills.restores.symm⟩⟩

end Handlers

end ShaderLowering
