import ShaderLowering.Proofs.Source.Phrase
import ShaderLowering.Proofs.Tree.Core
import ShaderLowering.Source.Expr

/-!
# Trees that are regrouped by their texts

Where a text leaves out parentheses that a tree would need, it is the text of another
tree too: of the one that is grouped as the text suggests.  For trees of one kind, a
regrouping goes from each tree to that one.  Whether a text tells a tree apart is then a
question about the tree alone: it does exactly when the tree is grouped as its text.

## Main definitions

* `isFreeOf` — a text without certain characters.
* `Expr.Regrouping` — what trees of a kind are regrouped to, and which are left as they
  are.

## Main statements

* `Expr.Regrouping.source_eq_iff` — which trees have one text.
* `Expr.Regrouping.core_eq_iff` — of these, which are the same up to parentheses.
-/

namespace ShaderLowering

/-! ## Names between other characters -/

/-- Whether none of certain characters occurs in a text. -/
def isFreeOf (chars : List Char) (text : String) : Bool :=
  text.toList.all fun c => !chars.contains c

theorem notMem_of_isFreeOf {chars : List Char} {text : String} (h : isFreeOf chars text = true)
    {c : Char} (hc : c ∈ chars) : c ∉ text.toList := by
  intro ht
  rw [isFreeOf, List.all_eq_true] at h
  simpa [hc] using h c ht

/-- Two texts that are free of some characters end where one of these stands. -/
theorem isFreeOf_append_inj {chars : List Char} {u v : String} (hu : isFreeOf chars u = true)
    (hv : isFreeOf chars v = true) {k l : List Char} (hk : ∀ c ∈ k.head?, c ∈ chars)
    (hl : ∀ c ∈ l.head?, c ∈ chars) (h : u.toList ++ k = v.toList ++ l) : u = v ∧ k = l := by
  have ends {k : List Char} (hk : ∀ c ∈ k.head?, c ∈ chars) :
      ∀ c ∈ k.head?, (!chars.contains c) = false := by
    intro c hc
    simpa using hk c hc
  obtain ⟨same, rest⟩ := takeWhile_append_inj (List.all_eq_true.1 hu) (List.all_eq_true.1 hv)
    (ends hk) (ends hl) h
  exact ⟨String.toList_inj.1 same, rest⟩

/-! ## Regroupings -/

/-- The trees of a kind are regrouped by their texts: some of them are grouped as their
texts and told apart by these, and each of them has the text of one that is. -/
structure Expr.Regrouping (kind grouped : Expr → Prop) (regroup : Expr → Expr) : Prop where
  kind_of_grouped : ∀ {e}, grouped e → kind e
  grouped_regroup : ∀ {e}, kind e → grouped (regroup e)
  source_regroup : ∀ {e}, kind e → (regroup e).source = e.source
  regroup_eq_self : ∀ {e}, grouped e → regroup e = e
  grouped_of_core_eq : ∀ {e}, kind e → (regroup e).core = e.core → grouped e
  eq_of_source_eq : ∀ {e f}, grouped e → grouped f → e.source = f.source → e = f

namespace Expr.Regrouping

variable {kind grouped : Expr → Prop} {regroup : Expr → Expr} {e f : Expr}

/-- Two trees have one text exactly when they are regrouped to one tree. -/
theorem source_eq_iff (h : Regrouping kind grouped regroup) (he : kind e) (hf : kind f) :
    e.source = f.source ↔ regroup e = regroup f := by
  rw [← h.source_regroup he, ← h.source_regroup hf]
  constructor
  · exact h.eq_of_source_eq (h.grouped_regroup he) (h.grouped_regroup hf)
  · intro same
    rw [same]

/-- Of two trees with one text, of which the second is grouped as the text, the first is
the same tree exactly when it is grouped so too. -/
theorem core_eq_iff (h : Regrouping kind grouped regroup) (he : kind e) (hf : kind f)
    (same : e.source = f.source) (hg : grouped f) : e.core = f.core ↔ grouped e := by
  have read : regroup e = f := by
    rw [(h.source_eq_iff he hf).1 same, h.regroup_eq_self hg]
  constructor
  · intro cores
    exact h.grouped_of_core_eq he (by rw [read, cores])
  · intro he
    rw [← h.regroup_eq_self he, read]

/-- A tree that is not grouped as its text has the text of another tree. -/
theorem exists_source_eq (h : Regrouping kind grouped regroup) (he : kind e)
    (hg : ¬ grouped e) : ∃ g, kind g ∧ grouped g ∧ g.source = e.source ∧ g.core ≠ e.core :=
  ⟨regroup e, h.kind_of_grouped (h.grouped_regroup he), h.grouped_regroup he,
    h.source_regroup he, fun cores => hg (h.grouped_of_core_eq he cores)⟩

end Expr.Regrouping

end ShaderLowering
