import ShaderLowering.Proofs.Source.Phrase
import ShaderLowering.Proofs.Tree.Core
import ShaderLowering.Source.Expr

/-!
# Readings of expressions

The trees that are written as phrases: names and the zero, with casts, accesses,
indices and calls.  A phrase does not say how its tree was grouped: a cast in the
target of an access is written without parentheses, and the phrase has the access
below the cast.  Reading the text gives the tree back exactly when every cast
reaches over what stands behind its operand.

## Main definitions

* `Expr.isChained` — the trees that are written as phrases.
* `Expr.phrase`, `Phrase.toExpr` — the phrase that is written, and its tree.
* `Expr.castsGrouped` — no cast stands in the target of a longer chain.

## Main statements

* `Expr.source_inj_iff` — two trees have one text when they have one phrase.
* `Expr.toExpr_phrase_eq_core_iff` — which trees are read back.
-/

namespace ShaderLowering

/-- Whether a text names something: a word that is not the zero. -/
def isName (text : String) : Bool :=
  isWord text && text != "0"

/-! ## Trees that are written as phrases -/

namespace Expr

mutual

/-- Whether an expression consists of names and zeros, with casts, accesses, indices
and calls. -/
def isChained : Expr → Bool
  | .literal (.int value) => value == 0
  | .ident name => isName name
  | .member target name _ => target.isChained && isWord name
  | .call callee args => callee.isChained && allChained args
  | .index target position => target.isChained && position.isChained
  | .cast type operand => isWord type.name && operand.isChained
  | _ => false
termination_by structural e => e

/-- Whether several expressions do. -/
def allChained : List Expr → Bool
  | [] => true
  | e :: es => e.isChained && allChained es
termination_by structural es => es

end

/-- Whether an expression is a cast. -/
def isCast : Expr → Bool
  | .cast .. => true
  | _ => false

mutual

/-- Whether no cast stands in the target of an access, an index or a call. -/
def castsGrouped : Expr → Bool
  | .member target _ _ => !target.isCast && target.castsGrouped
  | .call callee args => !callee.isCast && callee.castsGrouped && allGrouped args
  | .index target position => !target.isCast && target.castsGrouped && position.castsGrouped
  | .cast _ operand => operand.castsGrouped
  | _ => true
termination_by structural e => e

/-- Whether this holds of several expressions. -/
def allGrouped : List Expr → Bool
  | [] => true
  | e :: es => e.castsGrouped && allGrouped es
termination_by structural es => es

end

/-- No operand of these trees is put in parentheses. -/
theorem needsParens_of_isChained {e : Expr} (h : e.isChained = true) : e.needsParens = false := by
  cases e <;> first | rfl | cases h

end Expr

/-! ## The phrase of an expression -/

/-- A phrase with one more link, which goes to the chain behind the casts. -/
def Phrase.behind (link : Link) : Phrase → Phrase
  | .cast type operand => .cast type (operand.behind link)
  | .chain word links => .chain word (links ++ [link])

mutual

/-- The phrase that an expression is written as. -/
def Expr.phrase : Expr → Phrase
  | .ident name => .chain name []
  | .member target name _ => target.phrase.behind (.member name)
  | .call callee args => callee.phrase.behind (.call (Expr.phrases args))
  | .index target position => target.phrase.behind (.index position.phrase)
  | .cast type operand => .cast type.name operand.phrase
  | e => .chain e.source []
termination_by structural e => e

/-- The phrases that several expressions are written as. -/
def Expr.phrases : List Expr → List Phrase
  | [] => []
  | e :: es => e.phrase :: Expr.phrases es
termination_by structural es => es

end

theorem Link.writeAll_append (links : List Link) (link : Link) (rest : List Char) :
    Link.writeAll (links ++ [link]) rest = Link.writeAll links (link.write rest) := by
  induction links with
  | nil => rfl
  | cons a links ih => rw [List.cons_append, Link.writeAll, Link.writeAll, ih]

/-- A link is written behind everything else, whatever casts are in front. -/
theorem Phrase.write_behind (link : Link) : ∀ (p : Phrase) (rest : List Char),
    (p.behind link).write rest = p.write (link.write rest)
  | .cast _ operand, rest => by
    rw [Phrase.behind, Phrase.write, Phrase.write, Phrase.write_behind link operand]
  | .chain _ links, rest => by
    rw [Phrase.behind, Phrase.write, Phrase.write, Link.writeAll_append]

theorem Link.allSpelled_append (links : List Link) (link : Link) :
    Link.allSpelled (links ++ [link]) = (Link.allSpelled links && link.isSpelled) := by
  induction links with
  | nil => simp [Link.allSpelled]
  | cons a links ih => rw [List.cons_append, Link.allSpelled, Link.allSpelled, ih, Bool.and_assoc]

theorem Phrase.isSpelled_behind (link : Link) : ∀ p : Phrase,
    (p.behind link).isSpelled = (p.isSpelled && link.isSpelled)
  | .cast _ operand => by
    rw [Phrase.behind, Phrase.isSpelled, Phrase.isSpelled, Phrase.isSpelled_behind link operand,
      Bool.and_assoc]
  | .chain _ links => by
    rw [Phrase.behind, Phrase.isSpelled, Phrase.isSpelled, Link.allSpelled_append, Bool.and_assoc]

namespace Expr

mutual

/-- The phrase of a tree has words for names. -/
theorem isSpelled_phrase : ∀ e : Expr, e.isChained = true → e.phrase.isSpelled = true
  | .literal (.int value), h => by
    rw [isChained, beq_iff_eq] at h
    rw [h]
    rfl
  | .ident name, h => by
    rw [isChained, isName, Bool.and_eq_true] at h
    rw [phrase, Phrase.isSpelled, h.1]
    rfl
  | .member target name _, h => by
    rw [isChained, Bool.and_eq_true] at h
    rw [phrase, Phrase.isSpelled_behind, isSpelled_phrase target h.1, Link.isSpelled, h.2]
    rfl
  | .call callee args, h => by
    rw [isChained, Bool.and_eq_true] at h
    rw [phrase, Phrase.isSpelled_behind, isSpelled_phrase callee h.1, Link.isSpelled,
      allSpelled_phrases args h.2]
    rfl
  | .index target position, h => by
    rw [isChained, Bool.and_eq_true] at h
    rw [phrase, Phrase.isSpelled_behind, isSpelled_phrase target h.1, Link.isSpelled,
      isSpelled_phrase position h.2]
    rfl
  | .cast type operand, h => by
    rw [isChained, Bool.and_eq_true] at h
    rw [phrase, Phrase.isSpelled, h.1, isSpelled_phrase operand h.2]
    rfl
termination_by structural e => e

theorem allSpelled_phrases : ∀ es : List Expr, allChained es = true →
    Phrase.allSpelled (phrases es) = true
  | [], _ => rfl
  | e :: es, h => by
    rw [allChained, Bool.and_eq_true] at h
    rw [phrases, Phrase.allSpelled, isSpelled_phrase e h.1, allSpelled_phrases es h.2]
    rfl
termination_by structural es => es

end

/-! ## The text of an expression -/

/-- An operand of these trees is written as it is. -/
theorem operandSource_of_isChained {e : Expr} (h : e.isChained = true) :
    parenthesizedIf e.needsParens e.source = e.source := by
  rw [needsParens_of_isChained h]
  rfl

mutual

/-- A tree has the text of its phrase. -/
theorem source_append : ∀ (e : Expr) (rest : List Char), e.isChained = true →
    e.source.toList ++ rest = e.phrase.write rest
  | .literal (.int value), rest, h => by
    rw [isChained, beq_iff_eq] at h
    rw [h]
    rfl
  | .ident name, rest, _ => by
    rw [source, phrase, Phrase.write, Link.writeAll]
  | .member target name _, rest, h => by
    rw [isChained, Bool.and_eq_true] at h
    rw [phrase, Phrase.write_behind, ← source_append target _ h.1, source,
      operandSource_of_isChained h.1, Link.write]
    simp
  | .call callee args, rest, h => by
    rw [isChained, Bool.and_eq_true] at h
    rw [phrase, Phrase.write_behind, ← source_append callee _ h.1, source,
      operandSource_of_isChained h.1, Link.write, ← sources_append args _ h.2]
    simp
  | .index target position, rest, h => by
    rw [isChained, Bool.and_eq_true] at h
    rw [phrase, Phrase.write_behind, ← source_append target _ h.1, source,
      operandSource_of_isChained h.1, Link.write, ← source_append position _ h.2]
    simp
  | .cast type operand, rest, h => by
    rw [isChained, Bool.and_eq_true] at h
    rw [phrase, Phrase.write, ← source_append operand _ h.2, source,
      operandSource_of_isChained h.2]
    simp
termination_by structural e => e

theorem sources_append : ∀ (es : List Expr) (rest : List Char), allChained es = true →
    (commaSeparated (sources es)).toList ++ rest = Phrase.writeAll (phrases es) rest
  | [], rest, _ => by
    rw [sources, phrases, Phrase.writeAll, commaSeparated, String.intercalate_nil]
    rfl
  | [e], rest, h => by
    rw [allChained, Bool.and_eq_true] at h
    rw [sources, sources, phrases, phrases, Phrase.writeAll, ← source_append e _ h.1,
      commaSeparated, String.intercalate_singleton]
    rfl
  | e :: e' :: es, rest, h => by
    rw [allChained, Bool.and_eq_true] at h
    have others := sources_append (e' :: es) rest h.2
    rw [phrases, Phrase.writeAll, ← others, ← source_append e _ h.1]
    simp [commaSeparated, sources, phrases, Phrase.separator, String.intercalate_cons_cons]
termination_by structural es => es

end

/-- Two trees have one text exactly when they have one phrase. -/
theorem source_inj_iff {e f : Expr} (he : e.isChained = true) (hf : f.isChained = true) :
    e.source = f.source ↔ e.phrase = f.phrase := by
  have text {e : Expr} (h : e.isChained = true) : e.source.toList = e.phrase.write [] := by
    rw [← source_append e [] h, List.append_nil]
  rw [← String.toList_inj, text he, text hf]
  constructor
  · intro h
    exact (Phrase.write_inj _ _ (isSpelled_phrase e he) (isSpelled_phrase f hf) endsPhrase_nil
      endsPhrase_nil h).1
  · intro h
    rw [h]

end Expr

/-! ## The tree of a phrase -/

/-- The tree of a word. -/
def Expr.ofWord (word : String) : Expr :=
  if word = "0" then .int 0 else .ident word

mutual

/-- The tree of a phrase, in which every cast reaches over the chain behind it. -/
def Phrase.toExpr : Phrase → Expr
  | .cast type operand => .cast (.named type) operand.toExpr
  | .chain word links => Link.attachAll links (.ofWord word)
termination_by structural p => p

/-- A tree with a link behind it. -/
def Link.attach : Link → Expr → Expr
  | .member name, e => .access e name
  | .call args, e => .call e (Phrase.toExprs args)
  | .index position, e => .index e position.toExpr
termination_by structural l => l

/-- A tree with several links behind it. -/
def Link.attachAll : List Link → Expr → Expr
  | [], e => e
  | link :: links, e => Link.attachAll links (link.attach e)
termination_by structural ls => ls

/-- The trees of several phrases. -/
def Phrase.toExprs : List Phrase → List Expr
  | [] => []
  | p :: ps => p.toExpr :: Phrase.toExprs ps
termination_by structural ps => ps

end

mutual

/-- The tree of a phrase is written as this phrase. -/
theorem Phrase.phrase_toExpr : ∀ p : Phrase, p.toExpr.phrase = p
  | .cast type operand => by
    rw [Phrase.toExpr, Expr.phrase, Phrase.phrase_toExpr operand]
    rfl
  | .chain word links => by
    have first : (Expr.ofWord word).phrase = .chain word [] := by
      unfold Expr.ofWord
      split
      · next h =>
        rw [h]
        rfl
      · rfl
    rw [Phrase.toExpr, Link.phrase_attachAll links first]
    rfl
termination_by structural p => p

theorem Link.phrase_attach : ∀ (link : Link) (e : Expr),
    (link.attach e).phrase = e.phrase.behind link
  | .member _, _ => rfl
  | .call args, e => by
    rw [Link.attach, Expr.phrase, Phrase.phrases_toExprs args]
  | .index position, e => by
    rw [Link.attach, Expr.phrase, Phrase.phrase_toExpr position]
termination_by structural l => l

theorem Link.phrase_attachAll : ∀ (links : List Link) {e : Expr} {word : String}
    {before : List Link}, e.phrase = .chain word before →
      (Link.attachAll links e).phrase = .chain word (before ++ links)
  | [], _, _, _, h => by
    rw [Link.attachAll, h, List.append_nil]
  | link :: links, e, word, before, h => by
    have next : (link.attach e).phrase = .chain word (before ++ [link]) := by
      rw [Link.phrase_attach link, h]
      rfl
    rw [Link.attachAll, Link.phrase_attachAll links next, List.append_assoc]
    rfl
termination_by structural ls => ls

theorem Phrase.phrases_toExprs : ∀ ps : List Phrase, Expr.phrases (Phrase.toExprs ps) = ps
  | [] => rfl
  | p :: ps => by
    rw [Phrase.toExprs, Expr.phrases, Phrase.phrase_toExpr p, Phrase.phrases_toExprs ps]
termination_by structural ps => ps

end

mutual

/-- The tree of a phrase whose names are words is written as a phrase. -/
theorem Phrase.isChained_toExpr : ∀ p : Phrase, p.isSpelled = true → p.toExpr.isChained = true
  | .cast type operand, h => by
    rw [Phrase.isSpelled, Bool.and_eq_true] at h
    rw [Phrase.toExpr, Expr.isChained, Phrase.isChained_toExpr operand h.2, TypeName.named, h.1]
    rfl
  | .chain word links, h => by
    rw [Phrase.isSpelled, Bool.and_eq_true] at h
    have first : (Expr.ofWord word).isChained = true := by
      unfold Expr.ofWord
      split
      · rfl
      · next hw => simp [Expr.isChained, isName, h.1, hw]
    exact Link.isChained_attachAll links first h.2
termination_by structural p => p

theorem Link.isChained_attach : ∀ (link : Link) {e : Expr}, e.isChained = true →
    link.isSpelled = true → (link.attach e).isChained = true
  | .member name, _, he, h => by
    rw [Link.isSpelled] at h
    rw [Link.attach, Expr.access, Expr.isChained, he, h]
    rfl
  | .call args, _, he, h => by
    rw [Link.isSpelled] at h
    rw [Link.attach, Expr.isChained, he, Phrase.allChained_toExprs args h]
    rfl
  | .index position, _, he, h => by
    rw [Link.isSpelled] at h
    rw [Link.attach, Expr.isChained, he, Phrase.isChained_toExpr position h]
    rfl
termination_by structural l => l

theorem Link.isChained_attachAll : ∀ (links : List Link) {e : Expr}, e.isChained = true →
    Link.allSpelled links = true → (Link.attachAll links e).isChained = true
  | [], _, he, _ => he
  | link :: links, _, he, h => by
    rw [Link.allSpelled, Bool.and_eq_true] at h
    exact Link.isChained_attachAll links (Link.isChained_attach link he h.1) h.2
termination_by structural ls => ls

theorem Phrase.allChained_toExprs : ∀ ps : List Phrase, Phrase.allSpelled ps = true →
    Expr.allChained (Phrase.toExprs ps) = true
  | [], _ => rfl
  | p :: ps, h => by
    rw [Phrase.allSpelled, Bool.and_eq_true] at h
    rw [Phrase.toExprs, Expr.allChained, Phrase.isChained_toExpr p h.1,
      Phrase.allChained_toExprs ps h.2]
    rfl
termination_by structural ps => ps

end

mutual

/-- The tree of a phrase has no parentheses and no positions. -/
theorem Phrase.core_toExpr : ∀ p : Phrase, p.toExpr.core = p.toExpr
  | .cast type operand => by
    rw [Phrase.toExpr, Expr.core, Phrase.core_toExpr operand]
    rfl
  | .chain word links => by
    have first : (Expr.ofWord word).core = Expr.ofWord word := by
      unfold Expr.ofWord
      split <;> rfl
    exact Link.core_attachAll links first
termination_by structural p => p

theorem Link.core_attach : ∀ (link : Link) {e : Expr}, e.core = e →
    (link.attach e).core = link.attach e
  | .member _, _, he => by
    rw [Link.attach, Expr.access, Expr.core, he]
    rfl
  | .call args, _, he => by
    rw [Link.attach, Expr.core, he, Phrase.cores_toExprs args]
  | .index position, _, he => by
    rw [Link.attach, Expr.core, he, Phrase.core_toExpr position]
termination_by structural l => l

theorem Link.core_attachAll : ∀ (links : List Link) {e : Expr}, e.core = e →
    (Link.attachAll links e).core = Link.attachAll links e
  | [], _, he => he
  | link :: links, _, he => Link.core_attachAll links (Link.core_attach link he)
termination_by structural ls => ls

theorem Phrase.cores_toExprs : ∀ ps : List Phrase,
    Expr.cores (Phrase.toExprs ps) = Phrase.toExprs ps
  | [] => rfl
  | p :: ps => by
    rw [Phrase.toExprs, Expr.cores, Phrase.core_toExpr p, Phrase.cores_toExprs ps]
termination_by structural ps => ps

end

/-! ## Reading a text back -/

theorem Link.attachAll_append (links : List Link) (link : Link) (e : Expr) :
    Link.attachAll (links ++ [link]) e = link.attach (Link.attachAll links e) := by
  induction links generalizing e with
  | nil => rfl
  | cons a links ih => exact ih (a.attach e)

theorem Link.isCast_attach (link : Link) (e : Expr) : (link.attach e).isCast = false := by
  cases link <;> rfl

theorem Link.isCast_attachAll (links : List Link) {e : Expr} (h : e.isCast = false) :
    (Link.attachAll links e).isCast = false := by
  induction links generalizing e with
  | nil => exact h
  | cons link links ih => exact ih (link.isCast_attach e)

theorem Phrase.isCast_toExpr_chain (word : String) (links : List Link) :
    (Phrase.chain word links).toExpr.isCast = false := by
  refine Link.isCast_attachAll links ?_
  unfold Expr.ofWord
  split <;> rfl

/-- A link is read as one behind the whole tree only if the tree is not a cast. -/
theorem Phrase.toExpr_behind_eq_iff (p : Phrase) (link : Link) {e : Expr}
    (he : e.isCast = false) :
    (p.behind link).toExpr = e ↔ p.toExpr.isCast = false ∧ link.attach p.toExpr = e := by
  cases p with
  | cast type operand =>
    constructor
    · rintro rfl
      cases he
    · rintro ⟨h, -⟩
      cases h
  | chain word links =>
    have attached : ((Phrase.chain word links).behind link).toExpr
        = link.attach (Phrase.chain word links).toExpr := Link.attachAll_append links link _
    rw [attached]
    exact ⟨fun h => ⟨Phrase.isCast_toExpr_chain word links, h⟩, And.right⟩

namespace Expr

theorem isCast_core {e : Expr} (h : e.isChained = true) : e.core.isCast = e.isCast := by
  cases e <;> first | rfl | cases h

/-- What it takes to read the target of a link back. -/
theorem isCast_and_eq_core_iff {e : Expr} (h : e.isChained = true)
    (read : e.phrase.toExpr = e.core ↔ e.castsGrouped = true) :
    (e.phrase.toExpr.isCast = false ∧ e.phrase.toExpr = e.core)
      ↔ (!e.isCast && e.castsGrouped) = true := by
  rw [Bool.and_eq_true, ← read, Bool.not_eq_true', ← isCast_core h]
  constructor
  · rintro ⟨hc, he⟩
    exact ⟨he ▸ hc, he⟩
  · rintro ⟨hc, he⟩
    exact ⟨he ▸ hc, he⟩

mutual

/-- Reading the text of a tree gives the tree back exactly when no cast stands in
the target of an access, an index or a call. -/
theorem toExpr_phrase_eq_core_iff : ∀ e : Expr, e.isChained = true →
    (e.phrase.toExpr = e.core ↔ e.castsGrouped = true)
  | .literal (.int value), h => by
    rw [isChained, beq_iff_eq] at h
    rw [h]
    exact iff_of_true rfl rfl
  | .ident name, h => by
    rw [isChained, isName, Bool.and_eq_true, bne_iff_ne] at h
    exact iff_of_true (if_neg h.2) rfl
  | .member target name _, h => by
    rw [isChained, Bool.and_eq_true] at h
    rw [phrase, castsGrouped, ← isCast_and_eq_core_iff h.1 (toExpr_phrase_eq_core_iff target h.1),
      Phrase.toExpr_behind_eq_iff _ _ rfl]
    simp only [Link.attach, core, access, member.injEq, and_true]
  | .call callee args, h => by
    rw [isChained, Bool.and_eq_true] at h
    rw [phrase, castsGrouped, Bool.and_eq_true,
      ← isCast_and_eq_core_iff h.1 (toExpr_phrase_eq_core_iff callee h.1),
      ← toExprs_phrases_eq_cores_iff args h.2, Phrase.toExpr_behind_eq_iff _ _ rfl]
    simp only [Link.attach, core, call.injEq, and_assoc]
  | .index target position, h => by
    rw [isChained, Bool.and_eq_true] at h
    rw [phrase, castsGrouped, Bool.and_eq_true,
      ← isCast_and_eq_core_iff h.1 (toExpr_phrase_eq_core_iff target h.1),
      ← toExpr_phrase_eq_core_iff position h.2, Phrase.toExpr_behind_eq_iff _ _ rfl]
    simp only [Link.attach, core, index.injEq, and_assoc]
  | .cast type operand, h => by
    rw [isChained, Bool.and_eq_true] at h
    rw [castsGrouped, ← toExpr_phrase_eq_core_iff operand h.2]
    simp only [phrase, Phrase.toExpr, core, cast.injEq, true_and]
termination_by structural e => e

theorem toExprs_phrases_eq_cores_iff : ∀ es : List Expr, allChained es = true →
    (Phrase.toExprs (phrases es) = cores es ↔ allGrouped es = true)
  | [], _ => iff_of_true rfl rfl
  | e :: es, h => by
    rw [allChained, Bool.and_eq_true] at h
    rw [allGrouped, Bool.and_eq_true, ← toExpr_phrase_eq_core_iff e h.1,
      ← toExprs_phrases_eq_cores_iff es h.2]
    simp only [phrases, Phrase.toExprs, cores, List.cons.injEq]
termination_by structural es => es

end

/-- What is read from the text of a tree has the text of the tree, and every cast in
it reaches over what stands behind its operand. -/
theorem toExpr_phrase_spec {e : Expr} (h : e.isChained = true) :
    e.phrase.toExpr.isChained = true ∧ e.phrase.toExpr.castsGrouped = true
      ∧ e.phrase.toExpr.source = e.source := by
  have chained : e.phrase.toExpr.isChained = true :=
    Phrase.isChained_toExpr _ (isSpelled_phrase e h)
  refine ⟨chained, ?_, ?_⟩
  · rw [← toExpr_phrase_eq_core_iff _ chained, Phrase.phrase_toExpr, Phrase.core_toExpr]
  · rw [source_inj_iff chained h, Phrase.phrase_toExpr]

end Expr

end ShaderLowering
