import ShaderLowering.Proofs.Lowering.Outcome
import ShaderLowering.Proofs.Names.MemberTable
import ShaderLowering.Proofs.Source.Reading

/-!
# The grouping of casts in lowered text

Lowering keeps the trees that are written as phrases: from names, casts,
constructions, default values, accesses, indices and calls it makes names and
zeros with casts, accesses, indices and calls.  It also brings casts to places
where the host had none, because a default value becomes the cast of a zero, and
the text does not group a cast that stands in the target of an access, an index or
a call.

## Main definitions

* `Expr.isElementary` — the host expressions that are lowered to phrases.
* `LoweringContext.KeepsNames` — what a lowering is given names things by words.

## Main statements

* `ensures_isChained` — what the host expressions are lowered to.
* `core_eq_iff_of_source_eq` — which lowered trees their texts tell apart.
-/

namespace ShaderLowering

/-! ## Host expressions -/

mutual

/-- Whether a host expression consists of names, with casts, constructions, default
values, accesses, indices and calls. -/
def Expr.isElementary : Expr → Bool
  | .ident name => isName name
  | .member target name _ => target.isElementary && isWord name
  | .call callee args => callee.isElementary && Expr.allElementary args
  | .index target position => target.isElementary && position.isElementary
  | .cast _ operand => operand.isElementary
  | .creation _ args => Expr.allElementary args
  | .defaultOf _ => true
  | _ => false
termination_by structural e => e

/-- Whether several host expressions do. -/
def Expr.allElementary : List Expr → Bool
  | [] => true
  | e :: es => e.isElementary && Expr.allElementary es
termination_by structural es => es

end

/-! ## Names that lowering brings in -/

/-- What a lowering is given names things by words: types are mapped to names, and
an access is replaced by a tree that is written as a phrase. -/
structure LoweringContext.KeepsNames (cx : LoweringContext) : Prop where
  types : ∀ type mapped, cx.types.map type = .ok mapped → isName mapped.name = true
  capturePrefix : cx.capturePrefix.toList.all (!isDelimiter ·) = true
  resolver : ∀ a visible replacement, a.target.isChained = true → isWord a.name = true →
    cx.resolver a visible = .ok (.direct replacement) → replacement.isChained = true

theorem isWord_of_isName {text : String} (h : isName text = true) : isWord text = true := by
  rw [isName, Bool.and_eq_true] at h
  exact h.1

/-- The zero of a type is written as a phrase. -/
theorem isChained_zero {type : TypeName} (h : isName type.name = true) :
    (Expr.zero type).isChained = true := by
  rw [Expr.zero, Expr.isChained, isWord_of_isName h]
  rfl

/-- The characters of an identifier are not delimiters. -/
theorem isDelimiter_of_mem_identifierOf {c : Char} {text : String}
    (h : c ∈ (identifierOf text).toList) : isDelimiter c = false := by
  rw [identifierOf, String.toList_ofList, List.mem_map] at h
  obtain ⟨d, -, rfl⟩ := h
  split
  · next hd =>
    by_contra hc
    simp only [isDelimiter, List.contains_iff_mem, Bool.not_eq_false, List.mem_cons,
      List.not_mem_nil, or_false] at hc
    rcases hc with rfl | rfl | rfl | rfl | rfl | rfl <;> exact absurd hd (by decide)
  · rfl

/-- The identifier of a captured member is a name. -/
theorem isName_captureName {capturePrefix : String}
    (h : capturePrefix.toList.all (!isDelimiter ·) = true) (member : Member) :
    isName (member.captureName capturePrefix) = true := by
  have chars : (member.captureName capturePrefix).toList = capturePrefix.toList
      ++ (identifierOf member.owner).toList ++ ['_', '_'] ++ (identifierOf member.name).toList := by
    simp [Member.captureName]
  have underscore : '_' ∈ (member.captureName capturePrefix).toList := by
    simp [chars]
  rw [isName, isWord, Bool.and_eq_true, Bool.and_eq_true, List.all_eq_true, bne_iff_ne]
  refine ⟨⟨?_, fun c hc => ?_⟩, fun same => ?_⟩
  · rw [chars]
    simp
  · rw [Bool.not_eq_true']
    rw [chars] at hc
    simp only [List.mem_append] at hc
    rcases hc with ((hc | hc) | hc) | hc
    · simpa using List.all_eq_true.1 h c hc
    · exact isDelimiter_of_mem_identifierOf hc
    · obtain rfl : c = '_' := by simpa using hc
      rfl
    · exact isDelimiter_of_mem_identifierOf hc
  · rw [same] at underscore
    exact absurd underscore (by decide)

/-- Member tables keep names when their aliases and renames are names. -/
theorem MemberTable.keepsNames_context {t : MemberTable} {types : TypeMap}
    {capturePrefix : String}
    (ht : ∀ type mapped, types.map type = .ok mapped → isName mapped.name = true)
    (hp : capturePrefix.toList.all (!isDelimiter ·) = true)
    (aliases : ∀ path x, t.aliases.get? path = some x → isName x = true)
    (renames : ∀ member, isWord member = true → isWord (t.rename member) = true) :
    (t.context types capturePrefix).KeepsNames where
  types := ht
  capturePrefix := hp
  resolver a visible replacement target name h := by
    rcases t.replacement_cases h with ⟨path, x, hx, rfl⟩ | rfl
    · exact aliases path x hx
    · rw [renamed, Expr.isChained, target, renames a.name name]
      rfl

/-! ## What the host expressions are lowered to -/

section Ensures

open LowerM

variable {cx : LoweringContext}

theorem ensures_resolve_isChained (keeps : cx.KeepsNames) {a : Access}
    (ht : a.target.isChained = true) (hn : isWord a.name = true) : Ensures (cx.resolve a) (·.isChained = true) := by
  refine .resolve cx a (fun _ member _ => ?_) fun visible replacement h => ?_
  · rw [Expr.isChained]
    exact isName_captureName keeps.capturePrefix member
  · exact keeps.resolver a visible replacement ht hn h

mutual

/-- Elementary host expressions are lowered to trees that are written as phrases. -/
theorem ensures_isChained (keeps : cx.KeepsNames) : ∀ e : Expr, e.isElementary = true →
    Ensures (e.visit cx.rules) (·.isChained = true)
  | .ident _, h => .pure h
  | .member target name span, h => by
    rw [Expr.isElementary, Bool.and_eq_true] at h
    rw [visit_member]
    refine .skip fun _ => (ensures_isChained keeps target h.1).bind fun target' ht => ?_
    exact ensures_resolve_isChained keeps ht h.2
  | .call callee args, h => by
    rw [Expr.isElementary, Bool.and_eq_true] at h
    refine (ensures_isChained keeps callee h.1).bind fun callee' hc => ?_
    refine (ensures_allChained keeps args h.2).bind fun args' ha => .pure ?_
    rw [Expr.isChained, hc, ha]
    rfl
  | .index target position, h => by
    rw [Expr.isElementary, Bool.and_eq_true] at h
    refine (ensures_isChained keeps target h.1).bind fun target' ht => ?_
    refine (ensures_isChained keeps position h.2).bind fun position' hp => .pure ?_
    rw [Expr.isChained, ht, hp]
    rfl
  | .cast type operand, h => by
    rw [Expr.isElementary] at h
    rw [visit_cast]
    refine (ensures_isChained keeps operand h).bind fun operand' ho => ?_
    refine (Ensures.mapType cx type).bind fun mapped hm => .pure ?_
    rw [Expr.isChained, isWord_of_isName (keeps.types _ _ hm), ho]
    rfl
  | .creation type args, h => by
    rw [Expr.isElementary] at h
    rw [visit_creation]
    refine (ensures_allChained keeps args h).bind fun args' ha => ?_
    refine (Ensures.mapType cx type).bind fun mapped hm => ?_
    have named : isName mapped.name = true := keeps.types _ _ hm
    cases args' with
    | nil => exact .pure (isChained_zero named)
    | cons e es =>
      refine .pure ?_
      rw [Expr.isChained, Expr.isChained, named, ha]
      rfl
  | .defaultOf type, _ => by
    rw [visit_defaultOf]
    exact (Ensures.mapType cx type).bind fun mapped hm =>
      .pure (isChained_zero (keeps.types _ _ hm))
termination_by structural e => e

theorem ensures_allChained (keeps : cx.KeepsNames) : ∀ es : List Expr,
    Expr.allElementary es = true → Ensures (Expr.visitAll cx.rules es) (Expr.allChained · = true)
  | [], _ => .pure rfl
  | e :: es, h => by
    rw [Expr.allElementary, Bool.and_eq_true] at h
    refine (ensures_isChained keeps e h.1).bind fun e' he => ?_
    refine (ensures_allChained keeps es h.2).bind fun es' hes => .pure ?_
    rw [Expr.allChained, he, hes]
    rfl
termination_by structural es => es

end

end Ensures

/-! ## What the text tells apart -/

/-- **A lowered tree is told apart by its text when no cast stands in the target of
an access, an index or a call.**  Of two lowered trees with one text, of which the
second has no such cast, the first is the same tree up to parentheses and positions
exactly when it has none either.  And a tree with such a cast has the text of
another tree, in which the cast reaches further. -/
theorem core_eq_iff_of_source_eq {cx : LoweringContext} (keeps : cx.KeepsNames)
    {e₁ e₂ f₁ f₂ : Expr} {s₁ s₂ t₁ t₂ : LoweringState} (h₁ : e₁.isElementary = true)
    (h₂ : e₂.isElementary = true) (lowered₁ : outcome (e₁.visit cx.rules) s₁ = (.ok f₁, t₁))
    (lowered₂ : outcome (e₂.visit cx.rules) s₂ = (.ok f₂, t₂)) :
    (f₁.source = f₂.source → f₂.castsGrouped = true →
      (f₁.core = f₂.core ↔ f₁.castsGrouped = true)) ∧
    (f₁.castsGrouped = false → ∃ g : Expr, g.isChained = true ∧ g.castsGrouped = true ∧
      g.source = f₁.source ∧ g.core ≠ f₁.core) := by
  have chained₁ : f₁.isChained = true := ensures_isChained keeps e₁ h₁ lowered₁
  have chained₂ : f₂.isChained = true := ensures_isChained keeps e₂ h₂ lowered₂
  constructor
  · intro same grouped
    have read : f₁.phrase.toExpr = f₂.core := by
      rw [(Expr.source_inj_iff chained₁ chained₂).1 same]
      exact (Expr.toExpr_phrase_eq_core_iff f₂ chained₂).2 grouped
    rw [← Expr.toExpr_phrase_eq_core_iff f₁ chained₁, read]
    exact eq_comm
  · intro ungrouped
    obtain ⟨chained, grouped, same⟩ := Expr.toExpr_phrase_spec chained₁
    refine ⟨f₁.phrase.toExpr, chained, grouped, same, ?_⟩
    rw [Phrase.core_toExpr]
    intro read
    rw [(Expr.toExpr_phrase_eq_core_iff f₁ chained₁).1 read] at ungrouped
    cases ungrouped

/-- A context that renames the fields of vectors and maps two types. -/
def vectorContext : LoweringContext :=
  MemberTable.vectorFields.context
    ((TypeMap.empty.register "float" "half").register "Float3" "half3") "__"

theorem keepsNames_vectorContext : vectorContext.KeepsNames := by
  refine MemberTable.keepsNames_context ?_ (by decide) ?_ ?_
  · intro type mapped h
    rw [TypeMap.map, TypeMap.lookup_register, TypeMap.lookup_register] at h
    split at h
    · next shader hs =>
      cases h
      split_ifs at hs <;> cases hs <;> dsimp only <;> decide
    · cases h
  · intro path x h
    cases h
  · intro member h
    rw [MemberTable.rename]
    simp only [MemberTable.vectorFields, MemberTable.addRename, MemberTable.empty,
      Dictionary.get?_insert, Dictionary.get?_empty]
    split_ifs
    case neg => exact h
    all_goals
      rw [Option.getD_some]
      decide

/-- A cast in the target of an access, and an access below a cast. -/
theorem core_eq_iff_of_source_eq_cast :
    outcome ((Expr.access (.cast (.named "float") (.ident "a")) "X").visit vectorContext.rules)
        .initial = (.ok (.access (.cast (.named "half") (.ident "a")) "x"), .initial) ∧
      outcome ((Expr.cast (.named "float") (.access (.ident "a") "X")).visit vectorContext.rules)
        .initial = (.ok (.cast (.named "half") (.access (.ident "a") "x")), .initial) ∧
      (Expr.access (.cast (.named "half") (.ident "a")) "x").core
        ≠ (Expr.cast (.named "half") (.access (.ident "a") "x")).core := by
  have lowered₁ : outcome ((Expr.access (.cast (.named "float") (.ident "a")) "X").visit
      vectorContext.rules) .initial
        = (.ok (.access (.cast (.named "half") (.ident "a")) "x"), .initial) := by rfl
  have lowered₂ : outcome ((Expr.cast (.named "float") (.access (.ident "a") "X")).visit
      vectorContext.rules) .initial
        = (.ok (.cast (.named "half") (.access (.ident "a") "x")), .initial) := by rfl
  refine ⟨lowered₁, lowered₂, fun same => ?_⟩
  have grouped := ((core_eq_iff_of_source_eq keepsNames_vectorContext rfl rfl lowered₁
    lowered₂).1 rfl rfl).1 same
  cases grouped

/-- A field of a default value is lowered to a field of a cast, and has the text of
the cast of a field. -/
theorem source_defaultOf_access :
    outcome ((Expr.access (.defaultOf (.named "Float3")) "X").visit vectorContext.rules)
        .initial = (.ok (.access (.zero (.named "half3")) "x"), .initial) ∧
      (Expr.access (.zero (.named "half3")) "x").source
        = (Expr.cast (.named "half3") (.access (.int 0) "x")).source ∧
      (Expr.access (.zero (.named "half3")) "x").core
        ≠ (Expr.cast (.named "half3") (.access (.int 0) "x")).core := by
  refine ⟨by rfl, rfl, fun same => ?_⟩
  cases same

end ShaderLowering
