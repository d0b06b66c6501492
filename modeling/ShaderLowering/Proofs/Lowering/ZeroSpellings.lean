import ShaderLowering.Proofs.Lowering.Respelling

/-!
# The two spellings of a zero

A method may write the zero of a type as `default(T)` or as `new T()`, here one way and
there the other.  Which one it uses where makes no difference: lowering either fails at the
same place for the same reason, or gives the same tree and the same captures.

The two spellings are the one thing that is left open between the sources.  Nothing is
left open between what has become of them, so whatever a resolver answers, it is asked
about the same tree on both sides and gives one answer.

## Main definitions

* `Likeness.zeroSpellings` — the spelling of a zero may differ.
* `LoweringError.unquoted` — an error up to the source text that it quotes.

## Main statements

* `LoweringContext.respects_zeroSpellings` — every context lowers both spellings alike.
* `lower_zeroSpellings` — methods that spell their zeros differently.
-/

namespace ShaderLowering

/-- `default(T)` may stand for `new T()`, and the other way round, where type and position
are the same.  Nothing else may differ. -/
def Likeness.zeroSpellings : Likeness where
  span := Eq
  type := Eq
  zeros := True

/-- Whatever a lowering is given, it answers alike where nothing but the spelling of zeros
differs: the resolver is asked about lowered trees, which do not differ at all. -/
theorem LoweringContext.respects_zeroSpellings (cx : LoweringContext) :
    cx.Respects .zeroSpellings .exact where
  unknown := rfl
  span same := same
  last {span span' before before'} same same_before := by
    obtain rfl : span = span' := same
    obtain rfl : before = before' := same_before
    rfl
  typeSpan same := congrArg TypeName.span same
  mapped {type type'} same := by
    obtain rfl : type = type' := same
    exact .self (fun _ => rfl) _
  named same := congrArg TypeName.name same
  answered {target target'} name {span span'} visible targets same := by
    obtain rfl : target = target' := targets.eq
    obtain rfl : span = span' := same
    refine .self (fun resolution => ?_) _
    cases resolution with
    | capture member => exact .capture member
    | direct replacement => exact .direct replacement.like_self

/-- An error without the source text that it quotes. -/
def LoweringError.unquoted : LoweringError → LoweringError
  | .unsupported method construct _ span => .unsupported method construct "" span
  | e => e

theorem LoweringError.Like.unquoted_eq {e e' : LoweringError} (h : e.Like .exact e') :
    e.unquoted = e'.unquoted := by
  cases h with
  | unsupported method construct _ _ same =>
    exact congrArg (LoweringError.unsupported method construct "") same
  | unmappedType name same => exact congrArg (LoweringError.unmappedType name) same
  | unresolved => rfl

/-- Results that nothing tells apart but quoted texts. -/
theorem ResultsAlike.mapError_unquoted_eq {α : Type} {x y : Except LoweringError α}
    (h : ResultsAlike .exact Eq x y) :
    x.mapError LoweringError.unquoted = y.mapError LoweringError.unquoted := by
  cases h with
  | ok same => rw [same]
  | error errors => exact congrArg Except.error errors.unquoted_eq

/-- **Which spelling of a zero a method uses does not matter.**  Two methods that differ
in nothing but that some of their zeros, anywhere and any number of them, are written
`default(T)` in the one and `new T()` in the other, are lowered to the same tree with the
same captures, or refused with the same error, up to the source text that it quotes.  This
is so for every resolver, type map and capture prefix. -/
theorem lower_zeroSpellings (cx : LoweringContext) (m m' : Method)
    (alike : m.Like .zeroSpellings m') :
    (cx.lower m).mapError LoweringError.unquoted
      = (cx.lower m').mapError LoweringError.unquoted := by
  refine ResultsAlike.mapError_unquoted_eq ?_
  refine (lower_alike cx.respects_zeroSpellings alike).imp ?_
  intro r r' lowered
  obtain ⟨methods, captures_eq⟩ := lowered
  change LoweredMethod.mk r.method r.captures = ⟨r'.method, r'.captures⟩
  rw [methods.eq, captures_eq]

/-- A method with a zero in a local, a member of it behind an access that is captured, and
the same zero as an argument inside two blocks. -/
def cleared (zero : Expr) : Method where
  attributes := [⟨"Cleared", [zero]⟩]
  returnType := .named "Float3"
  name := "Cleared"
  parameters := [.plain (.named "Float3") "v"]
  body := [.declare (.single (.named "Float3") "k" (some zero)),
    .whileLoop (.binary .lt (.member zero "X" ⟨2, 9⟩) (.member (.ident "Settings") "Tint" ⟨2, 16⟩))
      [.block [.expr (.call (.ident "clear") [.ident "k", zero])]],
    .ret (some (.ident "k"))]

/-- A method that is refused for a lambda with a zero in it. -/
def clearedLater (zero : Expr) : Method :=
  { cleared zero with body := [.expr zero, .expr (.lambda ["t"] zero)] }

/-- Both spellings of a zero, in a method that is lowered and in one that is refused.  The
errors quote the two spellings. -/
theorem lower_zeroSpellings_cleared :
    let cx := (MemberTable.vectorFields.addStatic tint).context tintedTypes "__"
    let byDefault := Expr.defaultOf ⟨"Float3", ⟨2, 5⟩⟩
    let byCreation := Expr.creation ⟨"Float3", ⟨2, 5⟩⟩ []
    (cleared byDefault).Like .zeroSpellings (cleared byCreation) ∧
      (cx.lower (cleared byDefault)).mapError LoweringError.unquoted
        = (cx.lower (cleared byCreation)).mapError LoweringError.unquoted ∧
      (∃ r, cx.lower (cleared byDefault) = .ok r ∧ r.captures = ⟨[⟨"__Settings__Tint", tint⟩]⟩) ∧
      (clearedLater byDefault).Like .zeroSpellings (clearedLater byCreation) ∧
      (cx.lower (clearedLater byDefault)).mapError LoweringError.unquoted
        = (cx.lower (clearedLater byCreation)).mapError LoweringError.unquoted ∧
      cx.lower (clearedLater byDefault)
        = .error (.unsupported "Cleared" .lambda "(t) => default(Float3)" ⟨2, 5⟩) ∧
      cx.lower (clearedLater byCreation)
        = .error (.unsupported "Cleared" .lambda "(t) => new Float3()" ⟨2, 5⟩) := by
  intro cx byDefault byCreation
  have zeros : byDefault.Like .zeroSpellings byCreation := .defaultAsCreation trivial rfl
  have attributes : List.Forall₂ (Attribute.Like .zeroSpellings)
      (cleared byDefault).attributes (cleared byCreation).attributes :=
    .cons ⟨rfl, .cons zeros .nil⟩ .nil
  have parameters : List.Forall₂ (Parameter.Like .zeroSpellings)
      (cleared byDefault).parameters (cleared byCreation).parameters :=
    .cons ⟨.nil, rfl, rfl, rfl⟩ .nil
  have lowered : (cleared byDefault).Like .zeroSpellings (cleared byCreation) := by
    refine ⟨attributes, rfl, rfl, parameters, ?_⟩
    refine .cons (.declare ⟨.some rfl, .cons ⟨rfl, .some zeros⟩ .nil⟩) (.cons ?_ (.cons ?_ .nil))
    · refine .whileLoop ?_ (.cons (.block (.cons (.expr ?_) .nil)) .nil)
      · exact .binary .lt (.member "X" zeros rfl) (.member "Tint" (.ident "Settings") rfl)
      · exact .call (.ident "clear") (.cons (.ident "k") (.cons zeros .nil))
    · exact .ret (.some (.ident "k"))
  have refused : (clearedLater byDefault).Like .zeroSpellings (clearedLater byCreation) := by
    refine ⟨attributes, rfl, rfl, parameters, ?_⟩
    exact .cons (.expr zeros) (.cons (.expr (.lambda ["t"] zeros)) .nil)
  exact ⟨lowered, lower_zeroSpellings cx _ _ lowered, ⟨_, rfl, rfl⟩, refused,
    lower_zeroSpellings cx _ _ refused, rfl, rfl⟩

end ShaderLowering
