import ShaderLowering.Names.MemberTable
import ShaderLowering.Proofs.Data.Dictionary
import ShaderLowering.Proofs.Lowering.Outcome
import ShaderLowering.Proofs.Tree.Related
import ShaderLowering.Settings
import ShaderLowering.Tree.Build

/-!
# More types

A type map decides whether a method can be lowered, and what its types become.  Adding
to a map can make more methods lowerable, but changes nothing for those that were
lowerable before: they never asked for what has been added.

The proof runs a method twice from one state, with the one map and with the other.  As
long as the first run succeeds, the second does the same things in the same states; what
happens when the first fails is left open, and that is what makes the relation between
them go through sequencing.

Chosen types are laid over the built-in ones entry by entry.  Their keys differ, so the
map that comes out is the same in whatever order they are taken.

## Main definitions

* `TypeMap.ExtendedBy` — a map that agrees with another one where that maps anything.
* `Persists` — a step that goes on to succeed.

## Main statements

* `persists_rules` — lowering with more types.
* `TypeMap.extendedBy_registerAll` — types laid over others, in any order.
* `lower_more_types` — what could be lowered is lowered alike.
-/

namespace ShaderLowering

/-! ## Maps with more types -/

/-- A type map is extended by one that agrees with it on every host type that it maps. -/
def TypeMap.ExtendedBy (types more : TypeMap) : Prop :=
  ∀ host shader, types.lookup host = some shader → more.lookup host = some shader

theorem TypeMap.ExtendedBy.map_eq_ok {types more : TypeMap} (extended : types.ExtendedBy more)
    {type mapped : TypeName} (h : types.map type = .ok mapped) : more.map type = .ok mapped := by
  rw [map] at h ⊢
  cases found : types.lookup type.name with
  | none => simp [found] at h
  | some shader =>
    rw [extended _ _ found]
    simpa only [found] using h

/-! ## Steps that persist -/

/-- Whenever one step succeeds, another one succeeds with the same result and leaves the
same state. -/
def Persists {α : Type} (x y : LowerM α) : Prop :=
  ∀ ⦃s t a⦄, outcome x s = (.ok a, t) → outcome y s = (.ok a, t)

namespace Persists

variable {α β : Type}

theorem refl (x : LowerM α) : Persists x x :=
  fun _ _ _ h => h

theorem bind {x y : LowerM α} {f g : α → LowerM β} (hx : Persists x y)
    (hf : ∀ a, Persists (f a) (g a)) : Persists (x >>= f) (y >>= g) := by
  intro s t b h
  obtain ⟨a, u, first, second⟩ := outcome_bind_eq_ok.1 h
  exact outcome_bind_eq_ok.2 ⟨a, u, hx first, hf a second⟩

theorem inFrame {x y : LowerM α} (h : Persists x y) :
    Persists (LowerM.inFrame x) (LowerM.inFrame y) := by
  intro s t a succeeds
  rw [LowerM.outcome_inFrame] at succeeds ⊢
  rcases inside : outcome x { s with scope := s.scope.push } with ⟨e | b, u⟩
  · rw [inside] at succeeds
    cases succeeds
  · rw [inside] at succeeds
    rw [h inside]
    exact succeeds

end Persists

/-- The relation of a step to one that succeeds whenever it does. -/
def persisting : StepRelation LowerM LowerM where
  Rel := Persists
  pure a := .refl (pure a)
  bind := .bind

section Rules

open LowerM

variable {types more : TypeMap}

/-- A context with other types. -/
def LoweringContext.withTypes (cx : LoweringContext) (types : TypeMap) : LoweringContext :=
  { cx with types := types }

theorem persists_mapType (cx : LoweringContext) (extended : cx.types.ExtendedBy more)
    (type : TypeName) : Persists (cx.mapType type) ((cx.withTypes more).mapType type) := by
  intro s t mapped h
  rw [LoweringContext.outcome_mapType] at h ⊢
  obtain ⟨mapped_eq, rfl⟩ := Prod.mk.inj h
  exact congrArg (·, _) (extended.map_eq_ok mapped_eq)

/-- The rules persist when there are more types.  Only mapping a type depends on them. -/
theorem persists_rules (cx : LoweringContext) (extended : cx.types.ExtendedBy more) :
    cx.rules.Related persisting (cx.withTypes more).rules := by
  have mapped := persists_mapType cx extended
  constructor
  case method =>
    intro node x y children
    refine persisting.bind (Persists.refl _) fun _ => persisting.bind (Persists.refl _) fun _ => ?_
    exact persisting.bind children fun lowered => persisting.result (mapped lowered.returnType) _
  case parameter =>
    intro node x y _
    exact persisting.bind (mapped node.type) fun _ => Persists.refl _
  case block =>
    intro node x y children
    exact children.inFrame
  case stmt =>
    intro node x y children
    cases node with
    | foreachLoop => exact Persists.refl _
    | forLoop => exact children.inFrame
    | _ => exact children
  case declaration =>
    intro node x y children
    obtain ⟨type, declarators⟩ := node
    cases type with
    | none => exact Persists.refl _
    | some type => exact persisting.bind children fun _ => persisting.result (mapped type) _
  case declarator =>
    intro node x y children
    exact persisting.bind children fun _ => Persists.refl _
  case expr =>
    intro node x y children
    cases node with
    | literal value =>
      cases value with
      | string | null => exact Persists.refl _
      | _ => exact children
    | lambda => exact Persists.refl _
    | _ => exact children
  case access =>
    intro node x y children
    refine persisting.bind (Persists.refl _) fun _ => ?_
    exact persisting.bind children fun _ => Persists.refl _
  case cast =>
    intro type operand x y children
    exact persisting.bind children fun _ => persisting.result (mapped type) _
  case creation =>
    intro type args x y children
    exact persisting.bind children fun _ => persisting.bind (mapped type) fun _ => Persists.refl _
  case creationWith =>
    intro type args fields x y _
    exact Persists.refl _
  case defaultOf =>
    intro type
    exact persisting.result (mapped type) _

/-- A method that is lowered is lowered alike with more types. -/
theorem lower_of_extendedBy (cx : LoweringContext) {m : Method} {r : LoweredMethod}
    (extended : cx.types.ExtendedBy more) (h : cx.lower m = .ok r) :
    (cx.withTypes more).lower m = .ok r := by
  have persists : Persists (m.visit cx.rules) (m.visit (cx.withTypes more).rules) :=
    m.visit_related (persists_rules cx extended)
  rw [LoweringContext.lower_eq_match] at h ⊢
  rcases walk : outcome (m.visit cx.rules) .initial with ⟨e | lowered, s⟩
  · rw [walk] at h
    cases h
  · rw [walk] at h
    rw [persists walk]
    exact h

end Rules

/-! ## Chosen types -/

/-- Looking a type up is finding it in the table. -/
theorem TypeMap.lookup_registerAll (types : TypeMap) (entries : List (String × String))
    (host : String) :
    (types.registerAll entries).lookup host = (types.table.insertAll entries).get? host := rfl

/-- The type of a host name that is added is the added one, and the type of any other name
is what it was. -/
theorem TypeMap.lookup_registerAll_entries (types : TypeMap) (chosen : Dictionary String String)
    (host : String) :
    (types.registerAll chosen.entries).lookup host
      = (chosen.get? host).or (types.lookup host) := by
  rw [lookup_registerAll]
  cases found : chosen.get? host with
  | some shader =>
    rw [Dictionary.get?_insertAll_of_mem _ chosen.distinct (Dictionary.mem_entries_of_get? found)]
    rfl
  | none =>
    have missing : host ∉ chosen.entries.map Prod.fst := by
      intro key
      obtain ⟨⟨k, shader⟩, entry, rfl⟩ := List.mem_map.1 key
      rw [Dictionary.get?_eq_some_iff.2 entry] at found
      cases found
    rw [Dictionary.get?_insertAll_of_notMem _ missing]
    rfl

/-- Types may be added in any order. -/
theorem TypeMap.lookup_registerAll_of_perm (types : TypeMap) (chosen : Dictionary String String)
    {order : List (String × String)} (perm : order.Perm chosen.entries) (host : String) :
    (types.registerAll order).lookup host = (types.registerAll chosen.entries).lookup host := by
  rw [lookup_registerAll, lookup_registerAll]
  exact types.table.get?_insertAll_of_perm chosen.distinct perm host

/-- Types that give no mapped host type another shader type extend a map. -/
theorem TypeMap.extendedBy_registerAll (types : TypeMap) {chosen : Dictionary String String}
    {order : List (String × String)} (perm : order.Perm chosen.entries)
    (agrees : ∀ host shader other, types.lookup host = some shader →
      chosen.get? host = some other → other = shader) :
    types.ExtendedBy (types.registerAll order) := by
  intro host shader found
  rw [types.lookup_registerAll_of_perm chosen perm, types.lookup_registerAll_entries, found]
  cases taken : chosen.get? host with
  | none => rfl
  | some other => exact congrArg some (agrees host shader other found taken)

/-- **More types change nothing for what could be lowered.**  A method that is lowered with
one type map is lowered to the same tree, with the same captures, with every map that
agrees with it on what it maps.  So it is with the built-in types and any types that a
user chooses, taken in any order, if none of them gives a built-in host type another
shader type; and the order makes no difference to what any host type is mapped to. -/
theorem lower_more_types (resolver : Resolver) (capturePrefix : String) (m : Method)
    (r : LoweredMethod) :
    (∀ types more : TypeMap, types.ExtendedBy more →
      (LoweringContext.mk resolver types capturePrefix).lower m = .ok r →
      (LoweringContext.mk resolver more capturePrefix).lower m = .ok r) ∧
    ∀ (s : Settings) (order : List (String × String)), order.Perm s.types.entries →
      (∀ host, (TypeMap.builtin.registerAll order).lookup host = s.typeMap.lookup host) ∧
      ((∀ host shader chosen, TypeMap.builtin.lookup host = some shader →
          s.types.get? host = some chosen → chosen = shader) →
        (LoweringContext.mk resolver .builtin capturePrefix).lower m = .ok r →
        (LoweringContext.mk resolver (TypeMap.builtin.registerAll order) capturePrefix).lower m
          = .ok r) := by
  have general : ∀ types more : TypeMap, types.ExtendedBy more →
      (LoweringContext.mk resolver types capturePrefix).lower m = .ok r →
      (LoweringContext.mk resolver more capturePrefix).lower m = .ok r := by
    intro types more extended h
    exact lower_of_extendedBy ⟨resolver, types, capturePrefix⟩ extended h
  refine ⟨general, ?_⟩
  intro s order perm
  constructor
  · rw [Settings.typeMap]
    exact TypeMap.builtin.lookup_registerAll_of_perm s.types perm
  · intro agrees h
    have extended := TypeMap.builtin.extendedBy_registerAll perm agrees
    exact general _ _ extended h

/-- A member of type `float`. -/
def warmth : Member :=
  ⟨"Settings", "Warmth", .named "float", .field⟩

/-- A method over built-in types that reads `warmth`. -/
def warmed : Method where
  attributes := []
  returnType := .named "Vector3"
  name := "Warmed"
  parameters := [.plain ⟨"Float3", ⟨2, 9⟩⟩ "v"]
  body := [.ret (some
    (.binary .mul (.ident "v") (.access (.ident "Settings") "Warmth")))]

/-- What becomes of `warmed`. -/
def warmedShader : Method where
  attributes := []
  returnType := .named "float3"
  name := "Warmed"
  parameters := [.plain ⟨"float3", ⟨2, 9⟩⟩ "v"]
  body := [.ret (some (.binary .mul (.ident "v") (.ident "__Settings__Warmth")))]

/-- Settings with a type of their own and one that says again what is built in. -/
def colored : Settings where
  capturePrefix := defaultCapturePrefix
  types := .ofList [("Color", "float4"), ("Vector3", "float3")]

/-- What `warmed` refers to. -/
def warmedResolver : Resolver :=
  (MemberTable.empty.addStatic warmth).resolve

/-- Lowering `warmed` with one more type, and with the types of `colored`, taken last to
first. -/
theorem lower_more_types_colored :
    (LoweringContext.mk warmedResolver (TypeMap.builtin.register "Color" "float4") "__").lower
        warmed
      = .ok ⟨warmedShader, ⟨[⟨"__Settings__Warmth", warmth⟩]⟩⟩ ∧
    (LoweringContext.mk warmedResolver
        (TypeMap.builtin.registerAll [("Vector3", "float3"), ("Color", "float4")]) "__").lower
        warmed
      = .ok ⟨warmedShader, ⟨[⟨"__Settings__Warmth", warmth⟩]⟩⟩ := by
  have lowered : (LoweringContext.mk warmedResolver .builtin "__").lower warmed
      = .ok ⟨warmedShader, ⟨[⟨"__Settings__Warmth", warmth⟩]⟩⟩ := by rfl
  obtain ⟨general, chosen⟩ := lower_more_types warmedResolver "__" warmed _
  constructor
  · have extended : TypeMap.builtin.ExtendedBy (TypeMap.builtin.register "Color" "float4") := by
      intro host shader found
      have new : TypeMap.builtin.lookup "Color" = none := by decide
      have other : host ≠ "Color" := by
        rintro rfl
        rw [new] at found
        cases found
      rw [TypeMap.lookup_register, if_neg other, found]
    exact general _ _ extended lowered
  · have perm : [("Vector3", "float3"), ("Color", "float4")].Perm colored.types.entries :=
      List.Perm.swap _ _ _
    have agrees : ∀ host shader chosen, TypeMap.builtin.lookup host = some shader →
        colored.types.get? host = some chosen → chosen = shader := by
      intro host shader chosen found taken
      have entry : (host, chosen) ∈ colored.types.entries :=
        Dictionary.mem_entries_of_get? taken
      have kept : ∀ e ∈ colored.types.entries,
          (TypeMap.builtin.lookup e.1).getD e.2 = e.2 := by decide
      have same := kept _ entry
      rw [found] at same
      exact same.symm
    exact (chosen colored _ perm).2 agrees lowered

end ShaderLowering
