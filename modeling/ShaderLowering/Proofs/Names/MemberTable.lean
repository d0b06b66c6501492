import ShaderLowering.Lowering.Rules
import ShaderLowering.Names.MemberTable

/-!
# What member tables answer

The answers of a member table by cases.  An access is looked up only if its target
is a dotted path that does not begin with a visible name; what the tables say of
that path and the member is then the answer, and otherwise the access comes back
with its member renamed.

## Main definitions

* `MemberTable.context` — lowering with members resolved by tables.
* `MemberTable.refusal` — the error for a refused path.

## Main statements

* `MemberTable.lookup_cases` — the entry that a lookup has found.
* `MemberTable.resolve_cases` — where an answer comes from.
-/

namespace ShaderLowering.MemberTable

/-- What a lowering is given when its members are resolved by tables. -/
def context (t : MemberTable) (types : TypeMap) (capturePrefix : String) : LoweringContext :=
  ⟨t.resolve, types, capturePrefix⟩

/-- The error for a path that is refused. -/
def refusal (path : String) : LoweringError :=
  .unresolved path "member is not available in shader code"

variable (t : MemberTable)

/-! ## Lookup -/

theorem lookup_of_refused {path member : String}
    (h : t.refused.contains (Path.extend path member)) :
    t.lookup path member = some (.error (refusal (Path.extend path member))) := by
  simp only [lookup, h, if_true, refusal]

theorem lookup_of_static {path member : String} {found : Member}
    (hr : t.refused.contains (Path.extend path member) = false)
    (h : t.statics.get? (path, member) = some found) :
    t.lookup path member = some (.ok (.capture found)) := by
  simp only [lookup, hr, h, Bool.false_eq_true, if_false]

theorem lookup_of_not_static {path member : String}
    (hr : t.refused.contains (Path.extend path member) = false)
    (h : t.statics.get? (path, member) = none) :
    t.lookup path member
      = (t.aliases.get? (Path.extend path member)).map fun x => .ok (.direct (.ident x)) := by
  simp only [lookup, hr, h, Bool.false_eq_true, if_false]

/-- A lookup that finds something has found a refused path, a static member or an
alias. -/
theorem lookup_cases {path member : String} {answer : Except LoweringError Resolution}
    (h : t.lookup path member = some answer) :
    answer = .error (refusal (Path.extend path member)) ∨
      (∃ found, t.statics.get? (path, member) = some found ∧ answer = .ok (.capture found)) ∨
      ∃ x, t.aliases.get? (Path.extend path member) = some x
        ∧ answer = .ok (.direct (.ident x)) := by
  by_cases hr : t.refused.contains (Path.extend path member)
  · rw [t.lookup_of_refused hr] at h
    exact .inl (Option.some.inj h).symm
  · rw [Bool.not_eq_true] at hr
    right
    cases hs : t.statics.get? (path, member) with
    | some found =>
      rw [t.lookup_of_static hr hs] at h
      exact .inl ⟨found, rfl, (Option.some.inj h).symm⟩
    | none =>
      rw [t.lookup_of_not_static hr hs] at h
      obtain ⟨x, hx, ha⟩ := Option.map_eq_some_iff.1 h
      exact .inr ⟨x, hx, ha.symm⟩

/-! ## Resolution -/

variable {a : Access} {visible : String → Bool}

/-- An access whose target begins with a visible name is never looked up. -/
theorem resolve_of_local (h : startsLocal visible a.target = true) :
    t.resolve a visible = .ok (.direct (t.renamed a)) := by
  simp [resolve, h]

theorem resolve_of_no_path (h : a.targetPath? = none) :
    t.resolve a visible = .ok (.direct (t.renamed a)) := by
  simp [resolve, h]

theorem resolve_of_path {path : String} (hl : startsLocal visible a.target = false)
    (hp : a.targetPath? = some path) :
    t.resolve a visible = (t.lookup path a.name).getD (.ok (.direct (t.renamed a))) := by
  simp [resolve, hl, hp]

/-- An answer comes from a lookup or is the renamed access. -/
theorem resolve_cases (a : Access) (visible : String → Bool) :
    (∃ path, startsLocal visible a.target = false ∧ a.targetPath? = some path
        ∧ t.lookup path a.name = some (t.resolve a visible)) ∨
      t.resolve a visible = .ok (.direct (t.renamed a)) := by
  cases hl : startsLocal visible a.target with
  | true => exact .inr (t.resolve_of_local hl)
  | false =>
    cases hp : a.targetPath? with
    | none => exact .inr (t.resolve_of_no_path hp)
    | some path =>
      rw [t.resolve_of_path hl hp]
      cases h : t.lookup path a.name with
      | none => exact .inr rfl
      | some answer => exact .inl ⟨path, rfl, rfl, h⟩

/-- A table replaces an access by an identifier or by the access itself, renamed. -/
theorem replacement_cases {replacement : Expr}
    (h : t.resolve a visible = .ok (.direct replacement)) :
    (∃ path x, t.aliases.get? path = some x ∧ replacement = .ident x)
      ∨ replacement = t.renamed a := by
  rcases t.resolve_cases a visible with ⟨path, -, -, hl⟩ | hr
  · rw [h] at hl
    rcases t.lookup_cases hl with he | ⟨_, -, he⟩ | ⟨x, hx, he⟩
    · cases he
    · cases he
    · cases he
      exact .inl ⟨_, x, hx, rfl⟩
  · rw [h] at hr
    cases hr
    exact .inr rfl

/-- A table captures static members only. -/
theorem exists_static_of_resolve {member : Member}
    (h : t.resolve a visible = .ok (.capture member)) :
    ∃ key, t.statics.get? key = some member := by
  rcases t.resolve_cases a visible with ⟨path, -, -, hl⟩ | hr
  · rw [h] at hl
    rcases t.lookup_cases hl with he | ⟨found, hs, he⟩ | ⟨x, -, he⟩ <;> cases he
    exact ⟨_, hs⟩
  · rw [h] at hr
    cases hr

end ShaderLowering.MemberTable
