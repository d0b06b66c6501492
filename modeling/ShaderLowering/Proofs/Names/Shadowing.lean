import ShaderLowering.Proofs.Names.Chain

/-!
# Chains that begin with a local name

A local name hides whatever a member table holds for paths that begin with it.  The
table is asked at every link of a chain, and every time the target, which has been
renamed up to there, still begins with the local name.  So no link is looked up, however
the tables were filled and whatever the renames make of the links before it.

## Main statements

* `outcome_visit_linked_of_visible` — a chain from a visible name is only renamed.
-/

namespace ShaderLowering

/-- The state behind a chain.  The links are passed from the last one to the first, so the
last position seen is that of the first link with a known one. -/
def LoweringState.behindLinks (s : LoweringState) (links : List (String × Span)) :
    LoweringState :=
  { s with location := (links.find? fun link => link.2.isKnown).elim s.location Prod.snd }

namespace LoweringState

/-- The last link is passed before the others. -/
theorem behindLinks_append (s : LoweringState) (links : List (String × Span))
    (last : String × Span) :
    s.behindLinks (links ++ [last]) = (s.past last.2).behindLinks links := by
  unfold behindLinks past
  rw [List.find?_append]
  cases links.find? fun link => link.2.isKnown with
  | some link => split <;> rfl
  | none => cases known : last.2.isKnown <;> simp [known]

end LoweringState

/-- Links with their new names, each at its position. -/
def MemberTable.renameLinks (t : MemberTable) (links : List (String × Span)) :
    List (String × Span) :=
  links.map fun link => (t.rename link.1, link.2)

theorem MemberTable.renameLinks_append (t : MemberTable) (links : List (String × Span))
    (last : String × Span) :
    t.renameLinks (links ++ [last]) = t.renameLinks links ++ [(t.rename last.1, last.2)] := by
  simp [renameLinks]

/-- **A chain from a visible name is renamed link by link, and nothing else happens to
it.**  Whatever a table holds, lowering the chain succeeds, each link gets its new name
if the table has one for it and keeps its position, and of the state only the last
position seen changes: nothing is captured. -/
theorem outcome_visit_linked_of_visible (t : MemberTable) (types : TypeMap)
    (capturePrefix : String) (s : LoweringState) {first : String} (hf : '.' ∉ first.toList)
    (visible : s.scope.contains first = true) (links : List (String × Span)) :
    outcome ((Expr.linked first links).visit (t.context types capturePrefix).rules) s
      = (.ok (Expr.linked first (t.renameLinks links)), s.behindLinks links) := by
  induction links using List.reverseRecOn generalizing s with
  | nil => rfl
  | append_singleton links last ih =>
    have target := ih (s.past last.2) (by rwa [s.scope_past])
    -- The renamed chain in front of the last link still begins with the visible name.
    have begins : MemberTable.startsLocal ((s.past last.2).behindLinks links).scope.contains
        (Expr.linked first (t.renameLinks links)) = true := by
      rw [MemberTable.startsLocal_linked _ hf]
      exact (s.scope_past last.2).symm ▸ visible
    have answer : t.resolve ⟨Expr.linked first (t.renameLinks links), last.1, last.2⟩
        ((s.past last.2).behindLinks links).scope.contains
          = .ok (.direct (Expr.linked first (t.renameLinks (links ++ [last])))) := by
      rw [t.resolve_of_local begins, t.renameLinks_append, Expr.linked_append]
      rfl
    rw [Expr.linked_append, outcome_visit_link t types capturePrefix s last.1 last.2 target,
      (t.context types capturePrefix).outcome_resolve_direct answer,
      ← LoweringState.behindLinks_append]

/-- A static member, an alias and a refused path are registered for a local name, for
paths before and behind a rename, and one link is renamed to a name with a dot. -/
theorem outcome_visit_linked_of_visible_dotted :
    let t := ((((MemberTable.vectorFields.addStatic ⟨"v", "X", .named "float", .field⟩).refuse
      "v.x.Y").addAlias "v.X.Y" "y").addRename "Y" "a.b").refuse "v.x.a.b.Z"
    let s := { LoweringState.initial with scope := ⟨[["v"]]⟩ }
    s.scope.contains "v" = true ∧
      outcome ((Expr.linked "v" [("X", ⟨3, 4⟩), ("Y", .unknown), ("Z", ⟨3, 8⟩)]).visit
          (t.context .empty "__").rules) s
        = (.ok (Expr.linked "v" [("x", ⟨3, 4⟩), ("a.b", .unknown), ("z", ⟨3, 8⟩)]),
            { s with location := ⟨3, 4⟩ }) := by
  intro t s
  have visible : s.scope.contains "v" = true := by decide
  have renamed : t.renameLinks [("X", ⟨3, 4⟩), ("Y", .unknown), ("Z", ⟨3, 8⟩)]
      = [("x", ⟨3, 4⟩), ("a.b", .unknown), ("z", ⟨3, 8⟩)] := by decide
  refine ⟨visible, ?_⟩
  rw [outcome_visit_linked_of_visible t .empty "__" s (by decide) visible, renamed]
  rfl

end ShaderLowering
