import Mathlib.Data.List.Induction
import ShaderLowering.Proofs.Lowering.Outcome
import ShaderLowering.Proofs.Names.MemberTable

/-!
# Chains of member accesses

How a member table resolves a dotted path.  The walk asks the table at every link
of the chain, from the root on, and each link finds the target that the links
before it have left.  While nothing is registered for the path so far, a link is
only renamed; the last link is looked up under the path that is then there, which
is the path of the source exactly when none of its inner segments is renamed.

## Main definitions

* `Path.join`, `Expr.linked`, `Expr.chain` — a path and a chain from its segments, with
  and without positions.
* `MemberTable.Registers` — a path has an entry in a table.
* `MemberTable.ActsOn` — the outcome of an access that is registered.

## Main statements

* `outcome_visit_chain` — a chain without an entry is renamed link by link.
* `visit_ofPath_registered` — when a registered path is acted on.
-/

namespace ShaderLowering

/-! ## Paths and their segments -/

namespace Path

/-- The path of a first segment and others. -/
def join (first : String) (others : List String) : String :=
  others.foldl extend first

@[simp] theorem join_nil (first : String) : join first [] = first := rfl

theorem join_append (first : String) (others : List String) (last : String) :
    join first (others ++ [last]) = extend (join first others) last := by
  simp [join]

theorem toList_join (first : String) (others : List String) :
    (join first others).toList = first.toList ++ others.flatMap fun x => '.' :: x.toList := by
  induction others using List.reverseRecOn with
  | nil => simp
  | append_singleton others last ih =>
    rw [join_append, extend, String.toList_append, String.toList_append, ih]
    simp

theorem segments_of_no_dot {cs : List Char} (h : '.' ∉ cs) : segments cs = (cs, []) := by
  induction cs with
  | nil => rfl
  | cons c cs ih =>
    rw [List.mem_cons, not_or] at h
    simp only [segments, ih h.2, Ne.symm h.1, if_false]

theorem segments_append {cs : List Char} (h : '.' ∉ cs) (rest : List Char) :
    segments (cs ++ '.' :: rest) = (cs, (segments rest).1 :: (segments rest).2) := by
  induction cs with
  | nil => simp [segments]
  | cons c cs ih =>
    rw [List.mem_cons, not_or] at h
    simp only [List.cons_append, segments, ih h.2, Ne.symm h.1, if_false]

/-- A path is cut at the dots between its segments. -/
theorem segments_join {first : String} {others : List String} (hf : '.' ∉ first.toList)
    (ho : ∀ x ∈ others, '.' ∉ x.toList) :
    segments (join first others).toList = (first.toList, others.map String.toList) := by
  rw [toList_join]
  induction others generalizing first with
  | nil => simpa using segments_of_no_dot hf
  | cons x others ih =>
    have rest := ih (ho x List.mem_cons_self) fun y hy => ho y (List.mem_cons_of_mem _ hy)
    rw [List.flatMap_cons, List.cons_append, segments_append hf, rest]
    rfl

/-- A path begins with its first segment, whatever the others are. -/
theorem root_join {first : String} (hf : '.' ∉ first.toList) (others : List String) :
    root (join first others) = first := by
  rw [root, toList_join]
  cases others with
  | nil => simp [segments_of_no_dot hf]
  | cons x others =>
    rw [List.flatMap_cons, List.cons_append, segments_append hf, String.ofList_toList]

end Path

namespace Expr

/-- The chain of accesses from a first segment to others, each with its position. -/
def linked (first : String) (links : List (String × Span)) : Expr :=
  links.foldl (fun e link => .member e link.1 link.2) (.ident first)

theorem linked_append (first : String) (links : List (String × Span)) (last : String × Span) :
    linked first (links ++ [last]) = .member (linked first links) last.1 last.2 := by
  simp [linked]

/-- Positions do not matter for a path. -/
@[simp] theorem path?_linked (first : String) (links : List (String × Span)) :
    (linked first links).path? = some (Path.join first (links.map Prod.fst)) := by
  induction links using List.reverseRecOn with
  | nil => rfl
  | append_singleton links last ih =>
    rw [linked_append, path?, ih, List.map_append, List.map_singleton, Path.join_append]
    rfl

/-- The chain of accesses from a first segment to others, without positions. -/
def chain (first : String) (others : List String) : Expr :=
  others.foldl access (.ident first)

theorem chain_eq_linked (first : String) (others : List String) :
    chain first others = linked first (others.map fun x => (x, .unknown)) := by
  rw [linked, List.foldl_map]
  rfl

theorem chain_append (first : String) (others : List String) (last : String) :
    chain first (others ++ [last]) = .member (chain first others) last .unknown := by
  simp [chain, access]

@[simp] theorem path?_chain (first : String) (others : List String) :
    (chain first others).path? = some (Path.join first others) := by
  rw [chain_eq_linked, path?_linked]
  simp [Function.comp_def]

/-- A path of segments without dots names the chain of these segments. -/
theorem ofPath_join {first : String} {others : List String} (hf : '.' ∉ first.toList)
    (ho : ∀ x ∈ others, '.' ∉ x.toList) : ofPath (Path.join first others) = chain first others := by
  simp only [ofPath, Path.segments_join hf ho, String.ofList_toList, List.foldl_map]
  rfl

end Expr

namespace MemberTable

/-- A chain begins with a visible name when its first segment is visible. -/
theorem startsLocal_linked (visible : String → Bool) {first : String} (hf : '.' ∉ first.toList)
    (links : List (String × Span)) :
    startsLocal visible (Expr.linked first links) = visible first := by
  induction links using List.reverseRecOn with
  | nil => rfl
  | append_singleton links last _ =>
    have hp := Expr.path?_linked first (links ++ [last])
    rw [Expr.linked_append] at hp ⊢
    simp only [startsLocal, hp, Path.root_join hf]

theorem startsLocal_chain (visible : String → Bool) {first : String} (hf : '.' ∉ first.toList)
    (others : List String) : startsLocal visible (Expr.chain first others) = visible first := by
  rw [Expr.chain_eq_linked, startsLocal_linked visible hf]

/-- An access to a chain whose first segment is not visible is looked up. -/
theorem resolve_chain (t : MemberTable) {visible : String → Bool} {first : String}
    (hf : '.' ∉ first.toList) (hidden : visible first = false) (others : List String)
    (name : String) (span : Span) :
    t.resolve ⟨Expr.chain first others, name, span⟩ visible
      = (t.lookup (Path.join first others) name).getD
          (.ok (.direct (.member (Expr.chain first others) (t.rename name) span))) := by
  have notLocal : startsLocal visible (Expr.chain first others) = false := by
    rw [startsLocal_chain visible hf, hidden]
  exact t.resolve_of_path notLocal (Expr.path?_chain first others)

/-! ## Registered paths -/

/-- A member behind a path has an entry: the full path is refused or has an alias,
or the pair is that of a static member. -/
def Registers (t : MemberTable) (path member : String) : Prop :=
  t.refused.contains (Path.extend path member) ∨ (t.statics.get? (path, member)).isSome
    ∨ (t.aliases.get? (Path.extend path member)).isSome

instance (t : MemberTable) (path member : String) : Decidable (t.Registers path member) :=
  inferInstanceAs (Decidable (_ ∨ _ ∨ _))

theorem lookup_eq_none_iff (t : MemberTable) (path member : String) :
    t.lookup path member = none ↔ ¬ t.Registers path member := by
  rw [Registers]
  cases hr : t.refused.contains (Path.extend path member) with
  | true => simp [t.lookup_of_refused hr]
  | false =>
    cases hs : t.statics.get? (path, member) with
    | some found => simp [t.lookup_of_static hr hs]
    | none => simp [t.lookup_of_not_static hr hs]

/-- The outcome, from a state, of an access that is registered.  A refusal comes
first, a static member second and an alias last. -/
inductive ActsOn (t : MemberTable) (capturePrefix path member : String) (s : LoweringState) :
    Except LoweringError Expr × LoweringState → Prop where
  | refused (h : t.refused.contains (Path.extend path member)) :
    ActsOn t capturePrefix path member s (.error (refusal (Path.extend path member)), s)
  | captured {found : Member} {s' : LoweringState}
      (h : t.refused.contains (Path.extend path member) = false)
      (hs : t.statics.get? (path, member) = some found)
      (recorded : s'.captures = s.captures.insert (found.captureName capturePrefix) found)
      (bound : s'.captures.contains (found.captureName capturePrefix)) :
    ActsOn t capturePrefix path member s (.ok (.ident (found.captureName capturePrefix)), s')
  | replaced {x : String} (h : t.refused.contains (Path.extend path member) = false)
      (hs : t.statics.get? (path, member) = none)
      (ha : t.aliases.get? (Path.extend path member) = some x) :
    ActsOn t capturePrefix path member s (.ok (.ident x), s)

end MemberTable

/-- A name is taken once a member is recorded under it. -/
theorem Captures.contains_insert_self (c : Captures) (name : String) (member : Member) :
    (c.insert name member).contains name = true := by
  unfold insert
  split
  · assumption
  · simp [contains]

/-! ## The walk along a chain -/

section Walk

variable (t : MemberTable) (types : TypeMap) (capturePrefix : String)

/-- A link is resolved once its target is lowered. -/
theorem outcome_visit_link {target target' : Expr} (s : LoweringState) {u : LoweringState}
    (name : String) (span : Span)
    (h : outcome (target.visit (t.context types capturePrefix).rules) (s.past span)
      = (.ok target', u)) :
    outcome ((Expr.member target name span).visit (t.context types capturePrefix).rules) s
      = outcome ((t.context types capturePrefix).resolve ⟨target', name, span⟩) u := by
  rw [visit_member, outcome_bind_ok (LowerM.outcome_passBy span s), outcome_bind_ok h]

/-- A chain none of whose paths is registered is renamed link by link.  The path
of a link is that of the renamed links before it. -/
theorem outcome_visit_chain {first : String} (hf : '.' ∉ first.toList) (others : List String)
    (s : LoweringState) (hidden : s.scope.contains first = false)
    (free : ∀ before x, before ++ [x] <+: others →
      ¬ t.Registers (Path.join first (before.map t.rename)) x) :
    outcome ((Expr.chain first others).visit (t.context types capturePrefix).rules) s
      = (.ok (Expr.chain first (others.map t.rename)), s) := by
  induction others using List.reverseRecOn with
  | nil => rfl
  | append_singleton others last ih =>
    have before := ih fun b x h => free b x (h.trans (List.prefix_append _ _))
    rw [Expr.chain_append, outcome_visit_link t types capturePrefix s last .unknown before]
    have answer := t.resolve_chain hf hidden (others.map t.rename) last .unknown
    rw [(t.lookup_eq_none_iff _ _).2 (free others last List.prefix_rfl)] at answer
    rw [(t.context types capturePrefix).outcome_resolve_direct answer, List.map_append,
      List.map_singleton, Expr.chain_append]

/-- An access to a chain acts on the entry for its path. -/
theorem actsOn_resolve_chain {first : String} (hf : '.' ∉ first.toList) (others : List String)
    (name : String) (s : LoweringState) (hidden : s.scope.contains first = false)
    (registered : t.Registers (Path.join first others) name) :
    t.ActsOn capturePrefix (Path.join first others) name s
      (outcome ((t.context types capturePrefix).resolve
        ⟨Expr.chain first others, name, .unknown⟩) s) := by
  have answer := t.resolve_chain hf hidden others name .unknown
  cases hr : t.refused.contains (Path.extend (Path.join first others) name) with
  | true =>
    rw [t.lookup_of_refused hr] at answer
    rw [(t.context types capturePrefix).outcome_resolve_error answer]
    exact .refused hr
  | false =>
    cases hs : t.statics.get? (Path.join first others, name) with
    | some found =>
      rw [t.lookup_of_static hr hs] at answer
      obtain ⟨journal, hc⟩ := (t.context types capturePrefix).outcome_resolve_capture answer
      rw [hc]
      exact .captured hr hs rfl (s.captures.contains_insert_self _ _)
    | none =>
      rw [t.lookup_of_not_static hr hs] at answer
      obtain ⟨x, ha⟩ :
          ∃ x, t.aliases.get? (Path.extend (Path.join first others) name) = some x := by
        rw [MemberTable.Registers, hr, hs] at registered
        simpa [Option.isSome_iff_exists] using registered
      rw [ha] at answer
      rw [(t.context types capturePrefix).outcome_resolve_direct answer]
      exact .replaced hr hs ha

/-- What is registered puts an identifier in the place of an access or fails. -/
theorem MemberTable.ActsOn.not_chain {t : MemberTable} {path member first last : String}
    {others : List String} {s s' : LoweringState} :
    ¬ t.ActsOn capturePrefix path member s (.ok (Expr.chain first (others ++ [last])), s') := by
  rw [Expr.chain_append]
  intro h
  cases h

/-- No segment is renamed exactly when renaming them changes nothing. -/
theorem MemberTable.map_rename_eq_self_iff (t : MemberTable) (segments : List String) :
    segments.map t.rename = segments ↔ ∀ x ∈ segments, t.rename x = x := by
  induction segments with
  | nil => simp
  | cons x segments ih => simp [ih]

section Registered

variable {first last : String} {inner : List String} (hf : '.' ∉ first.toList)
  (s : LoweringState) (hidden : s.scope.contains first = false)
  (shortest : ∀ before x, before ++ [x] <+: inner → ¬ t.Registers (Path.join first before) x)

include hf hidden shortest

/-- A chain without renamed inner segments acts on the entry for its path. -/
theorem actsOn_visit_chain (registered : t.Registers (Path.join first inner) last)
    (unrenamed : ∀ x ∈ inner, t.rename x = x) :
    t.ActsOn capturePrefix (Path.join first inner) last s
      (outcome ((Expr.chain first (inner ++ [last])).visit
        (t.context types capturePrefix).rules) s) := by
  have target := outcome_visit_chain t types capturePrefix hf inner s hidden fun before x h => by
    have kept : before.map t.rename = before := (t.map_rename_eq_self_iff before).2
      fun y hy => unrenamed y (h.subset (List.mem_append_left _ hy))
    rw [kept]
    exact shortest before x h
  rw [(t.map_rename_eq_self_iff inner).2 unrenamed] at target
  rw [Expr.chain_append, outcome_visit_link t types capturePrefix s last .unknown target]
  exact actsOn_resolve_chain t types capturePrefix hf inner last s hidden registered

/-- A chain with a renamed inner segment is only renamed, unless the path that the
renaming makes of it is registered. -/
theorem outcome_visit_renamed_chain (renamed : ¬ ∀ x ∈ inner, t.rename x = x)
    (elsewhere : ∀ before x, before ++ [x] <+: inner ++ [last] → before.map t.rename ≠ before →
      ¬ t.Registers (Path.join first (before.map t.rename)) x) :
    outcome ((Expr.chain first (inner ++ [last])).visit (t.context types capturePrefix).rules) s
      = (.ok (Expr.chain first ((inner ++ [last]).map t.rename)), s) := by
  refine outcome_visit_chain t types capturePrefix hf (inner ++ [last]) s hidden
    fun before x h => ?_
  by_cases same : before.map t.rename = before
  · rw [same]
    rcases List.prefix_concat_iff.1 h with h | h
    · obtain ⟨rfl, -⟩ := List.append_inj' h rfl
      exact absurd ((t.map_rename_eq_self_iff before).1 same) renamed
    · exact shortest before x h
  · exact elsewhere before x h same

end Registered

/-- **A registered path is acted on when none of its inner segments is renamed.**
Conversely, a path with a renamed inner segment is not acted on, unless the path
that the renaming makes of it is registered too. -/
theorem visit_ofPath_registered (s : LoweringState) {first last : String} {inner : List String}
    (hf : '.' ∉ first.toList) (hi : ∀ x ∈ inner, '.' ∉ x.toList) (hl : '.' ∉ last.toList)
    (hidden : s.scope.contains first = false)
    (registered : t.Registers (Path.join first inner) last)
    (shortest : ∀ before x, before ++ [x] <+: inner → ¬ t.Registers (Path.join first before) x) :
    ((∀ x ∈ inner, t.rename x = x) →
      t.ActsOn capturePrefix (Path.join first inner) last s
        (outcome ((Expr.ofPath (Path.join first (inner ++ [last]))).visit
          (t.context types capturePrefix).rules) s)) ∧
    ((∀ before x, before ++ [x] <+: inner ++ [last] → before.map t.rename ≠ before →
        ¬ t.Registers (Path.join first (before.map t.rename)) x) →
      (t.ActsOn capturePrefix (Path.join first inner) last s
        (outcome ((Expr.ofPath (Path.join first (inner ++ [last]))).visit
          (t.context types capturePrefix).rules) s) ↔ ∀ x ∈ inner, t.rename x = x)) := by
  have dotless : ∀ x ∈ inner ++ [last], '.' ∉ x.toList := by
    intro x hx
    rcases List.mem_append.1 hx with hx | hx
    · exact hi x hx
    · rwa [List.mem_singleton.1 hx]
  rw [Expr.ofPath_join hf dotless]
  have acts := actsOn_visit_chain t types capturePrefix hf s hidden shortest registered
  refine ⟨acts, fun elsewhere => ⟨fun h => ?_, acts⟩⟩
  -- If a segment were renamed, no link would find an entry and a chain would remain.
  by_contra renamed
  rw [outcome_visit_renamed_chain t types capturePrefix hf s hidden shortest renamed elsewhere,
    List.map_append, List.map_singleton] at h
  exact MemberTable.ActsOn.not_chain capturePrefix h

/-- A path of three segments, of which the inner one is not renamed. -/
theorem visit_ofPath_registered_alias :
    (∀ x ∈ ["Math"], (MemberTable.vectorFields.addAlias "System.Math.Max" "max").rename x = x) ∧
      (MemberTable.vectorFields.addAlias "System.Math.Max" "max").ActsOn "__"
        (Path.join "System" ["Math"]) "Max" .initial
        (outcome ((Expr.ofPath (Path.join "System" (["Math"] ++ ["Max"]))).visit
          ((MemberTable.vectorFields.addAlias "System.Math.Max" "max").context
            .empty "__").rules) .initial) := by
  have unrenamed : ∀ x ∈ ["Math"],
      (MemberTable.vectorFields.addAlias "System.Math.Max" "max").rename x = x := by decide
  refine ⟨unrenamed, (visit_ofPath_registered _ .empty "__" .initial (by decide) (by decide)
    (by decide) rfl (by decide) ?_).1 unrenamed⟩
  intro before x h
  obtain ⟨rfl, rfl⟩ : before = [] ∧ x = "Math" := by
    have := h.length_le
    cases before with
    | nil => simpa using h
    | cons y before => simp at this
  decide

/-- A refused path slips through when an inner segment is renamed: with the usual
renames, `Native.X.Open` becomes `Native.x.Open` on its way to the table. -/
theorem not_actsOn_renamed_segment :
    (MemberTable.vectorFields.refuse "Native.X.Open").Registers "Native.X" "Open" ∧
      ¬ (MemberTable.vectorFields.refuse "Native.X.Open").Registers "Native" "X" ∧
      outcome ((Expr.ofPath "Native.X.Open").visit
        ((MemberTable.vectorFields.refuse "Native.X.Open").context .empty "__").rules) .initial
          = (.ok (Expr.chain "Native" ["x", "Open"]), .initial) ∧
      ¬ (MemberTable.vectorFields.refuse "Native.X.Open").ActsOn "__" "Native.X" "Open" .initial
        (outcome ((Expr.ofPath "Native.X.Open").visit
          ((MemberTable.vectorFields.refuse "Native.X.Open").context .empty "__").rules)
            .initial) := by
  have renamed : outcome ((Expr.ofPath "Native.X.Open").visit
      ((MemberTable.vectorFields.refuse "Native.X.Open").context .empty "__").rules) .initial
        = (.ok (Expr.chain "Native" (["x"] ++ ["Open"])), .initial) := by
    have path : "Native.X.Open" = Path.join "Native" ["X", "Open"] := by decide
    rw [path, Expr.ofPath_join (by decide) (by decide), ← path]
    refine outcome_visit_chain _ .empty "__" (by decide) ["X", "Open"] .initial rfl ?_
    intro before x h
    rcases before with _ | ⟨y, _ | ⟨z, before⟩⟩
    · obtain rfl : x = "X" := by simpa using h
      decide
    · obtain ⟨rfl, rfl⟩ : y = "X" ∧ x = "Open" := by simpa using h
      decide
    · simp at h
  refine ⟨by decide, by decide, renamed, ?_⟩
  rw [renamed]
  exact MemberTable.ActsOn.not_chain "__"

end Walk

end ShaderLowering
