import ShaderLowering.Proofs.Data.Dictionary
import ShaderLowering.Proofs.Names.Captures
import ShaderLowering.Proofs.Names.Chain

/-!
# Names of captures

A capture name is the prefix followed by a suffix that depends on the member only.  So
two members have one name under a prefix exactly when they have one under any other, and
captures that are recorded under two prefixes side by side stay in step.

A capture name without dots is a path of one segment.  Where no path of a table begins
with it, nothing is registered behind it, and a chain of accesses that begins with it is
only renamed, link by link, whatever names are visible.

## Main definitions

* `MemberTable.members`, `MemberTable.paths` — what is registered in a table.
* `MemberTable.reserved` — the names that a table gives a meaning to.
* `Captures.under` — members captured under a prefix.
* `MemberTable.Apart` — a prefix whose capture names mean nothing to a table.
* `MemberTable.Inert` — expressions behind which nothing is registered then.
* `MemberTable.recaptured` — a name under one prefix as a name under another.

## Main statements

* `Captures.insert_under` — which members are recorded does not depend on the prefix.
* `MemberTable.Inert.resolve_eq` — an access to an inert target is only renamed.
-/

namespace ShaderLowering

/-! ## Prefix and suffix -/

/-- The part of a capture name that depends on the member. -/
def Member.suffix (m : Member) : String :=
  identifierOf m.owner ++ "__" ++ identifierOf m.name

theorem Member.captureName_eq (capturePrefix : String) (m : Member) :
    m.captureName capturePrefix = capturePrefix ++ m.suffix := by
  simp only [captureName, suffix, String.append_assoc]

/-- Names are told apart by their suffixes. -/
theorem Member.captureName_inj {capturePrefix : String} {m m' : Member} :
    m.captureName capturePrefix = m'.captureName capturePrefix ↔ m.suffix = m'.suffix := by
  simp only [captureName_eq, String.append_right_inj]

theorem dot_notMem_identifierOf (text : String) : '.' ∉ (identifierOf text).toList := by
  rw [identifierOf, String.toList_ofList, List.mem_map]
  rintro ⟨c, -, h⟩
  split at h
  · next letter => exact absurd (h ▸ letter) (by decide)
  · cases h

theorem Member.dot_notMem_captureName {capturePrefix : String} (h : '.' ∉ capturePrefix.toList)
    (m : Member) : '.' ∉ (m.captureName capturePrefix).toList := by
  have owner := dot_notMem_identifierOf m.owner
  have name := dot_notMem_identifierOf m.name
  simp [captureName, h, owner, name]

/-- The captures that members make under a prefix. -/
def Captures.under (capturePrefix : String) (members : List Member) : Captures :=
  ⟨members.map fun m => ⟨m.captureName capturePrefix, m⟩⟩

/-- Which members are recorded does not depend on the prefix. -/
theorem Captures.insert_under (capturePrefix : String) (members : List Member) (m : Member) :
    (under capturePrefix members).insert (m.captureName capturePrefix) m
      = under capturePrefix
          (if m.suffix ∈ members.map Member.suffix then members else members ++ [m]) := by
  have taken : (under capturePrefix members).contains (m.captureName capturePrefix) = true
      ↔ m.suffix ∈ members.map Member.suffix := by
    simp [contains, under, Member.captureName_inj]
  rw [insert]
  split
  · next h => rw [if_pos (taken.1 h)]
  · next h =>
    rw [if_neg (mt taken.2 h), under, under, List.map_append]
    rfl

/-! ## What is registered -/

namespace MemberTable

variable (t : MemberTable)

/-- The static members of a table. -/
def members : List Member :=
  t.statics.entries.map Prod.snd

/-- The paths with an entry: those of static members, those with an alias, and those that
are refused. -/
def paths : List String :=
  t.statics.entries.map (fun e => Path.extend e.1.1 e.1.2) ++ t.aliases.entries.map Prod.fst
    ++ t.refused

/-- The names that a table gives a meaning to: its aliases, and the first segments of its
paths. -/
def reserved : List String :=
  t.aliases.entries.map Prod.snd ++ t.paths.map Path.root

variable {t}

theorem mem_members_of_get? {key : String × String} {m : Member}
    (h : t.statics.get? key = some m) : m ∈ t.members :=
  List.mem_map.2 ⟨_, Dictionary.mem_entries_of_get? h, rfl⟩

theorem mem_reserved_of_alias {path x : String} (h : t.aliases.get? path = some x) :
    x ∈ t.reserved :=
  List.mem_append_left _ (List.mem_map.2 ⟨_, Dictionary.mem_entries_of_get? h, rfl⟩)

/-- A lookup that finds something has found one of the paths. -/
theorem mem_paths_of_registers {path member : String} (h : t.Registers path member) :
    Path.extend path member ∈ t.paths := by
  rcases h with refused | static | alias_some
  · exact List.mem_append_right _ (List.contains_iff_mem.1 refused)
  · obtain ⟨m, found⟩ := Option.isSome_iff_exists.1 static
    have entry := Dictionary.mem_entries_of_get? found
    exact List.mem_append_left _ (List.mem_append_left _ (List.mem_map.2 ⟨_, entry, rfl⟩))
  · obtain ⟨x, found⟩ := Option.isSome_iff_exists.1 alias_some
    have entry := Dictionary.mem_entries_of_get? found
    exact List.mem_append_left _ (List.mem_append_right _ (List.mem_map.2 ⟨_, entry, rfl⟩))

end MemberTable

/-! ## Inert expressions -/

theorem Path.fst_segments_append (cs rest : List Char) :
    (segments (cs ++ '.' :: rest)).1 = (segments cs).1 := by
  induction cs with
  | nil => simp [segments]
  | cons c cs ih =>
    simp only [List.cons_append, segments, ih]
    split <;> rfl

/-- A longer path begins with the same segment. -/
theorem Path.root_extend (path segment : String) : root (extend path segment) = root path := by
  simp [root, extend, fst_segments_append]

namespace MemberTable

variable {t : MemberTable} {capturePrefix : String}

/-- A prefix whose capture names are paths of one segment, and mean nothing to the
table. -/
structure Apart (t : MemberTable) (capturePrefix : String) : Prop where
  undotted : '.' ∉ capturePrefix.toList
  free : ∀ m ∈ t.members, m.captureName capturePrefix ∉ t.reserved

/-- An expression that is no path, or one that begins with a capture name. -/
def Inert (t : MemberTable) (capturePrefix : String) (e : Expr) : Prop :=
  ∀ path, e.path? = some path → ∃ m ∈ t.members, Path.root path = m.captureName capturePrefix

theorem Inert.of_no_path {e : Expr} (h : e.path? = none) : t.Inert capturePrefix e := by
  intro path found
  rw [h] at found
  cases found

theorem Inert.of_capture (h : '.' ∉ capturePrefix.toList) {m : Member} (hm : m ∈ t.members) :
    t.Inert capturePrefix (.ident (m.captureName capturePrefix)) := by
  intro path found
  obtain rfl : m.captureName capturePrefix = path := Option.some.inj found
  exact ⟨m, hm, Path.root_join (m.dot_notMem_captureName h) []⟩

/-- Access to an inert expression is inert. -/
theorem Inert.member {e : Expr} (h : t.Inert capturePrefix e) (name : String) (span : Span) :
    t.Inert capturePrefix (.member e name span) := by
  intro path found
  obtain ⟨inner, inner_eq, rfl⟩ := Option.map_eq_some_iff.1 found
  rw [Path.root_extend]
  exact h inner inner_eq

/-- **An access to an inert target is only renamed**, whatever names are visible: nothing
is registered behind the target. -/
theorem Inert.resolve_eq {a : Access} (h : t.Inert capturePrefix a.target)
    (apart : t.Apart capturePrefix) (visible : String → Bool) :
    t.resolve a visible = .ok (.direct (t.renamed a)) := by
  rcases t.resolve_cases a visible with ⟨path, -, target_eq, found⟩ | renamed
  · obtain ⟨m, hm, root_eq⟩ := h path target_eq
    have registers : t.Registers path a.name := by
      by_contra unregistered
      rw [(t.lookup_eq_none_iff path a.name).2 unregistered] at found
      cases found
    have listed : Path.root path ∈ t.paths.map Path.root :=
      List.mem_map.2 ⟨_, mem_paths_of_registers registers, Path.root_extend path a.name⟩
    exact absurd (List.mem_append_right _ (root_eq ▸ listed)) (apart.free m hm)
  · exact renamed

/-! ## From one prefix to another -/

/-- A name that a member has under the prefix `p`, under the prefix `q`; any other name as
it is. -/
def recaptured (t : MemberTable) (p q name : String) : String :=
  ((t.members.find? fun m => m.captureName p == name).map (Member.captureName q)).getD name

theorem recaptured_captureName {m : Member} (hm : m ∈ t.members) (p q : String) :
    t.recaptured p q (m.captureName p) = m.captureName q := by
  have found : (t.members.find? fun m' => m'.captureName p == m.captureName p).isSome := by
    rw [List.find?_isSome]
    exact ⟨m, hm, beq_self_eq_true _⟩
  obtain ⟨m', first⟩ := Option.isSome_iff_exists.1 found
  have same : m'.captureName p = m.captureName p := by
    simpa using List.find?_some first
  rw [recaptured, first, Option.map_some, Option.getD_some]
  exact Member.captureName_inj.2 (Member.captureName_inj.1 same)

/-- What a table gives a meaning to is no capture name, so it is the same under every
prefix. -/
theorem recaptured_of_mem_reserved {p : String} (apart : t.Apart p) {x : String}
    (h : x ∈ t.reserved) (q : String) : t.recaptured p q x = x := by
  have absent : (t.members.find? fun m => m.captureName p == x) = none := by
    rw [List.find?_eq_none]
    intro m hm same
    exact apart.free m hm (LawfulBEq.eq_of_beq same ▸ h)
  rw [recaptured, absent]
  rfl

end MemberTable

end ShaderLowering
