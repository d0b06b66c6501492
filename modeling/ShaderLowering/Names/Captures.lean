import ShaderLowering.Names.Member

/-!
# Captures

The static members that a lowered method reads, under the identifiers that stand
for them.  Captures only grow, and the first member recorded under a name keeps
it.

## Main definitions

* `Captures` — the captures in the order in which they were recorded.
* `Captures.insert`, `Captures.recorded` — recording a member.
* `Captures.get?` — the member under a name.
-/

namespace ShaderLowering

/-- A captured member and its identifier. -/
structure Capture where
  name : String
  member : Member
deriving DecidableEq, Repr, Inhabited

/-- The captures of a method, in the order in which they were recorded. -/
structure Captures where
  entries : List Capture
deriving DecidableEq, Repr, Inhabited

/-- What recording a member found. -/
inductive Recorded where
  /-- The name was free. -/
  | added
  /-- The name already stood for the same member. -/
  | known
  /-- The name stands for another member, which keeps it. -/
  | collision (bound : Member)
deriving DecidableEq, Repr

namespace Captures

/-- No captures. -/
def empty : Captures := ⟨[]⟩

/-- The member that a name stands for. -/
def get? (c : Captures) (name : String) : Option Member :=
  (c.entries.find? fun e => e.name == name).map Capture.member

/-- Whether a name is taken. -/
def contains (c : Captures) (name : String) : Bool :=
  c.entries.any fun e => e.name == name

/-- The names in use. -/
def names (c : Captures) : List String :=
  c.entries.map Capture.name

/-- The number of captures. -/
def size (c : Captures) : Nat :=
  c.entries.length

/-- What recording a member under a name finds. -/
def recorded (c : Captures) (name : String) (member : Member) : Recorded :=
  match c.get? name with
  | none => .added
  | some bound => if bound = member then .known else .collision bound

/-- Records a member under a name, unless the name is taken. -/
def insert (c : Captures) (name : String) (member : Member) : Captures :=
  if c.contains name then c else ⟨c.entries ++ [⟨name, member⟩]⟩

/-- A name is taken exactly when it stands for a member. -/
theorem contains_eq_isSome (c : Captures) (name : String) :
    c.contains name = (c.get? name).isSome := by
  simp only [contains, get?, Option.isSome_map]
  induction c.entries with
  | nil => rfl
  | cons e rest ih =>
    by_cases h : e.name == name
    · simp [h]
    · simp only [Bool.not_eq_true] at h
      simp [List.find?, h, ih]

end Captures

end ShaderLowering
