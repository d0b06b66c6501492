import ShaderLowering.Data.Dictionary
import ShaderLowering.Names.Resolver
import ShaderLowering.Tree.Path

/-!
# Member tables

A resolver given by tables.  An access whose target is a dotted path that does
not begin with a local name is looked up by that path: it may be refused, be a
static member to capture, or be replaced by a shader identifier.  Every other
access keeps its target, and its member is renamed if the renames say so.

## Main definitions

* `MemberTable` — the four tables, with `empty` and `vectorFields` to start from.
* `TableEntry`, `MemberTable.add`, `MemberTable.addAll` — what can be put into them.
* `MemberTable.resolve` — the resolver.
-/

namespace ShaderLowering

/-- Tables of static members, of paths with a shader identifier, of renamed
members and of refused paths. -/
structure MemberTable where
  /-- Static members by the name of their type and their own name. -/
  statics : Dictionary (String × String) Member
  /-- Shader identifiers by path. -/
  aliases : Dictionary String String
  /-- New member names by old ones. -/
  renames : Dictionary String String
  /-- Paths that shader code must not contain. -/
  refused : List String

/-- An entry of one of the tables. -/
inductive TableEntry where
  /-- A static member that can be captured. -/
  | static (member : Member)
  /-- A shader identifier that stands for a path. -/
  | alias (path replacement : String)
  /-- A new name for a member, whatever its target. -/
  | rename (member replacement : String)
  /-- A path that is refused. -/
  | refused (path : String)
deriving DecidableEq, Repr

namespace MemberTable

/-- The tables without entries. -/
def empty : MemberTable :=
  ⟨.empty, .empty, .empty, []⟩

/-- Adds a static member. -/
def addStatic (t : MemberTable) (member : Member) : MemberTable :=
  { t with statics := t.statics.insert (member.owner, member.name) member }

/-- Adds a shader identifier for a path. -/
def addAlias (t : MemberTable) (path replacement : String) : MemberTable :=
  { t with aliases := t.aliases.insert path replacement }

/-- Adds a new name for a member. -/
def addRename (t : MemberTable) (member replacement : String) : MemberTable :=
  { t with renames := t.renames.insert member replacement }

/-- Refuses a path. -/
def refuse (t : MemberTable) (path : String) : MemberTable :=
  { t with refused := path :: t.refused }

/-- The tables that only rename the fields of vectors to their shader names. -/
def vectorFields : MemberTable :=
  (((empty.addRename "X" "x").addRename "Y" "y").addRename "Z" "z").addRename "W" "w"

/-- Adds an entry. -/
def add (t : MemberTable) : TableEntry → MemberTable
  | .static member => t.addStatic member
  | .alias path replacement => t.addAlias path replacement
  | .rename member replacement => t.addRename member replacement
  | .refused path => t.refuse path

/-- Adds several entries, first to last. -/
def addAll (t : MemberTable) (entries : List TableEntry) : MemberTable :=
  entries.foldl add t

/-- Whether the target of an access begins with a visible name.  An identifier
counts as a whole, a longer path by its first segment. -/
def startsLocal (visible : String → Bool) (target : Expr) : Bool :=
  match target with
  | .ident name => visible name
  | _ =>
    match target.path? with
    | some path => visible (Path.root path)
    | none => false

/-- What the tables say of a path and a member, if anything. -/
def lookup (t : MemberTable) (path member : String) : Option (Except LoweringError Resolution) :=
  let full := Path.extend path member
  if t.refused.contains full then
    some (.error (.unresolved full "member is not available in shader code"))
  else
    match t.statics.get? (path, member) with
    | some found => some (.ok (.capture found))
    | none => (t.aliases.get? full).map fun replacement => .ok (.direct (.ident replacement))

/-- The new name of a member. -/
def rename (t : MemberTable) (member : String) : String :=
  (t.renames.get? member).getD member

/-- The access with its member renamed. -/
def renamed (t : MemberTable) (a : Access) : Expr :=
  .member a.target (t.rename a.name) a.span

/-- The resolver of the tables. -/
def resolve (t : MemberTable) : Resolver := fun a visible =>
  let found :=
    if startsLocal visible a.target then none
    else a.targetPath?.bind fun path => t.lookup path a.name
  found.getD (.ok (.direct (t.renamed a)))

end MemberTable

end ShaderLowering
