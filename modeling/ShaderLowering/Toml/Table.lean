import ShaderLowering.Data.Dictionary
import ShaderLowering.Toml.Quoted
import ShaderLowering.Toml.Value

/-!
# Tables under construction

A table is filled line by line.  How it came about decides what may still be
added to it: a table is declared by one header only, a header may declare what
longer headers have implied, and dotted keys reach only the tables that dotted
keys have made.

## Main definitions

* `Origin`, `Node`, `Table` — tables that remember how they came about.
* `Table.assign` — binds a key, with the dotted keys before it.
* `Table.declare`, `Table.append` — what a header does.
* `Table.entries` — what is in the finished table.
-/

namespace ShaderLowering.Toml

/-- How a table came about. -/
inductive Origin where
  /-- By a header of its own, by braces, or as the whole document. -/
  | declared
  /-- By a header of a table inside it. -/
  | implied
  /-- By a dotted key. -/
  | dotted
deriving DecidableEq

mutual

/-- What a key of a table under construction is bound to. -/
inductive Node where
  | value (v : Value)
  | table (t : Table)
  /-- An array of tables, of which only the last can still change. -/
  | tables (earlier : List Table) (last : Table)

/-- A table under construction. -/
inductive Table where
  | mk (origin : Origin) (entries : List (String × Node))

end

namespace Table

/-- A table without entries. -/
def empty (origin : Origin) : Table :=
  ⟨origin, []⟩

/-- Changes the table at the end of a path.  A table that is missing on the way is
made, by a dotted key or by implication; the way goes on in the last table of an
array of tables.  Dotted keys do not lead into a declared table. -/
def descend (dotted : Bool) (change : Table → Option Table) : List String → Table → Option Table
  | [], t => change t
  | name :: path, ⟨origin, entries⟩ => do
    let node ← match entries.lookup name with
      | none =>
        .table <$> descend dotted change path (empty (if dotted then .dotted else .implied))
      | some (.table (.mk .declared inner)) =>
        if dotted then none
        else .table <$> descend dotted change path ⟨.declared, inner⟩
      | some (.table t) => .table <$> descend dotted change path t
      | some (.tables earlier last) => .tables earlier <$> descend dotted change path last
      | some (.value _) => none
    return ⟨origin, bindEntry name node entries⟩

/-- Binds a key to a value.  The key must be new, and it has dots exactly if dotted
keys have made the table that it goes into. -/
def assign (key : Key) (v : Value) : Table → Option Table :=
  descend true
    (fun (.mk origin entries) =>
      if (origin = .dotted ↔ key.parents ≠ []) ∧ (entries.lookup key.name).isNone then
        some ⟨origin, bindEntry key.name (.value v) entries⟩
      else none)
    key.parents

/-- Changes what the last part of a header's key is bound to. -/
def changeAt (key : Key) (change : Option Node → Option Node) : Table → Option Table :=
  descend false
    (fun (.mk origin entries) => do
      let node ← change (entries.lookup key.name)
      return ⟨origin, bindEntry key.name node entries⟩)
    key.parents

/-- Declares a table.  It must be new or only implied so far. -/
def declare (key : Key) : Table → Option Table :=
  changeAt key fun
    | none => some (.table (empty .declared))
    | some (.table (.mk .implied entries)) => some (.table ⟨.declared, entries⟩)
    | _ => none

/-- Appends an empty table to an array of tables, which may be new. -/
def append (key : Key) : Table → Option Table :=
  changeAt key fun
    | none => some (.tables [] (empty .declared))
    | some (.tables earlier last) => some (.tables (earlier ++ [last]) (empty .declared))
    | _ => none

end Table

/-! ## Finished tables -/

mutual

/-- The value of a finished node. -/
def Node.finished : Node → Value
  | .value v => v
  | .table t => .table t.entries
  | .tables earlier last => .array (Table.finishedAll earlier ++ [.table last.entries])

/-- The entries of a finished table. -/
def Table.entries : Table → List (String × Value)
  | ⟨_, entries⟩ => Table.finishedEntries entries

/-- The entries of a finished table, entry by entry. -/
def Table.finishedEntries : List (String × Node) → List (String × Value)
  | [] => []
  | (name, node) :: rest => (name, node.finished) :: Table.finishedEntries rest

/-- The values of finished tables. -/
def Table.finishedAll : List Table → List Value
  | [] => []
  | t :: rest => .table t.entries :: Table.finishedAll rest

end

end ShaderLowering.Toml
