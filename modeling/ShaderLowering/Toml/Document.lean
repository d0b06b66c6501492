import ShaderLowering.Toml.Table

/-!
# Documents

A document is a sequence of lines: headers, which say which table the next lines
are about, and entries of that table.  Reading finds the lines first and then
fills the tables.

## Main definitions

* `value` — a value, with the arrays and tables inside it.
* `Line`, `document` — the lines of a document.
* `entriesOf` — the entries that a text holds.
-/

namespace ShaderLowering.Toml

/-! ## Values -/

/-- How many brackets may be open at the same time. -/
def nestingLimit : Nat := 79

/-- A value that holds no others. -/
def simpleValue : Reader Value :=
  (return .string (← string))
    <|> (return .datetime (← datetime))
    <|> (return .number (← number))
    <|> (do literally ['t', 'r', 'u', 'e']; return .boolean true)
    <|> (do literally ['f', 'a', 'l', 's', 'e']; return .boolean false)

/-- Values between brackets.  A comma may follow the last one. -/
def array (item : Reader Value) : Reader Value := do
  char '['
  let items ← optional do
    let items ← separated (char ',') do
      gap
      let v ← item
      gap
      return v
    discard (optional (char ','))
    return items
  gap
  char ']'
  return .array (items.getD [])

/-- A key and its value. -/
def entry (item : Reader Value) : Reader (Key × Value) := do
  let k ← key
  char '='
  spaces
  return (k, ← item)

/-- A table between braces, on one line. -/
def inlineTable (item : Reader Value) : Reader Value := do
  char '\x7b'
  let entries ← optional do
    separated (char ',') do
      let e ← entry item
      spaces
      return e
  spaces
  char '\x7d'
  match (entries.getD []).foldlM (fun t (k, v) => t.assign k v) (Table.empty .declared) with
  | some t => return .table t.entries
  | none => failure

/-- A value in which at most the given number of brackets are open at the same
time. -/
def value : Nat → Reader Value
  | 0 => simpleValue
  | depth + 1 => simpleValue <|> array (value depth) <|> inlineTable (value depth)

/-! ## Lines -/

/-- What a line says. -/
inductive Line where
  /-- The header of a table. -/
  | table (key : Key)
  /-- The header of the next table of an array. -/
  | tables (key : Key)
  /-- An entry of the table of the last header. -/
  | entry (key : Key) (v : Value)

/-- A line that says something. -/
def line : Reader Line := do
  spaces
  let l ← tables <|> table <|> keyed
  lineRest
  return l
where
  /-- A key in double brackets. -/
  tables : Reader Line := do
    literally ['[', '[']
    let k ← key
    literally [']', ']']
    return .tables k
  /-- A key in brackets. -/
  table : Reader Line := do
    char '['
    let k ← key
    char ']'
    return .table k
  /-- A key with a value. -/
  keyed : Reader Line := do
    let (k, v) ← entry (value nestingLimit)
    return .entry k v

/-- The lines of a document that say something.  A byte-order mark may stand before
the first one, and blank lines and comments anywhere. -/
def document : Reader (List Line) := do
  discard (optional (char '\ufeff'))
  let lines ← many ((return some (← line)) <|> (do lineRest; return none))
  return lines.filterMap id

/-! ## Tables -/

/-- A document under construction: its tables, and where the last header leads. -/
structure Draft where
  root : Table
  header : List String

/-- Does what a line says. -/
def Draft.add (d : Draft) : Line → Option Draft
  | .table k => return ⟨← d.root.declare k, k.path⟩
  | .tables k => return ⟨← d.root.append k, k.path⟩
  | .entry k v => return ⟨← d.root.descend false (Table.assign k v) d.header, d.header⟩

/-- The entries that a text holds, if it is a document. -/
def entriesOf (text : String) : Option (List (String × Value)) := do
  let lines ← document.whole text
  let draft ← lines.foldlM Draft.add ⟨.empty .declared, []⟩
  return draft.root.entries

end ShaderLowering.Toml
