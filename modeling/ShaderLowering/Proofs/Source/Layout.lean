import ShaderLowering.Proofs.Source.Rows

/-!
# Reading layout

A reader goes through the rows of a text, one after the other.  It keeps the blocks that are
open, what stands in front of them, and what it has read in the innermost one.  The number of
open blocks tells how far a row is indented, and the last character of a row tells what the
row is: a statement on one line ends in a semicolon, a header line in a parenthesis, and the
rows of braces and of `else` in characters of their own.

What the rows of a statement were written from comes back, so that two statements with one
text have one skeleton.

## Main definitions

* `Opening`, `Reader` — what the reader keeps.
* `Reader.step`, `Reader.run` — reading a row, and several.
* `readStmt`, `readBody` — the skeletons of a statement, and of the last block of a text.
* `Block.PrintsAs` — a text is that of a block, or of a method with the block as its body.

## Main statements

* `reads_skeleton` — reading the lines of a skeleton gives the skeleton.
* `readStmt_source`, `readBody_eq` — the skeletons are read off the texts.
* `layout_decodable` — texts tell skeletons apart, and show them in their layout.
-/

namespace ShaderLowering

/-! ## The reader -/

/-- What the block that comes next belongs to. -/
inductive Opening where
  /-- Nothing: it is a statement by itself. -/
  | bare
  | branch (header : String)
  /-- The `else` of a conditional. -/
  | otherwise (header : String) (onTrue : List Skeleton)
  | loop (kind : LoopKind) (header : String)

namespace Opening

/-- The statement whose last block is read. -/
def close (body : List Skeleton) : Opening → Skeleton
  | bare => .block body
  | branch header => .branch header body
  | otherwise header onTrue => .choice header onTrue body
  | loop kind header => .loop kind header body

/-- What a header line announces. -/
def ofHeader? (header : String) : Option Opening :=
  if branchOpening.toList.isPrefixOf header.toList then some (branch header)
  else
    ([.forLoop, .whileLoop, .foreachLoop].find? fun kind : LoopKind =>
      kind.opening.toList.isPrefixOf header.toList).map (loop · header)

/-- What `else` announces behind a statement. -/
def ofElse? : Skeleton → Option Opening
  | .branch header onTrue => some (otherwise header onTrue)
  | _ => none

theorem ofHeader?_branch {header : String} (h : IsHeader branchOpening header) :
    ofHeader? header = some (branch header) := by
  obtain ⟨inner, -, rfl⟩ := h
  simp [ofHeader?, headerLine, branchOpening]

theorem ofHeader?_loop {kind : LoopKind} {header : String} (h : IsHeader kind.opening header) :
    ofHeader? header = some (loop kind header) := by
  obtain ⟨inner, -, rfl⟩ := h
  cases kind <;> simp [ofHeader?, headerLine, branchOpening, LoopKind.opening]

end Opening

/-- The state of the reader. -/
structure Reader where
  /-- The open blocks but the innermost one: what was read in each of them, and what the block
  inside it belongs to. -/
  outer : List (List Skeleton × Opening)
  /-- What was read in the innermost open block. -/
  read : List Skeleton
  /-- What the block that comes next belongs to. -/
  next : Opening

namespace Reader

/-- The reader in front of a text. -/
def start : Reader :=
  ⟨[], [], .bare⟩

/-- Reads a row. -/
def step (r : Reader) (row : List Char) : Option Reader :=
  let text := String.ofList (row.drop (4 * r.outer.length))
  match row.getLast? with
  | some ';' => some { r with read := r.read ++ [.simple text] }
  | some ')' => (Opening.ofHeader? text).map fun next => { r with next := next }
  | some 'e' =>
    -- No row but that of `else` ends so.
    (r.read.getLast?.bind Opening.ofElse?).map fun next =>
      { r with read := r.read.dropLast, next := next }
  | some '\x7b' => some ⟨(r.read, r.next) :: r.outer, [], .bare⟩
  | some '\x7d' =>
    match r.outer with
    | [] => none
    | (read, opening) :: outer => some ⟨outer, read ++ [opening.close r.read], .bare⟩
  | _ => none

/-- Reads several rows. -/
def run (r : Reader) (rows : List (List Char)) : Option Reader :=
  rows.foldlM step r

/-- Reading some lines leads from one state to another. -/
def Reads (r : Reader) (lines : List Line) (r' : Reader) : Prop :=
  r.run (lines.map Line.printed) = some r'

variable {r r' r'' : Reader} {outer : List (List Skeleton × Opening)} {read : List Skeleton}
  {next : Opening}

/-! ### Steps -/

theorem Reads.nil : r.Reads [] r := rfl

theorem Reads.append {lines more : List Line} (h : r.Reads lines r') (h' : r'.Reads more r'') :
    r.Reads (lines ++ more) r'' := by
  rw [Reads, run, List.map_append, List.foldlM_append]
  rw [Reads, run] at h
  rw [h]
  exact h'

theorem Reads.cons {l : Line} {lines : List Line} (first : r.step l.printed = some r')
    (h : r'.Reads lines r'') : r.Reads (l :: lines) r'' := by
  rw [Reads, run, List.map_cons, List.foldlM_cons, first]
  exact h

theorem step_simple {text : String} (h : EndsIn ';' text) :
    step ⟨outer, read, next⟩ (Line.printed ⟨outer.length, text⟩)
      = some ⟨outer, read ++ [.simple text], next⟩ := by
  rw [step, Line.getLast?_printed h.getLast?, Line.drop_printed ⟨outer.length, text⟩,
    String.ofList_toList]
  rfl

theorem step_header {header : String} {opening : Opening} (ends : EndsIn ')' header)
    (announced : Opening.ofHeader? header = some opening) :
    step ⟨outer, read, next⟩ (Line.printed ⟨outer.length, header⟩)
      = some ⟨outer, read, opening⟩ := by
  rw [step, Line.getLast?_printed ends.getLast?, Line.drop_printed ⟨outer.length, header⟩,
    String.ofList_toList, announced]
  rfl

theorem step_else {header : String} {onTrue : List Skeleton} :
    step ⟨outer, read ++ [.branch header onTrue], next⟩ (Line.printed ⟨outer.length, "else"⟩)
      = some ⟨outer, read, .otherwise header onTrue⟩ := by
  have ends : "else".toList.getLast? = some 'e' := rfl
  rw [step, Line.getLast?_printed ends]
  simp [Opening.ofElse?]

theorem step_open :
    step ⟨outer, read, next⟩ (Line.printed ⟨outer.length, "\x7b"⟩)
      = some ⟨(read, next) :: outer, [], .bare⟩ := by
  have ends : "\x7b".toList.getLast? = some '\x7b' := rfl
  rw [step, Line.getLast?_printed ends]
  rfl

theorem step_close {body : List Skeleton} :
    step ⟨(read, next) :: outer, body, .bare⟩ (Line.printed ⟨outer.length, "\x7d"⟩)
      = some ⟨outer, read ++ [next.close body], .bare⟩ := by
  have ends : "\x7d".toList.getLast? = some '\x7d' := rfl
  rw [step, Line.getLast?_printed ends]
  rfl

/-! ### Runs -/

/-- Reading a block gives the statement that it belongs to. -/
theorem Reads.braced {inner : List Line} {body : List Skeleton}
    (h : Reads ⟨(read, next) :: outer, [], .bare⟩ inner ⟨(read, next) :: outer, body, .bare⟩) :
    Reads ⟨outer, read, next⟩ (Line.braced outer.length inner)
      ⟨outer, read ++ [next.close body], .bare⟩ :=
  .cons step_open (h.append (.cons step_close .nil))

mutual

/-- Reading the lines of a skeleton gives the skeleton. -/
theorem reads_skeleton : ∀ {s : Skeleton}, s.Sound →
    ∀ (outer : List (List Skeleton × Opening)) (read : List Skeleton),
      Reads ⟨outer, read, .bare⟩ (s.lines outer.length) ⟨outer, read ++ [s], .bare⟩
  | .simple _, h, _, _ => .cons (step_simple h) .nil
  | .branch _ _, h, outer, read =>
    .cons (step_header (h.1.endsIn rfl) (Opening.ofHeader?_branch h.1))
      (reads_skeletons h.2 ((read, _) :: outer) []).braced
  | .choice _ onTrue _, h, outer, read => by
    refine .cons (step_header (h.1.endsIn rfl) (Opening.ofHeader?_branch h.1)) ?_
    refine (reads_skeletons h.2.1 ((read, _) :: outer) []).braced.append ?_
    -- The first block has ended a conditional without `else`, which is now taken back.
    exact .cons step_else (reads_skeletons h.2.2 ((read, _) :: outer) []).braced
  | .loop kind _ _, h, outer, read =>
    .cons (step_header (h.1.endsIn kind.isOneLine_opening) (Opening.ofHeader?_loop h.1))
      (reads_skeletons h.2 ((read, _) :: outer) []).braced
  | .block _, h, outer, read => (reads_skeletons h ((read, _) :: outer) []).braced
termination_by structural s => s

theorem reads_skeletons : ∀ {b : List Skeleton}, Skeleton.AllSound b →
    ∀ (outer : List (List Skeleton × Opening)) (read : List Skeleton),
      Reads ⟨outer, read, .bare⟩ (Skeleton.linesOfAll outer.length b) ⟨outer, read ++ b, .bare⟩
  | [], _, _, read => by
    rw [List.append_nil]
    exact .nil
  | s :: _, h, outer, read => by
    rw [List.append_cons]
    exact (reads_skeleton h.1 outer read).append (reads_skeletons h.2 outer (read ++ [s]))
termination_by structural b => b

end

end Reader

/-! ## Texts -/

/-- The statement that is read in rows when it is the only one. -/
def readRows (rows : List (List Char)) : Option Skeleton :=
  match Reader.start.run rows with
  | some ⟨[], [s], .bare⟩ => some s
  | _ => none

/-- The skeleton of the statement that a text is. -/
def readStmt (text : String) : Option Skeleton :=
  readRows (rows text)

theorem readRows_lines {s : Skeleton} (h : s.Sound) :
    readRows ((s.lines 0).map Line.printed) = some s := by
  have done : Reader.start.run ((s.lines 0).map Line.printed) = some ⟨[], [s], .bare⟩ :=
    Reader.reads_skeleton h [] []
  rw [readRows, done]

/-- The skeleton of a statement is read off its text. -/
theorem readStmt_source {s : Stmt} (fits : s.fitsLines = true) :
    readStmt s.source = some s.skeleton := by
  rw [readStmt, Stmt.rows_source fits, readRows_lines (Stmt.sound_skeleton fits)]

/-! ### The last block of a text -/

/-- The row of an opening brace that is not indented. -/
def outermostBrace : List Char :=
  ['\x7b']

/-- The rows behind the last brace that opens a block and is not indented. -/
def behindLastBrace (rows : List (List Char)) : List (List Char) :=
  (rows.reverse.takeWhile (· != outermostBrace)).reverse

/-- The skeleton of the last block of a text that is not indented. -/
def readBody (text : String) : Option (List Skeleton) :=
  match readRows (outermostBrace :: behindLastBrace (rows text)) with
  | some (.block body) => some body
  | _ => none

theorem behindLastBrace_append {rest : List (List Char)} (h : outermostBrace ∉ rest)
    (front : List (List Char)) : behindLastBrace (front ++ outermostBrace :: rest) = rest := by
  have others : ∀ row ∈ rest.reverse, (row != outermostBrace) = true := by
    intro row mem
    rw [List.mem_reverse] at mem
    exact bne_iff_ne.2 fun same => h (same ▸ mem)
  rw [behindLastBrace, List.reverse_append, List.reverse_cons, List.append_assoc,
    List.takeWhile_append_of_pos others]
  simp

/-- The rows of a block, but the first one, hold no brace that is not indented. -/
theorem outermostBrace_notMem {b : List Skeleton} (h : Skeleton.AllSound b) :
    outermostBrace ∉ (Skeleton.linesOfAll 1 b).map Line.printed ++ [['\x7d']] := by
  rw [List.mem_append, not_or]
  refine ⟨fun mem => ?_, by decide⟩
  obtain ⟨l, hl, printed_eq⟩ := List.mem_map.1 mem
  -- Such a row begins with a blank of its indentation.
  obtain ⟨n, depth_eq⟩ := Nat.exists_eq_add_of_le (Skeleton.allBelow_linesOfAll 1 h l hl).1
  have indented : 4 * l.depth = (4 * n + 3) + 1 := by omega
  rw [Line.printed, indented, List.replicate_succ, List.cons_append] at printed_eq
  cases (List.cons.inj printed_eq).1

/-- A text is that of a block, as a statement or as the body of a method. -/
def Block.PrintsAs (b : Block) (text : String) : Prop :=
  text = (Stmt.block b).source ∨ ∃ m : Method, m.body = b ∧ text = m.source

theorem rows_of_printsAs {b : Block} (fits : Stmt.allFitLines b = true) {text : String}
    (printed : b.PrintsAs text) : ∃ front, rows text = front ++ rows (Stmt.block b).source := by
  rcases printed with rfl | ⟨m, rfl, rfl⟩
  · exact ⟨[], (List.nil_append _).symm⟩
  · exact ⟨_, Method.rows_source fits⟩

/-- The skeleton of a block is read off its text, also behind the heading of a method. -/
theorem readBody_eq {b : Block} (fits : Stmt.allFitLines b = true) {text : String}
    (printed : b.PrintsAs text) : readBody text = some (Stmt.skeletons b) := by
  have sound := Stmt.sound_skeletons fits
  obtain ⟨front, rows_eq⟩ := rows_of_printsAs fits printed
  have block : rows (Stmt.block b).source = outermostBrace ::
      ((Skeleton.linesOfAll 1 (Stmt.skeletons b)).map Line.printed ++ [['\x7d']]) := by
    rw [Stmt.rows_source (s := .block b) fits]
    simp [Stmt.skeleton, Skeleton.lines, Line.braced, Line.printed, outermostBrace]
  rw [readBody, rows_eq, block, behindLastBrace_append (outermostBrace_notMem sound), ← block,
    Stmt.rows_source (s := .block b) fits,
    readRows_lines (Stmt.sound_skeleton (s := .block b) fits)]
  rfl

/-- **Layout is uniquely decodable.**  The texts of two blocks, each as a statement or as the
body of a method, are the same only if the blocks have the same skeleton; so are the texts of
two statements.  In these texts the lines of every nested statement are together, indented by
four blanks for each block around it, every block has one row for each of its braces with
nothing but deeper rows between the two, and at the end nothing is lost but the last line
break. -/
theorem layout_decodable {b b' : Block} (fits : Stmt.allFitLines b = true)
    (fits' : Stmt.allFitLines b' = true) :
    (∀ text, b.PrintsAs text → b'.PrintsAs text → Stmt.skeletons b = Stmt.skeletons b') ∧
    (∀ s ∈ b, ∀ s' ∈ b', s.source = s'.source → s.skeleton = s'.skeleton) ∧
    (Stmt.block b).LaidOut ∧ (∀ s ∈ b, s.LaidOut) ∧ ∀ m : Method, m.body = b → m.LaidOut := by
  refine ⟨fun text printed printed' => ?_, fun s mem s' mem' same => ?_,
    Stmt.laidOut (s := .block b) fits, fun s mem => Stmt.laidOut (Stmt.fitsLines_of_mem fits mem),
    fun m body => Method.laidOut (body ▸ fits)⟩
  · have read := (readBody_eq fits printed).symm.trans (readBody_eq fits' printed')
    exact Option.some.inj read
  · have read := readStmt_source (Stmt.fitsLines_of_mem fits mem)
    rw [same, readStmt_source (Stmt.fitsLines_of_mem fits' mem')] at read
    exact (Option.some.inj read).symm

/-- A block with a local in a conditional, and another block in front of it. -/
def localInBranch : Block :=
  [.block [], .branch (.ident "a") [.declare ⟨some (.named "float"), [⟨"x", none⟩]⟩] (some [])]

/-- The same block with a name that is spelled like the local. -/
def nameInBranch : Block :=
  [.block [], .branch (.ident "a") [.expr (.ident "float x")] (some [])]

/-- The blocks have one text, and one skeleton. -/
theorem layout_decodable_local :
    (Stmt.block localInBranch).source = (Stmt.block nameInBranch).source ∧
      Stmt.skeletons localInBranch = Stmt.skeletons nameInBranch ∧
      (Stmt.block localInBranch).LaidOut := by
  have same : (Stmt.block localInBranch).source = (Stmt.block nameInBranch).source := by rfl
  have fits : Stmt.allFitLines localInBranch = true := by decide
  have fits' : Stmt.allFitLines nameInBranch = true := by decide
  obtain ⟨decodable, -, laidOut, -⟩ := layout_decodable fits fits'
  exact ⟨same, decodable _ (.inl rfl) (.inl same), laidOut⟩

end ShaderLowering
