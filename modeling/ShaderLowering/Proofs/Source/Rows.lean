import ShaderLowering.Proofs.Source.Skeleton

/-!
# Rows of source text

The text of a statement is its lines, one to a row.  Each line is indented by four blanks for
every block around it, the blocks have rows of their own for their braces, and at the end
nothing is dropped but the last line break.  The text of a method is that of its body, behind
rows of a heading.

## Main definitions

* `rows` — what stands between the line breaks of a text.
* `Line.printed` — a line with its indentation.
* `Line.Solid` — lines of which nothing is dropped at the end.
* `Stmt.LaidOut`, `Method.LaidOut` — how the rows of a text belong to a tree.

## Main statements

* `Stmt.laidOut`, `Method.laidOut` — all statements and methods are written so when their
  names have no line breaks.
-/

namespace ShaderLowering

/-! ## Rows -/

/-- The rows of a text: what stands between its line breaks. -/
def rows (text : String) : List (List Char) :=
  text.toList.splitOn '\n'

/-- A line with its indentation. -/
def Line.printed (l : Line) : List Char :=
  List.replicate (4 * l.depth) ' ' ++ l.text.toList

namespace Line

theorem toList_source (l : Line) : l.source.toList = l.printed ++ ['\n'] := by
  simp [source, printed]

theorem notMem_printed {l : Line} (h : isOneLine l.text = true) : '\n' ∉ l.printed := by
  rw [printed, List.mem_append, not_or]
  refine ⟨fun mem => ?_, isOneLine_iff.1 h⟩
  cases List.eq_of_mem_replicate mem

theorem getLast?_printed {l : Line} {c : Char} (h : l.text.toList.getLast? = some c) :
    l.printed.getLast? = some c := by
  rw [printed, List.getLast?_append, h, Option.some_or]

/-- A row ends in a brace when its line does: the indentation has none. -/
theorem getLast?_printed_beq {c : Char} (hc : IsBrace c) (l : Line) :
    (l.printed.getLast? == some c) = l.lastIs c := by
  rw [lastIs]
  cases last : l.text.toList.getLast? with
  | some d => rw [getLast?_printed last]
  | none =>
    have blanks : l.printed = List.replicate (4 * l.depth) ' ' := by
      rw [printed, List.getLast?_eq_none_iff.1 last, List.append_nil]
    have other : ' ' ≠ c := by
      rcases hc with rfl | rfl <;> decide
    rw [blanks, List.getLast?_replicate]
    split <;> simp [other]

theorem drop_printed (l : Line) : l.printed.drop (4 * l.depth) = l.text.toList :=
  List.drop_left' List.length_replicate

theorem toList_join_source (lines : List Line) :
    (String.join (lines.map source)).toList = lines.flatMap fun l => l.printed ++ ['\n'] := by
  simp [String.toList_join, toList_source, List.flatMap_map]

/-- Rows that end in line breaks are told apart by these. -/
theorem splitOn_lines {lines : List Line} (h : ∀ l ∈ lines, isOneLine l.text = true) :
    (lines.flatMap fun l => l.printed ++ ['\n']).splitOn '\n' = lines.map printed ++ [[]] := by
  induction lines with
  | nil => simp
  | cons l lines ih =>
    rw [List.forall_mem_cons] at h
    rw [List.flatMap_cons, List.append_assoc, List.singleton_append,
      List.splitOn_append_cons_self_of_not_mem (notMem_printed h.1), ih h.2]
    rfl

/-- The last of several lines does not end in a blank. -/
def Solid (lines : List Line) : Prop :=
  ∃ front last c, lines = front ++ [last] ∧ last.text.toList.getLast? = some c ∧
    Text.isBlank c = false

namespace Solid

variable {lines : List Line}

theorem append_left (h : Solid lines) (more : List Line) : Solid (more ++ lines) := by
  obtain ⟨front, last, c, rfl, ends, solid⟩ := h
  exact ⟨more ++ front, last, c, by simp, ends, solid⟩

/-- Of solid lines nothing is dropped but the last line break. -/
theorem joined_eq (h : Solid lines) : joined lines ++ "\n" = String.join (lines.map source) := by
  obtain ⟨front, last, c, rfl, ends, solid⟩ := h
  obtain ⟨text, text_eq⟩ := List.getLast?_eq_some_iff.1 (getLast?_printed ends)
  have split : (String.join ((front ++ [last]).map source)).toList
      = front.flatMap (fun l => l.printed ++ ['\n']) ++ text ++ [c] ++ ['\n'] := by
    rw [toList_join_source, List.flatMap_append, List.flatMap_singleton, text_eq]
    simp only [List.append_assoc]
  rw [← String.toList_inj, String.toList_append, split, joined, Text.trimEnd, split,
    String.toList_ofList, Text.dropEndWhile_append_of _ rfl,
    Text.dropEndWhile_append_of_not _ solid]
  rfl

/-- What is written in front of solid lines stays as it is. -/
theorem joined_append (h : Solid lines) (front : List Line) :
    joined (front ++ lines) = String.join (front.map source) ++ joined lines := by
  have whole := (h.append_left front).joined_eq
  rw [List.map_append, String.join_append, ← h.joined_eq, ← String.append_assoc] at whole
  exact (String.append_left_inj _).1 whole

/-- The rows of solid lines are the lines, with their indentation. -/
theorem rows_joined (h : Solid lines) (oneLine : ∀ l ∈ lines, isOneLine l.text = true) :
    rows (joined lines) = lines.map printed := by
  have whole := splitOn_lines oneLine
  rw [← toList_join_source, ← h.joined_eq, String.toList_append] at whole
  -- The line break that was dropped comes back, and with it an empty row on both sides.
  have split : (joined lines).toList ++ "\n".toList = (joined lines).toList ++ '\n' :: [] := rfl
  rw [split, List.splitOn_append_cons_self] at whole
  exact List.append_cancel_right whole

end Solid

end Line

/-! ## Statements and methods -/

/-- Lines in braces end in a brace. -/
theorem Line.solid_braced (depth : Nat) (inner : List Line) : Solid (braced depth inner) :=
  ⟨⟨depth, "\x7b"⟩ :: inner, ⟨depth, "\x7d"⟩, '\x7d', rfl,
    (rfl : "\x7d".toList.getLast? = some '\x7d'), by decide⟩

theorem Skeleton.solid_lines {s : Skeleton} (h : s.Sound) (depth : Nat) :
    Line.Solid (s.lines depth) := by
  cases s with
  | simple text => exact ⟨[], ⟨depth, text⟩, ';', rfl, h.getLast?, by decide⟩
  | branch header onTrue => exact (Line.solid_braced depth _).append_left [_]
  | choice header onTrue onFalse =>
    rw [lines, ← List.cons_append, List.append_cons]
    exact (Line.solid_braced depth _).append_left _
  | loop kind header body => exact (Line.solid_braced depth _).append_left [_]
  | block body => exact Line.solid_braced depth _

section Stmt

variable {s : Stmt}

theorem Stmt.solid_lines (fits : s.fitsLines = true) : Line.Solid (s.lines 0) := by
  rw [s.lines_eq_skeleton]
  exact Skeleton.solid_lines (Stmt.sound_skeleton fits) 0

/-- The rows of a statement are its lines. -/
theorem Stmt.rows_source (fits : s.fitsLines = true) :
    rows s.source = (s.skeleton.lines 0).map Line.printed := by
  have below := Skeleton.allBelow_lines 0 (Stmt.sound_skeleton fits)
  rw [source, (Stmt.solid_lines fits).rows_joined, s.lines_eq_skeleton]
  rw [s.lines_eq_skeleton]
  exact fun l mem => (below l mem).2

/-- The rows of a statement that end in one of the braces are as many as its blocks. -/
theorem Stmt.countP_rows_source (fits : s.fitsLines = true) {c : Char} (hc : IsBrace c) :
    (rows s.source).countP (·.getLast? == some c) = s.skeleton.blockCount := by
  rw [Stmt.rows_source fits, List.countP_map,
    ← Skeleton.countP_lastIs hc 0 (Stmt.sound_skeleton fits)]
  exact congrArg (List.countP · _) (funext fun l => l.getLast?_printed_beq hc)

end Stmt

/-- What a method is written with in front of its body. -/
def Method.heading (m : Method) : String :=
  (match m.attributes with | [] => "" | attributes => Attribute.sources attributes ++ "\n")
    ++ m.signature

theorem Method.lines_eq (m : Method) :
    ∃ front, m.lines = front ++ (Stmt.block m.body).lines 0 ∧
      String.join (front.map Line.source) = m.heading ++ "\n" := by
  rw [lines, heading]
  cases m.attributes with
  | nil => exact ⟨[⟨0, m.signature⟩], rfl, by simp [Line.source]⟩
  | cons a rest =>
    exact ⟨[⟨0, Attribute.sources (a :: rest)⟩, ⟨0, m.signature⟩], rfl,
      by simp [Line.source, String.append_assoc]⟩

/-- A method is written as its heading and the block of its body, each on rows of its own. -/
theorem Method.source_eq {m : Method} (fits : Stmt.allFitLines m.body = true) :
    m.source = m.heading ++ "\n" ++ (Stmt.block m.body).source := by
  have solid : Line.Solid ((Stmt.block m.body).lines 0) := Stmt.solid_lines (s := .block _) fits
  obtain ⟨front, lines_eq, front_eq⟩ := m.lines_eq
  rw [source, lines_eq, solid.joined_append, front_eq, Stmt.source]

theorem Method.rows_source {m : Method} (fits : Stmt.allFitLines m.body = true) :
    rows m.source = rows m.heading ++ rows (Stmt.block m.body).source := by
  have split : m.source.toList = m.heading.toList ++ '\n' :: (Stmt.block m.body).source.toList := by
    rw [Method.source_eq fits]
    simp
  rw [rows, split, List.splitOn_append_cons_self]
  rfl

/-! ## Layout -/

/-- How a statement is laid out. -/
structure Stmt.LaidOut (s : Stmt) : Prop where
  /-- The rows are the lines, with their indentation. -/
  rows_eq : rows s.source = (s.lines 0).map Line.printed
  /-- Nothing is lost at the end but the last line break. -/
  nothing_lost : s.source ++ "\n" = String.join ((s.lines 0).map Line.source)
  /-- The lines of a nested statement are together, at the depth of the blocks around it, and
  in the braces of its own blocks all lines are deeper. -/
  nested : ∀ {t : Stmt} {d : Nat}, t.NestedIn d s →
    (∃ before after, rows s.source
      = before ++ (t.skeleton.parts.flatMap (Skeleton.Part.lines d)).map Line.printed ++ after) ∧
    ∀ body, .block body ∈ t.skeleton.parts →
      ∀ l ∈ Skeleton.linesOfAll (d + 1) body, d < l.depth
  /-- Every block has one row for each of its braces, and no other row ends in one. -/
  braces : ∀ {c : Char}, IsBrace c →
    (rows s.source).countP (·.getLast? == some c) = s.skeleton.blockCount

/-- How a method is laid out. -/
structure Method.LaidOut (m : Method) : Prop where
  /-- The body is written as a block, on rows behind those of the heading. -/
  rows_eq : rows m.source = rows m.heading ++ rows (Stmt.block m.body).source
  body : (Stmt.block m.body).LaidOut
  /-- Nothing is lost at the end but the last line break. -/
  nothing_lost : m.source ++ "\n" = String.join (m.lines.map Line.source)

theorem Stmt.laidOut {s : Stmt} (fits : s.fitsLines = true) : s.LaidOut where
  rows_eq := by rw [Stmt.rows_source fits, s.lines_eq_skeleton]
  nothing_lost := (Stmt.solid_lines fits).joined_eq
  nested {t d} h := by
    obtain ⟨before, after, lines_eq⟩ := h.exists_lines 0
    rw [Nat.zero_add] at lines_eq
    refine ⟨⟨before.map Line.printed, after.map Line.printed, ?_⟩, fun body mem l hl => ?_⟩
    · rw [Stmt.rows_source fits, lines_eq, Skeleton.lines_eq_parts d, List.map_append,
        List.map_append]
    · have sound := (h.sound (Stmt.sound_skeleton fits)).of_mem_parts mem
      exact (Skeleton.allBelow_linesOfAll (d + 1) sound l hl).1
  braces := Stmt.countP_rows_source fits

theorem Method.laidOut {m : Method} (fits : Stmt.allFitLines m.body = true) : m.LaidOut where
  rows_eq := Method.rows_source fits
  body := Stmt.laidOut (s := .block _) fits
  nothing_lost := by
    have solid : Line.Solid ((Stmt.block m.body).lines 0) := Stmt.solid_lines (s := .block _) fits
    obtain ⟨front, lines_eq, -⟩ := m.lines_eq
    rw [source, lines_eq]
    exact (solid.append_left front).joined_eq

end ShaderLowering
