import ShaderLowering.Proofs.Source.OneLine

/-!
# Skeletons of statements

What the lines of a statement show of its tree: which statements stand on one line, with the
text of that line, and which have blocks, with the text of the line above.

## Main definitions

* `Skeleton` — statements as trees of lines.
* `Stmt.skeleton` — the skeleton of a statement.
* `Skeleton.lines`, `Skeleton.parts` — its lines, all of them and part by part.
* `Skeleton.Sound` — every line is of the form that belongs to its place.
* `Stmt.NestedIn` — a statement stands in another one, below a number of blocks.

## Main statements

* `Stmt.lines_eq_skeleton` — a statement has the lines of its skeleton.
* `Stmt.sound_skeleton` — the skeleton of a statement that fits its lines is sound.
* `Skeleton.countP_lastIs` — every block has one line for each of its braces.
* `Stmt.NestedIn.exists_lines` — where the lines of a nested statement are.
-/

namespace ShaderLowering

/-! ## Skeletons -/

/-- The loops. -/
inductive LoopKind where
  | forLoop | whileLoop | foreachLoop
deriving DecidableEq, Repr

/-- What the header line of a loop begins with. -/
def LoopKind.opening : LoopKind → String
  | .forLoop => "for ("
  | .whileLoop => "while ("
  | .foreachLoop => "foreach ("

/-- What the header line of a conditional begins with. -/
def branchOpening : String :=
  "if ("

/-- A header line: what it begins with, and what stands in its parentheses. -/
def headerLine (opening inner : String) : String :=
  opening ++ inner ++ ")"

/-- A statement as its lines show it. -/
inductive Skeleton where
  /-- A statement on one line. -/
  | simple (text : String)
  /-- A conditional without `else`. -/
  | branch (header : String) (onTrue : List Skeleton)
  /-- A conditional with `else`. -/
  | choice (header : String) (onTrue onFalse : List Skeleton)
  | loop (kind : LoopKind) (header : String) (body : List Skeleton)
  | block (body : List Skeleton)

/-- The first part of the header of a `for` loop. -/
def Stmt.initSource : Option Stmt → String
  | none => ""
  | some init => init.headerSource (Stmt.lines 0 init)

/-- What stands in the parentheses of a `for` loop. -/
def forInner (init : Option Stmt) (cond : Option Expr) (step : List Expr) : String :=
  Stmt.initSource init ++ "; " ++ optionalSource cond ++ "; " ++ Expr.listSource step

/-- What stands in the parentheses of a `foreach` loop. -/
def foreachInner (type : TypeName) (name : String) (collection : Expr) : String :=
  type.name ++ " " ++ name ++ " in " ++ collection.source

mutual

/-- The skeleton of a statement. -/
def Stmt.skeleton : Stmt → Skeleton
  | .declare declaration => .simple (declaration.source ++ ";")
  | .expr value => .simple (value.source ++ ";")
  | .ret none => .simple "return;"
  | .ret (some value) => .simple ("return " ++ value.source ++ ";")
  | .branch cond onTrue none =>
    .branch (headerLine branchOpening cond.source) (Stmt.skeletons onTrue)
  | .branch cond onTrue (some onFalse) =>
    .choice (headerLine branchOpening cond.source) (Stmt.skeletons onTrue)
      (Stmt.skeletons onFalse)
  | .forLoop init cond step body =>
    .loop .forLoop (headerLine LoopKind.forLoop.opening (forInner init cond step))
      (Stmt.skeletons body)
  | .whileLoop cond body =>
    .loop .whileLoop (headerLine LoopKind.whileLoop.opening cond.source) (Stmt.skeletons body)
  | .foreachLoop type name collection body =>
    .loop .foreachLoop
      (headerLine LoopKind.foreachLoop.opening (foreachInner type name collection))
      (Stmt.skeletons body)
  | .block body => .block (Stmt.skeletons body)
  | .breakLoop => .simple "break;"
  | .continueLoop => .simple "continue;"
termination_by structural s => s

/-- The skeletons of several statements. -/
def Stmt.skeletons : List Stmt → List Skeleton
  | [] => []
  | s :: rest => s.skeleton :: Stmt.skeletons rest
termination_by structural b => b

end

theorem Stmt.skeletons_eq_map (b : List Stmt) : Stmt.skeletons b = b.map Stmt.skeleton := by
  induction b with
  | nil => rfl
  | cons s rest ih => rw [skeletons, List.map_cons, ih]

/-! ## Lines -/

/-- Lines in braces. -/
def Line.braced (depth : Nat) (inner : List Line) : List Line :=
  ⟨depth, "\x7b"⟩ :: (inner ++ [⟨depth, "\x7d"⟩])

mutual

/-- The lines of a skeleton at a depth. -/
def Skeleton.lines (depth : Nat) : Skeleton → List Line
  | .simple text => [⟨depth, text⟩]
  | .branch header onTrue =>
    ⟨depth, header⟩ :: Line.braced depth (Skeleton.linesOfAll (depth + 1) onTrue)
  | .choice header onTrue onFalse =>
    ⟨depth, header⟩ :: (Line.braced depth (Skeleton.linesOfAll (depth + 1) onTrue)
      ++ ⟨depth, "else"⟩ :: Line.braced depth (Skeleton.linesOfAll (depth + 1) onFalse))
  | .loop _ header body =>
    ⟨depth, header⟩ :: Line.braced depth (Skeleton.linesOfAll (depth + 1) body)
  | .block body => Line.braced depth (Skeleton.linesOfAll (depth + 1) body)
termination_by structural s => s

/-- The lines of several skeletons at one depth. -/
def Skeleton.linesOfAll (depth : Nat) : List Skeleton → List Line
  | [] => []
  | s :: rest => s.lines depth ++ Skeleton.linesOfAll depth rest
termination_by structural b => b

end

theorem Skeleton.linesOfAll_eq_flatMap (depth : Nat) (b : List Skeleton) :
    Skeleton.linesOfAll depth b = b.flatMap (Skeleton.lines depth) := by
  induction b with
  | nil => rfl
  | cons s rest ih => rw [linesOfAll, List.flatMap_cons, ih]

mutual

/-- A statement has the lines of its skeleton. -/
theorem Stmt.lines_eq_skeleton (depth : Nat) : ∀ s : Stmt, s.lines depth = s.skeleton.lines depth
  | .declare _ | .expr _ | .ret none | .ret (some _) | .breakLoop | .continueLoop => rfl
  | .branch cond onTrue none => by
    simp [lines, skeleton, Skeleton.lines, Line.braced, headerLine, branchOpening,
      linesOfAll_eq_skeletons (depth + 1) onTrue]
  | .branch cond onTrue (some onFalse) => by
    simp [lines, skeleton, Skeleton.lines, Line.braced, headerLine, branchOpening,
      linesOfAll_eq_skeletons (depth + 1) onTrue, linesOfAll_eq_skeletons (depth + 1) onFalse]
  | .forLoop none cond step body => by
    simp [lines, skeleton, Skeleton.lines, Line.braced, headerLine, forInner, initSource,
      LoopKind.opening, ← String.toList_inj, linesOfAll_eq_skeletons (depth + 1) body]
  | .forLoop (some init) cond step body => by
    simp [lines, skeleton, Skeleton.lines, Line.braced, headerLine, forInner, initSource,
      LoopKind.opening, String.append_assoc, linesOfAll_eq_skeletons (depth + 1) body]
  | .whileLoop cond body => by
    simp [lines, skeleton, Skeleton.lines, Line.braced, headerLine, LoopKind.opening,
      linesOfAll_eq_skeletons (depth + 1) body]
  | .foreachLoop type name collection body => by
    simp [lines, skeleton, Skeleton.lines, Line.braced, headerLine, foreachInner,
      LoopKind.opening, String.append_assoc, linesOfAll_eq_skeletons (depth + 1) body]
  | .block body => by
    simp [lines, skeleton, Skeleton.lines, Line.braced, linesOfAll_eq_skeletons (depth + 1) body]
termination_by structural s => s

theorem Stmt.linesOfAll_eq_skeletons (depth : Nat) : ∀ b : List Stmt,
    Stmt.linesOfAll depth b = Skeleton.linesOfAll depth (Stmt.skeletons b)
  | [] => rfl
  | s :: rest => by
    rw [linesOfAll, skeletons, Skeleton.linesOfAll, lines_eq_skeleton depth s,
      linesOfAll_eq_skeletons depth rest]
termination_by structural b => b

end

/-! ## Sound skeletons -/

/-- A text is one line and ends in a character. -/
structure EndsIn (c : Char) (text : String) : Prop where
  oneLine : isOneLine text = true
  getLast? : text.toList.getLast? = some c

theorem EndsIn.append {c : Char} {text mark : String} (h : isOneLine text = true)
    (hm : EndsIn c mark) : EndsIn c (text ++ mark) where
  oneLine := isOneLine_append.2 ⟨h, hm.oneLine⟩
  getLast? := by rw [String.toList_append, List.getLast?_append, hm.getLast?, Option.some_or]

/-- A text is a header line that begins in a certain way. -/
def IsHeader (opening text : String) : Prop :=
  ∃ inner, isOneLine inner = true ∧ text = headerLine opening inner

/-- A header line ends in its closing parenthesis. -/
theorem IsHeader.endsIn {opening text : String} (h : IsHeader opening text)
    (ho : isOneLine opening = true) : EndsIn ')' text := by
  obtain ⟨inner, hi, rfl⟩ := h
  exact .append (isOneLine_append.2 ⟨ho, hi⟩) ⟨rfl, rfl⟩

theorem LoopKind.isOneLine_opening (kind : LoopKind) : isOneLine kind.opening = true := by
  cases kind <;> rfl

mutual

/-- Statements on one line end in semicolons, and header lines are what they belong to. -/
def Skeleton.Sound : Skeleton → Prop
  | .simple text => EndsIn ';' text
  | .branch header onTrue => IsHeader branchOpening header ∧ Skeleton.AllSound onTrue
  | .choice header onTrue onFalse =>
    IsHeader branchOpening header ∧ (Skeleton.AllSound onTrue ∧ Skeleton.AllSound onFalse)
  | .loop kind header body => IsHeader kind.opening header ∧ Skeleton.AllSound body
  | .block body => Skeleton.AllSound body
termination_by structural s => s

/-- This holds of several skeletons. -/
def Skeleton.AllSound : List Skeleton → Prop
  | [] => True
  | s :: rest => s.Sound ∧ Skeleton.AllSound rest
termination_by structural b => b

end

theorem isOneLine_forInner {init : Option Stmt} {cond : Option Expr} {step : List Expr}
    (hi : init.all Stmt.fitsHeader = true) (hc : cond.all Expr.fitsLine = true)
    (hs : Expr.allFitLine step = true) : isOneLine (forInner init cond step) = true := by
  have front : isOneLine (Stmt.initSource init) = true := by
    cases init with
    | none => rfl
    | some init => exact init.isOneLine_headerSource hi _
  simp +decide [forInner, front, isOneLine_optionalSource hc, Expr.isOneLine_listSource hs]

mutual

/-- The skeleton of a statement that fits its lines is sound. -/
theorem Stmt.sound_skeleton : ∀ {s : Stmt}, s.fitsLines = true → s.skeleton.Sound
  | .declare declaration, h => .append (declaration.isOneLine_source h) ⟨rfl, rfl⟩
  | .expr value, h => .append (value.isOneLine_source h) ⟨rfl, rfl⟩
  | .ret none, _ | .breakLoop, _ | .continueLoop, _ => ⟨rfl, rfl⟩
  | .ret (some value), h =>
    .append (isOneLine_append.2 ⟨rfl, value.isOneLine_source h⟩) ⟨rfl, rfl⟩
  | .branch cond onTrue none, h => by
    rw [fitsLines, Bool.and_eq_true, Bool.and_eq_true] at h
    obtain ⟨hc, ht, -⟩ := h
    exact ⟨⟨_, cond.isOneLine_source hc, rfl⟩, sound_skeletons ht⟩
  | .branch cond onTrue (some onFalse), h => by
    rw [fitsLines, Bool.and_eq_true, Bool.and_eq_true] at h
    obtain ⟨hc, ht, hf⟩ := h
    exact ⟨⟨_, cond.isOneLine_source hc, rfl⟩, sound_skeletons ht, sound_skeletons hf⟩
  | .forLoop init cond step body, h => by
    rw [fitsLines, Bool.and_eq_true, Bool.and_eq_true, Bool.and_eq_true] at h
    obtain ⟨hi, hc, hs, hb⟩ := h
    exact ⟨⟨_, isOneLine_forInner hi hc hs, rfl⟩, sound_skeletons hb⟩
  | .whileLoop cond body, h => by
    rw [fitsLines, Bool.and_eq_true] at h
    exact ⟨⟨_, cond.isOneLine_source h.1, rfl⟩, sound_skeletons h.2⟩
  | .foreachLoop type name collection body, h => by
    rw [fitsLines, Bool.and_eq_true, Bool.and_eq_true, Bool.and_eq_true] at h
    obtain ⟨ht, hn, hc, hb⟩ := h
    refine ⟨⟨_, ?_, rfl⟩, sound_skeletons hb⟩
    simp +decide [foreachInner, ht, hn, collection.isOneLine_source hc]
  | .block body, h => sound_skeletons h
termination_by structural s => s

theorem Stmt.sound_skeletons : ∀ {b : List Stmt}, Stmt.allFitLines b = true →
    Skeleton.AllSound (Stmt.skeletons b)
  | [], _ => trivial
  | s :: rest, h => by
    rw [allFitLines, Bool.and_eq_true] at h
    exact ⟨sound_skeleton h.1, sound_skeletons h.2⟩
termination_by structural b => b

end

/-! ## The lines of sound skeletons -/

/-- The lines of a part of a statement: indented at least as far as the statement, and each
of them one line. -/
def Line.AllBelow (depth : Nat) (lines : List Line) : Prop :=
  ∀ l ∈ lines, depth ≤ l.depth ∧ isOneLine l.text = true

namespace Line.AllBelow

variable {depth : Nat} {lines more : List Line}

theorem cons {text : String} (ht : isOneLine text = true) (h : AllBelow depth lines) :
    AllBelow depth (⟨depth, text⟩ :: lines) :=
  List.forall_mem_cons.2 ⟨⟨Nat.le_refl depth, ht⟩, h⟩

theorem append (h : AllBelow depth lines) (h' : AllBelow depth more) :
    AllBelow depth (lines ++ more) :=
  List.forall_mem_append.2 ⟨h, h'⟩

theorem nil : AllBelow depth [] := by
  simp [AllBelow]

/-- Lines in braces. -/
theorem braced (h : AllBelow (depth + 1) lines) : AllBelow depth (Line.braced depth lines) := by
  refine .cons rfl (.append (fun l mem => ?_) (.cons rfl .nil))
  obtain ⟨deeper, oneLine⟩ := h l mem
  exact ⟨Nat.le_of_succ_le deeper, oneLine⟩

end Line.AllBelow

mutual

theorem Skeleton.allBelow_lines (depth : Nat) : ∀ {s : Skeleton}, s.Sound →
    Line.AllBelow depth (s.lines depth)
  | .simple _, h => .cons h.oneLine .nil
  | .branch _ _, h =>
    .cons (h.1.endsIn rfl).oneLine (allBelow_linesOfAll (depth + 1) h.2).braced
  | .choice _ _ _, h =>
    .cons (h.1.endsIn rfl).oneLine ((allBelow_linesOfAll (depth + 1) h.2.1).braced.append
      (.cons rfl (allBelow_linesOfAll (depth + 1) h.2.2).braced))
  | .loop kind _ _, h =>
    .cons (h.1.endsIn kind.isOneLine_opening).oneLine (allBelow_linesOfAll (depth + 1) h.2).braced
  | .block _, h => (allBelow_linesOfAll (depth + 1) h).braced
termination_by structural s => s

theorem Skeleton.allBelow_linesOfAll (depth : Nat) : ∀ {b : List Skeleton}, Skeleton.AllSound b →
    Line.AllBelow depth (Skeleton.linesOfAll depth b)
  | [], _ => .nil
  | _ :: _, h => (allBelow_lines depth h.1).append (allBelow_linesOfAll depth h.2)
termination_by structural b => b

end

/-! ### Braces -/

mutual

/-- How many blocks a statement has, those in its blocks included. -/
def Skeleton.blockCount : Skeleton → Nat
  | .simple _ => 0
  | .branch _ onTrue => 1 + Skeleton.blockCounts onTrue
  | .choice _ onTrue onFalse =>
    (1 + Skeleton.blockCounts onTrue) + (1 + Skeleton.blockCounts onFalse)
  | .loop _ _ body | .block body => 1 + Skeleton.blockCounts body
termination_by structural s => s

/-- How many blocks several statements have. -/
def Skeleton.blockCounts : List Skeleton → Nat
  | [] => 0
  | s :: rest => s.blockCount + Skeleton.blockCounts rest
termination_by structural b => b

end

/-- Whether a line ends in a character. -/
def Line.lastIs (c : Char) (l : Line) : Bool :=
  l.text.toList.getLast? == some c

/-- The braces. -/
def IsBrace (c : Char) : Prop :=
  c = '\x7b' ∨ c = '\x7d'

section Braces

variable {c : Char} {depth : Nat}

theorem EndsIn.countP_eq {d : Char} {text : String} (h : EndsIn d text) (hd : ¬ IsBrace d)
    (hc : IsBrace c) (lines : List Line) :
    (⟨depth, text⟩ :: lines).countP (Line.lastIs c) = lines.countP (Line.lastIs c) := by
  have other : d ≠ c := fun same => hd (same ▸ hc)
  simp [Line.lastIs, h.getLast?, other]

/-- Braces around lines add one line for each of them. -/
theorem Line.countP_braced (hc : IsBrace c) (lines : List Line) :
    (Line.braced depth lines).countP (Line.lastIs c) = 1 + lines.countP (Line.lastIs c) := by
  rw [Line.braced, List.countP_cons, List.countP_append, List.countP_singleton]
  rcases hc with rfl | rfl
  · simp +decide [Line.lastIs, Nat.add_comm]
  · simp +decide [Line.lastIs, Nat.add_comm]

mutual

/-- Every block has one line for each of its braces, and no other line ends in one. -/
theorem Skeleton.countP_lastIs (hc : IsBrace c) (depth : Nat) : ∀ {s : Skeleton}, s.Sound →
    (s.lines depth).countP (Line.lastIs c) = s.blockCount
  | .simple _, h => h.countP_eq (by simp [IsBrace]) hc []
  | .branch _ _, h => by
    rw [lines, (h.1.endsIn rfl).countP_eq (by simp [IsBrace]) hc, Line.countP_braced hc,
      countP_lastIs_all hc _ h.2, blockCount]
  | .choice _ _ _, h => by
    have otherwise : EndsIn 'e' "else" := ⟨rfl, rfl⟩
    rw [lines, (h.1.endsIn rfl).countP_eq (by simp [IsBrace]) hc, List.countP_append,
      otherwise.countP_eq (by simp [IsBrace]) hc, Line.countP_braced hc, Line.countP_braced hc,
      countP_lastIs_all hc _ h.2.1, countP_lastIs_all hc _ h.2.2, blockCount]
  | .loop kind _ _, h => by
    rw [lines, (h.1.endsIn kind.isOneLine_opening).countP_eq (by simp [IsBrace]) hc,
      Line.countP_braced hc, countP_lastIs_all hc _ h.2, blockCount]
  | .block _, h => by
    rw [lines, Line.countP_braced hc, countP_lastIs_all hc _ h, blockCount]
termination_by structural s => s

theorem Skeleton.countP_lastIs_all (hc : IsBrace c) (depth : Nat) : ∀ {b : List Skeleton},
    Skeleton.AllSound b →
    (Skeleton.linesOfAll depth b).countP (Line.lastIs c) = Skeleton.blockCounts b
  | [], _ => rfl
  | _ :: _, h => by
    rw [linesOfAll, List.countP_append, countP_lastIs hc depth h.1,
      countP_lastIs_all hc depth h.2, blockCounts]
termination_by structural b => b

end

end Braces

/-! ## Parts -/

/-- A part of a statement: a line of its own, or a block. -/
inductive Skeleton.Part where
  | line (text : String)
  | block (body : List Skeleton)

/-- The lines of a part at the depth of the statement. -/
def Skeleton.Part.lines (depth : Nat) : Part → List Line
  | line text => [⟨depth, text⟩]
  | block body => Line.braced depth (Skeleton.linesOfAll (depth + 1) body)

/-- The parts of a statement. -/
def Skeleton.parts : Skeleton → List Part
  | .simple text => [.line text]
  | .branch header onTrue => [.line header, .block onTrue]
  | .choice header onTrue onFalse =>
    [.line header, .block onTrue, .line "else", .block onFalse]
  | .loop _ header body => [.line header, .block body]
  | .block body => [.block body]

/-- A statement is written part by part. -/
theorem Skeleton.lines_eq_parts (depth : Nat) (s : Skeleton) :
    s.lines depth = s.parts.flatMap (Part.lines depth) := by
  cases s <;> simp [lines, parts, Part.lines]

/-- The blocks of a sound statement are sound. -/
theorem Skeleton.Sound.of_mem_parts {s : Skeleton} (h : s.Sound) {body : List Skeleton}
    (mem : .block body ∈ s.parts) : Skeleton.AllSound body := by
  cases s with
  | simple text => simp [parts] at mem
  | branch header onTrue | loop kind header onTrue =>
    obtain rfl : body = onTrue := by simpa [parts] using mem
    exact h.2
  | choice header onTrue onFalse =>
    rcases (by simpa [parts] using mem : body = onTrue ∨ body = onFalse) with rfl | rfl
    · exact h.2.1
    · exact h.2.2
  | block inner =>
    obtain rfl : body = inner := by simpa [parts] using mem
    exact h

theorem Skeleton.AllSound.of_mem {b : List Skeleton} (h : Skeleton.AllSound b) {s : Skeleton}
    (mem : s ∈ b) : s.Sound := by
  induction b with
  | nil => cases mem
  | cons first rest ih =>
    rcases List.mem_cons.1 mem with rfl | mem
    · exact h.1
    · exact ih h.2 mem

/-! ## Nested statements -/

/-- The blocks of a statement, without those in its blocks. -/
def Stmt.blocks : Stmt → List Block
  | .branch _ onTrue none => [onTrue]
  | .branch _ onTrue (some onFalse) => [onTrue, onFalse]
  | .forLoop _ _ _ body | .whileLoop _ body | .foreachLoop _ _ _ body | .block body => [body]
  | _ => []

/-- A statement stands in another one, below a number of blocks. -/
inductive Stmt.NestedIn (t : Stmt) : Nat → Stmt → Prop
  | self : NestedIn t 0 t
  | inside {d : Nat} {s u : Stmt} {b : Block} : b ∈ s.blocks → u ∈ b → NestedIn t d u →
    NestedIn t (d + 1) s

theorem Stmt.mem_parts_of_mem_blocks {s : Stmt} {b : Block} (h : b ∈ s.blocks) :
    .block (Stmt.skeletons b) ∈ s.skeleton.parts := by
  cases s with
  | branch cond onTrue onFalse =>
    cases onFalse with
    | none => simp_all [blocks, skeleton, Skeleton.parts]
    | some onFalse =>
      rcases List.mem_cons.1 h with rfl | mem
      · simp [skeleton, Skeleton.parts]
      · simp_all [skeleton, Skeleton.parts]
  | forLoop | whileLoop | foreachLoop | block => simp_all [blocks, skeleton, Skeleton.parts]
  | _ => simp [blocks] at h

/-- What stands in a sound statement is sound. -/
theorem Stmt.NestedIn.sound {t s : Stmt} {d : Nat} (h : t.NestedIn d s)
    (sound : s.skeleton.Sound) : t.skeleton.Sound := by
  induction h with
  | self => exact sound
  | inside hb hu _ ih =>
    refine ih ((sound.of_mem_parts (Stmt.mem_parts_of_mem_blocks hb)).of_mem ?_)
    rw [Stmt.skeletons_eq_map]
    exact List.mem_map_of_mem hu

/-- What stands somewhere in a list is written there. -/
theorem exists_flatMap_eq {α β : Type} (f : α → List β) {a : α} {l : List α} (h : a ∈ l) :
    ∃ before after, l.flatMap f = before ++ f a ++ after := by
  obtain ⟨front, behind, rfl⟩ := List.append_of_mem h
  exact ⟨front.flatMap f, behind.flatMap f, by simp⟩

/-- The lines of a nested statement are among those of the statement around it, further
indented by the blocks between the two. -/
theorem Stmt.NestedIn.exists_lines {t s : Stmt} {d : Nat} (h : t.NestedIn d s) (depth : Nat) :
    ∃ before after, s.skeleton.lines depth
      = before ++ t.skeleton.lines (depth + d) ++ after := by
  induction h generalizing depth with
  | self => exact ⟨[], [], by simp⟩
  | @inside d s u b hb hu _ ih =>
    obtain ⟨before₁, after₁, parts⟩ := exists_flatMap_eq (Skeleton.Part.lines depth)
      (Stmt.mem_parts_of_mem_blocks hb)
    obtain ⟨before₂, after₂, body⟩ := exists_flatMap_eq (Skeleton.lines (depth + 1))
      (List.mem_map_of_mem (f := Stmt.skeleton) hu)
    obtain ⟨before₃, after₃, inner⟩ := ih (depth + 1)
    rw [Skeleton.lines_eq_parts, parts, Skeleton.Part.lines, Line.braced,
      Skeleton.linesOfAll_eq_flatMap, Stmt.skeletons_eq_map, body, inner]
    refine ⟨before₁ ++ ⟨depth, "\x7b"⟩ :: (before₂ ++ before₃),
      after₃ ++ after₂ ++ ⟨depth, "\x7d"⟩ :: after₁, ?_⟩
    simp [Nat.add_assoc, Nat.add_comm 1 d]

end ShaderLowering
