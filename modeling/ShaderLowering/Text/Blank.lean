/-!
# Blank characters

The characters with the Unicode property `White_Space`, and the text that is
left when those at its end are dropped.

## Main definitions

* `isBlank` — the property.
* `trimEnd` — a string without the blanks at its end.
-/

namespace ShaderLowering.Text

/-- The code points with the property `White_Space`. -/
def isBlank (c : Char) : Bool :=
  let n := c.toNat
  (0x9 ≤ n && n ≤ 0xd) || n == 0x20 || n == 0x85 || n == 0xa0 || n == 0x1680
    || (0x2000 ≤ n && n ≤ 0x200a) || n == 0x2028 || n == 0x2029 || n == 0x202f
    || n == 0x205f || n == 0x3000

/-- A list without the elements at its end that satisfy `p`. -/
def dropEndWhile {α : Type} (p : α → Bool) (l : List α) : List α :=
  (l.reverse.dropWhile p).reverse

/-- A string without the blanks at its end. -/
def trimEnd (s : String) : String :=
  String.ofList (dropEndWhile isBlank s.toList)

/-- A string without the semicolons at its end. -/
def trimSemicolons (s : String) : String :=
  String.ofList (dropEndWhile (· == ';') s.toList)

/-- Dropping stops at an element that does not satisfy `p`. -/
@[simp] theorem dropEndWhile_append_of_not {α : Type} {p : α → Bool} (l : List α) {a : α}
    (h : p a = false) : dropEndWhile p (l ++ [a]) = l ++ [a] := by
  simp [dropEndWhile, h]

/-- Dropping passes over an element that satisfies `p`. -/
@[simp] theorem dropEndWhile_append_of {α : Type} {p : α → Bool} (l : List α) {a : α}
    (h : p a = true) : dropEndWhile p (l ++ [a]) = dropEndWhile p l := by
  simp [dropEndWhile, h]

end ShaderLowering.Text
