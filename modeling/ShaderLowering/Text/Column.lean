/-!
# Columns

Text set flush in a column of a fixed width.  A width counts characters, and a
text that is wider than its column is not cut.

## Main definitions

* `flushLeft`, `flushRight` — text at the left or the right of a column.
-/

namespace ShaderLowering.Text

/-- Text at the left of a column. -/
def flushLeft (width : Nat) (s : String) : String :=
  s ++ String.ofList (List.replicate (width - s.length) ' ')

/-- Text at the right of a column. -/
def flushRight (width : Nat) (s : String) : String :=
  String.ofList (List.replicate (width - s.length) ' ') ++ s

end ShaderLowering.Text
