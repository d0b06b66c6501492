import ShaderLowering.Toml.Reader

/-!
# Digits

Digits in a base up to sixteen, with their values, and numbers of a fixed width.

## Main definitions

* `digitValue`, `positional` — the value of a digit, and of several.
* `fixed` — a number with a fixed count of digits, within bounds.
-/

namespace ShaderLowering.Toml

/-- A hexadecimal digit. -/
def isHexDigit (c : Char) : Bool :=
  c.isDigit || ('a' ≤ c && c ≤ 'f') || ('A' ≤ c && c ≤ 'F')

/-- The value of a hexadecimal digit. -/
def digitValue (c : Char) : Nat :=
  if c.isDigit then c.toNat - '0'.toNat
  else if 'a' ≤ c then c.toNat - 'a'.toNat + 10
  else c.toNat - 'A'.toNat + 10

/-- The value of digits in a base, the first one counting most. -/
def positional (base : Nat) (digits : List Char) : Nat :=
  digits.foldl (fun n c => n * base + digitValue c) 0

/-- A decimal number of exactly `width` digits, from `low` to `high`. -/
def fixed (width low high : Nat) : Reader Nat := do
  let n := positional 10 (← exactly (oneOf Char.isDigit) width)
  guard (low ≤ n ∧ n ≤ high)
  return n

/-- The decimal digits of a number, with zeros in front up to a width. -/
def zeroPadded (width n : Nat) : String :=
  let digits := Nat.toDigits 10 n
  String.ofList (List.replicate (width - digits.length) '0' ++ digits)

end ShaderLowering.Toml
