import ShaderLowering.Decimal.Shortest

/-!
# Written floats

How a float is spelled: which magnitudes are written positionally, what an
integral value carries after the point, and the words for the values that are
not numbers.  The digits come from `Dyadic.shortest`; this module only places
the point.

## Main definitions

* `Style` — the decisions of a written form, with `literal` the one of source text.
* `Style.written` — the text of a decoded word.
-/

namespace ShaderLowering.Decimal

/-- The decisions that a written form makes. -/
structure Style where
  /-- The least exponent of the leading digit that is written positionally. -/
  leastPositional : Int
  /-- The first exponent of the leading digit that is too large to be written positionally. -/
  boundPositional : Int
  /-- What stands after the point when there are no digits for it. -/
  emptyFraction : String
  /-- The mark between the digits and the exponent. -/
  exponentMark : String
  nan : String
  infinity : String

/-- Floats of source text are positional from `1e-4` up to but not including
`1e16`, and an integral positional value keeps one zero after the point. -/
def literal : Style where
  leastPositional := -4
  boundPositional := 16
  emptyFraction := "0"
  exponentMark := "e"
  nan := "NaN"
  infinity := "inf"

/-- The digits of a coefficient, most significant first, without trailing zeros
after the first digit. -/
def significantDigits (coefficient : Nat) : List Char :=
  match Nat.toDigits 10 coefficient with
  | [] => []
  | d :: ds => d :: (ds.reverse.dropWhile (· == '0')).reverse

namespace Style

/-- Digits with a point after the first `whole` of them, padded with zeros up to
the point. -/
def positional (st : Style) (digits : List Char) (whole : Nat) : String :=
  let fraction := String.ofList (digits.drop whole)
  String.ofList (digits.take whole ++ List.replicate (whole - digits.length) '0') ++ "."
    ++ (if fraction = "" then st.emptyFraction else fraction)

/-- Digits with a point after the first one and an exponent. -/
def scientific (st : Style) (digits : List Char) (exponent : Int) : String :=
  let fraction := String.ofList (digits.drop 1)
  String.ofList (digits.take 1) ++ (if fraction = "" then "" else "." ++ fraction)
    ++ st.exponentMark ++ toString exponent

/-- The text of a decimal. -/
def magnitude (st : Style) (x : Scaled) : String :=
  let digits := significantDigits x.coefficient
  let leading := (Nat.toDigits 10 x.coefficient).length - 1 + x.power
  if x.coefficient = 0 then st.positional ['0'] 1
  else if leading < st.leastPositional ∨ st.boundPositional ≤ leading then
    st.scientific digits leading
  else if leading < 0 then
    st.positional ('0' :: List.replicate (-leading - 1).toNat '0' ++ digits) 1
  else
    st.positional digits (leading.toNat + 1)

/-- The text of a decoded word.  A NaN has no sign; a negative zero has one. -/
def written (st : Style) : Decoded → String
  | .nan => st.nan
  | .infinite negative => (if negative then "-" else "") ++ st.infinity
  | .finite negative x => (if negative then "-" else "") ++ st.magnitude x.shortest

end Style

/-- The text of a 32-bit float. -/
def written32 (bits : UInt32) : String :=
  literal.written (binary32.decode bits.toNat)

/-- The text of a 64-bit float. -/
def written64 (bits : UInt64) : String :=
  literal.written (binary64.decode bits.toNat)

end ShaderLowering.Decimal
