/-!
# Binary floating-point words

A word of a binary interchange format holds a sign bit, a biased exponent and a
fraction.  `BinaryFormat.decode` reads such a word as an exact value
`significand * 2 ^ exponent`, as an infinity, or as a NaN; nothing is rounded,
so every statement about a float can be made on its word.

## Main definitions

* `BinaryFormat` — the widths of the two fields, with `binary32` and `binary64`.
* `Dyadic` — a finite magnitude together with the width of the gap below it.
* `BinaryFormat.decode` — the value of a word.
* `BinaryFormat.same` — equality of the values of two words.
-/

namespace ShaderLowering.Decimal

/-- The field widths of a binary interchange format. -/
structure BinaryFormat where
  fractionBits : Nat
  exponentBits : Nat
deriving DecidableEq, Repr

/-- The 32-bit format: eight exponent bits and twenty-three fraction bits. -/
def binary32 : BinaryFormat := ⟨23, 8⟩

/-- The 64-bit format: eleven exponent bits and fifty-two fraction bits. -/
def binary64 : BinaryFormat := ⟨52, 11⟩

/-- The magnitude `significand * 2 ^ exponent` of a finite word.

`narrow` says that the next smaller word is only half as far away as the next
larger one, which happens at a power of two whose predecessor has a smaller
exponent. -/
structure Dyadic where
  significand : Nat
  exponent : Int
  narrow : Bool
deriving DecidableEq, Repr

/-- The value of a word. -/
inductive Decoded where
  | nan
  | infinite (negative : Bool)
  | finite (negative : Bool) (magnitude : Dyadic)
deriving DecidableEq, Repr

namespace BinaryFormat

/-- Half the range of the exponent field: the biased exponent of one. -/
def bias (f : BinaryFormat) : Nat :=
  Nat.pow 2 (f.exponentBits - 1) - 1

/-- The value of a word.  Exponent field zero means a subnormal number, which
has no implicit leading bit and the same scale as the smallest normal numbers. -/
def decode (f : BinaryFormat) (word : Nat) : Decoded :=
  let fractions := Nat.pow 2 f.fractionBits
  let fields := Nat.pow 2 f.exponentBits
  let fraction := word % fractions
  let field := word / fractions % fields
  let negative := word / (fractions * fields) % 2 == 1
  let lowest : Int := 1 - (f.bias + f.fractionBits : Nat)
  if field = fields - 1 then
    if fraction = 0 then .infinite negative else .nan
  else if field = 0 then
    .finite negative ⟨fraction, lowest, false⟩
  else
    .finite negative
      ⟨fractions + fraction, lowest + (field - 1 : Nat), fraction == 0 && field != 1⟩

/-- Whether two words have equal values: a NaN equals nothing, the two zeros
equal each other, and any other value has one word only. -/
def same (f : BinaryFormat) (a b : Nat) : Bool :=
  match f.decode a, f.decode b with
  | .nan, _ => false
  | _, .nan => false
  | .finite s x, .finite t y => x == y && (s == t || x.significand == 0)
  | .infinite s, .infinite t => s == t
  | _, _ => false

end BinaryFormat

example : binary32.decode 0x3fc00000 = .finite false ⟨12582912, -23, false⟩ := by decide
example : binary32.decode 0x80000001 = .finite true ⟨1, -149, false⟩ := by decide
example : binary32.decode 0x7f800000 = .infinite false := by decide
example : binary32.same 0x80000000 0 = true := by decide
example : binary32.same 0x7fc00000 0x7fc00000 = false := by decide

end ShaderLowering.Decimal
