import ShaderLowering.Toml.Digits

/-!
# Numbers

Integers of 64 bits, in decimal, hexadecimal, octal or binary digits, and
floating-point numbers.  An underscore may stand between two digits.  A
floating-point number keeps its decimal value; one that is too large to be held
in 64 bits is refused, unless it is negative.

## Main definitions

* `Number` — an integer, a decimal, an infinity or an undefined number.
* `number` — reading one.
-/

namespace ShaderLowering.Toml

/-- A number.  A decimal is its coefficient times a power of ten. -/
inductive Number where
  | integer (n : Int)
  | decimal (negative : Bool) (coefficient : Nat) (exponent : Int)
  | infinity (negative : Bool)
  | undefined (negative : Bool)
deriving DecidableEq

/-! ## Range -/

/-- The smallest number that is rounded to infinity: half a step above the largest
number of 64-bit floating point. -/
def overflowBound : Nat := Nat.pow 2 1024 - Nat.pow 2 970

/-- Whether a decimal is too large for floating point.  Far from the bound, which
has 309 digits, counting digits decides. -/
def overflows (coefficient : Nat) (exponent : Int) : Bool :=
  if coefficient = 0 then false
  else
    let size := (Nat.toDigits 10 coefficient).length + exponent
    if size < 309 then false
    else if 309 < size then true
    else overflowBound * Nat.pow 10 (-exponent).toNat ≤ coefficient * Nat.pow 10 exponent.toNat

/-- Whether an integer fits 64 bits with a sign. -/
def fitsWord (n : Int) : Bool :=
  -9223372036854775808 ≤ n && n < 9223372036854775808

/-! ## Reading -/

/-- A sign, and whether it says negative.  No sign is a positive one. -/
def sign : Reader Bool :=
  (do char '-'; return true) <|> (do char '+'; return false) <|> return false

/-- Further digits, each perhaps with an underscore before it. -/
def moreDigits (isDigit : Char → Bool) : Reader (List Char) :=
  many (oneOf isDigit <|> (do char '_'; oneOf isDigit))

/-- One or more digits, perhaps with underscores between them. -/
def digits (isDigit : Char → Bool) : Reader (List Char) := do
  let first ← oneOf isDigit
  return first :: (← moreDigits isDigit)

/-- The digits of a whole number, without a leading zero. -/
def wholeDigits : Reader (List Char) := do
  let first ← oneOf Char.isDigit
  if first = '0' then return [first]
  else return first :: (← moreDigits Char.isDigit)

/-- A number with a negative sign or without. -/
def signed (negative : Bool) (n : Nat) : Int :=
  if negative then -n else n

/-- A decimal integer. -/
def decimalInteger : Reader Number := do
  let negative ← sign
  let n := signed negative (positional 10 (← wholeDigits))
  guard (fitsWord n)
  return .integer n

/-- An integer in another base, marked by a zero and a letter. -/
def basedInteger (letter : Char) (base : Nat) (isDigit : Char → Bool) : Reader Number := do
  literally ['0', letter]
  let n := positional base (← digits isDigit)
  guard (fitsWord n)
  return .integer n

/-- The exponent of a floating-point number. -/
def exponent : Reader Int := do
  discard (oneOf fun c => c == 'e' || c == 'E')
  let negative ← sign
  return signed negative (positional 10 (← digits Char.isDigit))

/-- A decimal with a fraction, an exponent, or both. -/
def decimal : Reader Number := do
  let negative ← sign
  let whole ← wholeDigits
  let fraction ← optional (do char '.'; digits Char.isDigit)
  let power ← optional exponent
  guard (fraction.isSome ∨ power.isSome)
  let coefficient := positional 10 (whole ++ fraction.getD [])
  let power := power.getD 0 - (fraction.getD []).length
  guard (negative ∨ !overflows coefficient power)
  return .decimal negative coefficient power

/-- A floating-point number that is not a decimal. -/
def special : Reader Number := do
  let negative ← sign
  (do literally ['i', 'n', 'f']; return .infinity negative)
    <|> (do literally ['n', 'a', 'n']; return .undefined negative)

/-- A number. -/
def number : Reader Number :=
  decimal <|> special
    <|> basedInteger 'x' 16 isHexDigit
    <|> basedInteger 'o' 8 (fun c => '0' ≤ c && c ≤ '7')
    <|> basedInteger 'b' 2 (fun c => c == '0' || c == '1')
    <|> decimalInteger

end ShaderLowering.Toml
