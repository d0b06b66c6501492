/-!
# Little-endian bytes

Numbers as bytes, least significant first, and back.

## Main definitions

* `bytesOf` — the lowest bytes of a number.
* `numberOf` — the number that bytes spell.
* `wordsOf` — the 32-bit words that bytes spell.
-/

namespace ShaderLowering.Buffer

/-- The lowest `count` bytes of a number, least significant first. -/
def bytesOf : (count : Nat) → Nat → List UInt8
  | 0, _ => []
  | count + 1, n => UInt8.ofNat n :: bytesOf count (n / 256)

/-- The number that bytes spell, least significant first. -/
def numberOf : List UInt8 → Nat
  | [] => 0
  | b :: bs => b.toNat + 256 * numberOf bs

/-- The 32-bit words that bytes spell.  Bytes behind the last whole word are left
out. -/
def wordsOf : List UInt8 → List UInt32
  | a :: b :: c :: d :: rest => UInt32.ofNat (numberOf [a, b, c, d]) :: wordsOf rest
  | _ => []

@[simp] theorem length_bytesOf (count n : Nat) : (bytesOf count n).length = count := by
  induction count generalizing n with
  | zero => rfl
  | succ count ih => simp [bytesOf, ih]

/-- Bytes spell the number they were taken from, up to what they can hold. -/
theorem numberOf_bytesOf (count n : Nat) :
    numberOf (bytesOf count n) = n % Nat.pow 256 count := by
  induction count generalizing n with
  | zero => simp [bytesOf, numberOf, Nat.mod_one]
  | succ count ih =>
    have h : (UInt8.ofNat n).toNat = n % 256 := UInt8.toNat_ofNat'
    have hp : Nat.pow 256 (count + 1) = 256 * Nat.pow 256 count := Nat.mul_comm _ _
    rw [bytesOf, numberOf, ih, h, hp, ← Nat.mod_mul]

/-- Bytes are recovered from the number they spell. -/
theorem bytesOf_numberOf (bs : List UInt8) : bytesOf bs.length (numberOf bs) = bs := by
  induction bs with
  | nil => rfl
  | cons b bs ih =>
    have hb : b.toNat < 256 := b.toNat_lt
    have hdiv : (b.toNat + 256 * numberOf bs) / 256 = numberOf bs := by omega
    have hmod : UInt8.ofNat (b.toNat + 256 * numberOf bs) = b := by
      apply UInt8.toNat_inj.1
      rw [UInt8.toNat_ofNat']
      omega
    simp [bytesOf, numberOf, hdiv, hmod, ih]

end ShaderLowering.Buffer
