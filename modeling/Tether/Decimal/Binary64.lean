/-!
# Decimal.Binary64 — the fields of a double, and rounding into it

A double is a sign, an 11-bit biased exponent and a 52-bit fraction.  A finite double is
`significand * 2 ^ exponent` for the pair that `Binary64.significand` and
`Binary64.exponent` give; that exact value is what the shortest-digit search of
`Decimal.Shortest` works on.

The other direction, `Binary64.nearestOfNat`, rounds a natural number to the nearest
double, a tie going to the even significand, and an overflow to infinity.  Integers read
from text and the table of powers of ten are made doubles this way.
-/

namespace Tether.Decimal

set_option autoImplicit false

/-- The three fields of an IEEE 754 binary64 value. -/
structure Binary64 where
  /-- The sign bit. -/
  negative : Bool
  /-- The biased exponent, below `2 ^ 11`; `2047` marks infinities and NaNs. -/
  biased : Nat
  /-- The fraction, below `2 ^ 52`. -/
  fraction : Nat
  deriving Repr, DecidableEq

namespace Binary64

/-- Splits the 64 bits of a double into its fields. -/
def ofBits (bits : UInt64) : Binary64 :=
  let n := bits.toNat
  { negative := n / Nat.pow 2 63 % 2 == 1, biased := n / Nat.pow 2 52 % Nat.pow 2 11, fraction := n % Nat.pow 2 52 }

/-- The fields of a double. -/
def ofFloat (f : Float) : Binary64 := ofBits f.toBits

/-- Joins the fields back into 64 bits. -/
def toBits (b : Binary64) : UInt64 :=
  ((if b.negative then Nat.pow 2 63 else 0) + b.biased * Nat.pow 2 52 + b.fraction).toUInt64

/-- The double with these fields. -/
def toFloat (b : Binary64) : Float := Float.ofBits b.toBits

/-- Infinities and NaNs have the all-ones exponent. -/
def isFinite (b : Binary64) : Bool := b.biased < 2047

/-- Both zeros have no exponent and no fraction. -/
def isZero (b : Binary64) : Bool := b.biased == 0 && b.fraction == 0

/-- The integer significand: the fraction, with the hidden bit unless subnormal. -/
def significand (b : Binary64) : Nat :=
  if b.biased = 0 then b.fraction else b.fraction + Nat.pow 2 52

/-- The binary exponent of the least significant bit of the significand. -/
def exponent (b : Binary64) : Int :=
  (if b.biased = 0 then 1 else (b.biased : Int)) - 1075

/-- The gap to the next smaller double is half the gap to the next larger one exactly at
the bottom of a binade, except for the smallest normal binade, whose neighbour below is
subnormal and as far away as the one above. -/
def narrowBelow (b : Binary64) : Bool := b.fraction == 0 && b.biased > 1

/-- The positive infinity. -/
def infinity : Binary64 := ⟨false, 2047, 0⟩

/-- Rounds a significand `q` with top bit `top` (so `2 ^ 52 ≤ q < 2 ^ 53` after the
shift) and a discarded remainder `r` out of `2 ^ s`: above half rounds up, a half
rounds to an even significand. -/
def roundShifted (q r s : Nat) : Nat :=
  if 2 * r > Nat.pow 2 s ∨ (2 * r = Nat.pow 2 s ∧ q % 2 = 1) then q + 1 else q

/-- Packs a normal significand in `[2 ^ 52, 2 ^ 53]` with the position of its top bit. -/
def packNormal (q top : Nat) : Binary64 :=
  let (q, top) := if q = Nat.pow 2 53 then (Nat.pow 2 52, top + 1) else (q, top)
  if top + 1023 ≥ 2047 then infinity else ⟨false, top + 1023, q - Nat.pow 2 52⟩

/-- The double nearest to `n`, a tie going to the even significand; numbers beyond the
largest double round to infinity. -/
def nearestOfNat (n : Nat) : Binary64 :=
  if n = 0 then ⟨false, 0, 0⟩
  else
    let top := n.log2
    if top ≤ 52 then packNormal (n * Nat.pow 2 (52 - top)) top
    else
      let s := top - 52
      packNormal (roundShifted (n / Nat.pow 2 s) (n % Nat.pow 2 s) s) top

end Binary64

/-- The double nearest to a natural number. -/
def floatOfNat (n : Nat) : Float := (Binary64.nearestOfNat n).toFloat

end Tether.Decimal
