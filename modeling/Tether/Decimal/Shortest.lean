import Tether.Decimal.Binary64
/-!
# Decimal.Shortest — the fewest decimal digits that read back as a double

A finite positive double `v = m * 2 ^ e` stands for every real that rounds to it: the
interval between the midpoints to its two neighbours, with both ends included exactly when
`m` is even (a tie reads back to the even significand).  The digits written for `v` are
those of the decimal `d * 10 ^ q` that

* lies in that interval,
* has the fewest significant digits of all decimals in it, and
* of those, is nearest to `v` (an exact tie going to the even `d`).

For `n` significant digits the candidates are the two neighbours of `v` on the grid
`10 ^ (p - n + 1)`, where `10 ^ p ≤ v < 10 ^ (p + 1)`: if any point of that grid lies in
the interval, one of the two does.  Seventeen digits always suffice, so the search over
`n = 1, …, 17` ends with a hit.  All comparisons are exact, in natural numbers.
-/

namespace Tether.Decimal

set_option autoImplicit false

/-- A decimal `digits * 10 ^ exponent`. -/
structure Scientific where
  digits : Nat
  exponent : Int
  deriving Repr, DecidableEq

/-- Compares `a * 2 ^ x` with `d * 10 ^ q`, exactly. -/
def compareScaled (a : Nat) (x : Int) (d : Nat) (q : Int) : Ordering :=
  compare (a * Nat.pow 2 x.toNat * Nat.pow 10 (-q).toNat) (d * Nat.pow 10 q.toNat * Nat.pow 2 (-x).toNat)

/-- `⌊a * 2 ^ x / 10 ^ q⌋`. -/
def floorScaled (a : Nat) (x : Int) (q : Int) : Nat :=
  (a * Nat.pow 2 x.toNat * Nat.pow 10 (-q).toNat) / (Nat.pow 2 (-x).toNat * Nat.pow 10 q.toNat)

/-- The largest `p` with `10 ^ p ≤ m * 2 ^ e`, for `m > 0`.  The estimate from the bit
length is off by at most one, so three exact tests settle it. -/
def floorLog10 (m : Nat) (e : Int) : Int :=
  let bits : Int := (m.log2 : Int) + e
  let guess := bits * 78913 / 262144
  let fits (p : Int) : Bool := compareScaled m e 1 p != .lt
  if fits (guess + 1) then guess + 1 else if fits guess then guess else guess - 1

/-- The interval of reals that read back as `m * 2 ^ e`, at the scale `2 ^ (e - 2)`:
`low` and `high` are the scaled ends, and `closed` says whether they belong to it. -/
structure Rounding where
  low : Nat
  high : Nat
  closed : Bool

/-- The rounding interval of a finite positive double. -/
def Rounding.ofBinary (b : Binary64) : Rounding :=
  let m := b.significand
  { low := if b.narrowBelow then 4 * m - 1 else 4 * m - 2
    high := 4 * m + 2
    closed := m % 2 == 0 }

/-- Whether `d * 10 ^ q` reads back as the double whose interval is `r`, at scale
`2 ^ (e - 2)`. -/
def Rounding.holds (r : Rounding) (e : Int) (d : Nat) (q : Int) : Bool :=
  let lo := compareScaled r.low (e - 2) d q
  let hi := compareScaled r.high (e - 2) d q
  if r.closed then lo != .gt && hi != .lt else lo == .lt && hi == .gt

/-- The decimal with `n` significant digits nearest to `m * 2 ^ e` that reads back, if
the grid of `n` digits has one. -/
def candidate (r : Rounding) (m : Nat) (e : Int) (p : Int) (n : Nat) : Option Scientific :=
  let q := p - n + 1
  let below := floorScaled m e q
  let above := below + 1
  let okBelow := r.holds e below q
  let okAbove := r.holds e above q
  if okBelow && okAbove then
    match compareScaled (2 * m) e (2 * below + 1) q with
    | .lt => some ⟨below, q⟩
    | .gt => some ⟨above, q⟩
    | .eq => some ⟨if below % 2 = 0 then below else above, q⟩
  else if okBelow then some ⟨below, q⟩
  else if okAbove then some ⟨above, q⟩
  else none

/-- Removes trailing zeros of the digits, raising the exponent; `fuel` bounds the count. -/
def Scientific.trim : Nat → Scientific → Scientific
  | 0, s => s
  | fuel + 1, s =>
    if s.digits ≠ 0 ∧ s.digits % 10 = 0 then trim fuel ⟨s.digits / 10, s.exponent + 1⟩ else s

/-- The number of decimal digits of `d` (one for zero). -/
def digitCount (d : Nat) : Nat := (Nat.toDigits 10 d).length

/-- The shortest decimal, nearest among the shortest, that reads back as the finite
nonzero double `b` (its sign is ignored), with trailing zeros removed. -/
def shortest (b : Binary64) : Scientific :=
  let m := b.significand
  let e := b.exponent
  let r := Rounding.ofBinary b
  let p := floorLog10 m e
  let found := (List.range 17).findSome? (fun i => candidate r m e p (i + 1))
  let s := found.getD ⟨floorScaled m e (p - 16), p - 16⟩
  s.trim (digitCount s.digits)

end Tether.Decimal
