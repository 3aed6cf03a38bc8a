import Tether.Decimal.Shortest
/-!
# Json.Number — numbers as JSON text holds them, and how they are written

A number read from JSON text is one of three kinds: a non-negative integer below `2 ^ 64`,
a negative integer not below `-2 ^ 63`, or a double for everything else (a fraction, an
exponent, an integer out of both ranges, and `-0`).  Integers are written exactly.

A double is written with the shortest digits that read back (`Decimal.shortest`), laid
out by a `FloatStyle`: the digits are written positionally for decimal exponents in
`-5 < kk ≤ 16` and in scientific notation otherwise, and a number written positionally keeps
a `.0`.  JSON text has no NaN or infinity; the text of a double inside a message names them.
-/

namespace Tether.Json

open Tether.Decimal

set_option autoImplicit false

/-- A JSON number. -/
inductive Number where
  /-- An integer in `0 ≤ n < 2 ^ 64`. -/
  | nat (n : Nat)
  /-- An integer in `-2 ^ 63 ≤ n < 0`. -/
  | neg (n : Int)
  /-- A double, never infinite or NaN when read from text. -/
  | float (f : Float)

/-- How the digits of a double are laid out. -/
structure FloatStyle where
  /-- Whether a value `0.d₁…dₙ × 10 ^ kk` is written positionally. -/
  positional : Int → Bool
  /-- The text of a NaN. -/
  nan : String
  /-- The text of an infinity, without its sign. -/
  infinity : String

/-- JSON text: positional for `-5 < kk ≤ 16`, else `d.ddde±x` without a plus sign; a value
that is no finite double is written as `null`. -/
def FloatStyle.json : FloatStyle where
  positional kk := decide (-5 < kk ∧ kk ≤ 16)
  nan := "null"
  infinity := "null"

/-- The text of a double inside a message: laid out as in JSON text, with `NaN` and `inf`
for values that are no finite double. -/
def FloatStyle.message : FloatStyle where
  positional := FloatStyle.json.positional
  nan := "NaN"
  infinity := "inf"

/-- `n` zeros. -/
def zeros (n : Nat) : String := String.ofList (List.replicate n '0')

/-- Lays out the digits `ds` of a value `0.ds × 10 ^ kk`. -/
def layoutDigits (style : FloatStyle) (ds : List Char) (kk : Int) : String :=
  let n := ds.length
  if style.positional kk then
    if (n : Int) ≤ kk then String.ofList ds ++ zeros (kk - n).toNat ++ ".0"
    else if 0 < kk then
      String.ofList (ds.take kk.toNat) ++ "." ++ String.ofList (ds.drop kk.toNat)
    else "0." ++ zeros (-kk).toNat ++ String.ofList ds
  else
    let mant := match ds with
      | [] => "0"
      | [d] => String.singleton d
      | d :: rest => String.singleton d ++ "." ++ String.ofList rest
    mant ++ "e" ++ toString (kk - 1)

/-- The text of a double in a style. -/
def FloatStyle.render (style : FloatStyle) (f : Float) : String :=
  let b := Binary64.ofFloat f
  let sign := if b.negative then "-" else ""
  if !b.isFinite then
    if b.fraction ≠ 0 then style.nan
    else if style.infinity == "null" then "null" else sign ++ style.infinity
  else if b.isZero then sign ++ "0.0"
  else
    let s := shortest b
    let ds := Nat.toDigits 10 s.digits
    sign ++ layoutDigits style ds (s.exponent + ds.length)

/-- The text of a number in JSON. -/
def Number.render : Number → String
  | .nat n => toString n
  | .neg n => toString n
  | .float f => FloatStyle.json.render f

/-- The double a number stands for. -/
def Number.toFloat : Number → Float
  | .nat n => floatOfNat n
  | .neg n => -floatOfNat n.natAbs
  | .float f => f

/-- The integer a number is, if it is one. -/
def Number.toInt? : Number → Option Int
  | .nat n => some n
  | .neg n => some n
  | .float _ => none

end Tether.Json
