import Tether.Json.Decode
import Tether.Decimal.Binary64
/-!
# Reconnect — how the host retries a lost link

A `ReconnectPolicy` waits `initialDelayMs` before the first attempt and multiplies the wait
by `factor` (at least 1) after each failure, never waiting more than `maxDelayMs`; after
`maxAttempts` failures the link is given up.  A random extra wait of up to `jitter` times
the base wait is added; only a policy whose jitter clamps to zero has a fixed delay, which
`fixedDelay?` returns.

The base wait is computed in binary64 arithmetic: `factor ^ min attempt 64` by repeated
squaring (`Float.powNat`), times the initial delay, bounded by the maximum (a NaN product
gives the maximum), then truncated to a 64-bit count with saturation.
-/

namespace Tether

open Tether.Json

set_option autoImplicit false

/-- The larger of two floats; a NaN gives way to the other operand. -/
def Float.maxNum (x y : Float) : Float :=
  if x.isNaN then y else if y.isNaN then x else if x < y then y else x

/-- The smaller of two floats; a NaN gives way to the other operand. -/
def Float.minNum (x y : Float) : Float :=
  if x.isNaN then y else if y.isNaN then x else if y < x then y else x

/-- `x ^ n` by binary exponentiation: the running product takes the square of the base
for every bit of `n`, low bit first, and is multiplied in where the bit is set. -/
def Float.powNat (x : Float) (n : Nat) : Float :=
  go x n 1 (n + 1)
where
  /-- `fuel` exceeds the number of bits left in `n`. -/
  go (base : Float) (n : Nat) (acc : Float) : Nat → Float
    | 0 => acc
    | fuel + 1 =>
      let acc := if n % 2 = 1 then acc * base else acc
      if n / 2 = 0 then acc else go (base * base) (n / 2) acc fuel

/-- Controls how the host reconnects after the link drops. -/
structure ReconnectPolicy where
  initialDelayMs : Nat := 500
  maxDelayMs : Nat := 30000
  factor : Float := 2.0
  jitter : Float := 0.25
  maxAttempts : Nat := 8
  deriving Inhabited

namespace ReconnectPolicy

/-- The wait before an attempt (counted from zero), without jitter, in milliseconds. -/
def baseDelay (p : ReconnectPolicy) (attempt : Nat) : Nat :=
  let grown := Decimal.floatOfNat p.initialDelayMs * Float.powNat (Float.maxNum p.factor 1.0) (min attempt 64)
  (Float.minNum grown (Decimal.floatOfNat p.maxDelayMs)).toUInt64.toNat

/-- The jitter clamped to the unit interval. -/
def clampedJitter (p : ReconnectPolicy) : Float :=
  Float.minNum (Float.maxNum p.jitter 0.0) 1.0

/-- The wait before an attempt when it is not random: only when the jitter clamps to zero. -/
def fixedDelay? (p : ReconnectPolicy) (attempt : Nat) : Option Nat :=
  if p.clampedJitter == 0.0 then some (p.baseDelay attempt) else none

/-- Whether `attempt` failed attempts exhaust the budget. -/
def givesUp (p : ReconnectPolicy) (attempt : Nat) : Bool := decide (attempt ≥ p.maxAttempts)

/-- The JSON form. -/
def toJson (p : ReconnectPolicy) : Json :=
  Json.object [("initialDelayMs", .ofNat p.initialDelayMs), ("maxDelayMs", .ofNat p.maxDelayMs),
    ("factor", .ofFloat p.factor), ("jitter", .ofFloat p.jitter),
    ("maxAttempts", .ofNat p.maxAttempts)]

/-- Reads the JSON form; every field is optional. -/
def decode : Decoder ReconnectPolicy :=
  let d : ReconnectPolicy := {}
  Record.decode ((fun initialDelayMs maxDelayMs factor jitter maxAttempts =>
      ({ initialDelayMs, maxDelayMs, factor, jitter, maxAttempts } : ReconnectPolicy))
    <$> .field "initialDelayMs" decodeU64 (.default d.initialDelayMs)
    <*> .field "maxDelayMs" decodeU64 (.default d.maxDelayMs)
    <*> .field "factor" decodeF64 (.default d.factor)
    <*> .field "jitter" decodeF64 (.default d.jitter)
    <*> .field "maxAttempts" decodeU32 (.default d.maxAttempts)) "struct ReconnectBackoff"

end ReconnectPolicy

end Tether
