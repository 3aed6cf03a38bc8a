import Tether.Text.Blank
/-!
# Time — instants in UTC, their RFC 3339 text, and the time between two

An `Instant` is a day (counted from 1970-01-01), a second of that day and a nanosecond.
A leap second is the nanoseconds `10^9` and above of second 59 of a minute, so
`23:59:60.5` is second `86399` with `1_500_000_000` nanoseconds.

Reading (`Instant.parse`) accepts RFC 3339 with relaxed blanks: a date `Y-M-D`, a `T`,
`t` or space, a time `h:m:s` with an optional fraction (digits after the ninth are
ignored), then `Z`, `z`, `UTC` in any case, or an offset `±hh:mm` (a colon or blanks, or
nothing, between hours and minutes; `−` also counts as minus).  Blanks may stand before
every number and separator, and after the offset.  The instant is converted to UTC.

Writing (`Instant.render`) gives `YYYY-MM-DDTHH:MM:SS`, then 3, 6 or 9 fraction digits
(the fewest that are exact, none for a whole second), then `Z`; a leap second is written
as second 60.

The time from one instant to another (`Instant.since`) counts a leap second as a second
where it lies between them.
-/

namespace Tether

set_option autoImplicit false

/-- Why a timestamp text was refused. -/
inductive TimeError where
  | outOfRange
  | impossible
  | notEnough
  | invalid
  | tooShort
  | tooLong
  deriving DecidableEq, Repr

/-- The text of a timestamp error. -/
def TimeError.message : TimeError → String
  | .outOfRange => "input is out of range"
  | .impossible => "no possible date and time matching input"
  | .notEnough => "input is not enough for unique date and time"
  | .invalid => "input contains invalid characters"
  | .tooShort => "premature end of input"
  | .tooLong => "trailing input"

/-! ## Calendar -/

/-- Whether a year of the proleptic Gregorian calendar is a leap year. -/
def isLeapYear (y : Int) : Bool := (y % 4 = 0 ∧ y % 100 ≠ 0) ∨ y % 400 = 0

/-- The number of days in a month of a year. -/
def daysInMonth (y : Int) (m : Nat) : Nat :=
  if m = 2 then (if isLeapYear y then 29 else 28)
  else if m = 4 ∨ m = 6 ∨ m = 9 ∨ m = 11 then 30
  else 31

/-- The first and last year a date may have. -/
def minYear : Int := -262143
def maxYear : Int := 262142

/-- Days from 1970-01-01 to a date, counting in eras of 400 years. -/
def daysFromCivil (y : Int) (m d : Nat) : Int :=
  let y := if m ≤ 2 then y - 1 else y
  let era := y / 400
  let yoe := y - era * 400
  let mp : Int := if m > 2 then m - 3 else m + 9
  let doy := (153 * mp + 2) / 5 + d - 1
  let doe := yoe * 365 + yoe / 4 - yoe / 100 + doy
  era * 146097 + doe - 719468

/-- The date of a day counted from 1970-01-01. -/
def civilFromDays (z : Int) : Int × Nat × Nat :=
  let z := z + 719468
  let era := z / 146097
  let doe := z - era * 146097
  let yoe := (doe - doe / 1460 + doe / 36524 - doe / 146096) / 365
  let y := yoe + era * 400
  let doy := doe - (365 * yoe + yoe / 4 - yoe / 100)
  let mp := (5 * doy + 2) / 153
  let d := doy - (153 * mp + 2) / 5 + 1
  let m := if mp < 10 then mp + 3 else mp - 9
  ((if m ≤ 2 then y + 1 else y), m.toNat, d.toNat)

/-- An instant in UTC. -/
structure Instant where
  /-- Days since 1970-01-01. -/
  days : Int
  /-- The second of the day, below 86400. -/
  second : Nat
  /-- Nanoseconds, below `2 * 10^9`; from `10^9` on, a leap second. -/
  nano : Nat
  deriving DecidableEq, Repr, Inhabited

/-- A span of time that is not negative: whole seconds and nanoseconds below `10^9`. -/
structure Span where
  secs : Nat
  nanos : Nat
  deriving DecidableEq, Repr

/-- The span of a number of milliseconds. -/
def Span.ofMillis (ms : Nat) : Span := ⟨ms / 1000, ms % 1000 * 1000000⟩

/-- Total order on spans. -/
def Span.lt (a b : Span) : Bool := a.secs < b.secs ∨ (a.secs = b.secs ∧ a.nanos < b.nanos)

namespace Instant

/-- The time from `earlier` to `t` as whole seconds (possibly negative) and nanoseconds
below `10^9`.  A leap second of the later instant's or the earlier instant's day counts
when the other instant's second of the day lies on its other side. -/
def since (t earlier : Instant) : Int × Nat :=
  let secs : Int := (t.days - earlier.days) * 86400 + ((t.second : Int) - earlier.second)
  let secs :=
    if t.second > earlier.second ∧ earlier.nano ≥ 1000000000 then secs + 1
    else if t.second < earlier.second ∧ t.nano ≥ 1000000000 then secs - 1
    else secs
  let frac : Int := (t.nano : Int) - earlier.nano
  (secs + frac / 1000000000, (frac % 1000000000).toNat)

/-- The age of an instant at `now`: the time since it, or zero if it is later. -/
def ageAt (t now : Instant) : Span :=
  let (s, n) := now.since t
  if s < 0 then ⟨0, 0⟩ else ⟨s.toNat, n⟩

/-- The instant `n` microseconds after `t`, for an instant that is not in a leap second. -/
def addMicros (t : Instant) (n : Nat) : Instant :=
  let dayNanos := 86400 * 1000000000
  let total := t.second * 1000000000 + t.nano + n * 1000
  { days := t.days + (total / dayNanos : Nat), second := total % dayNanos / 1000000000,
    nano := total % 1000000000 }

/-! ## Writing -/

/-- `n` as at least `w` digits. -/
def pad (w : Nat) (n : Nat) : String :=
  let s := toString n
  String.ofList (List.replicate (w - s.length) '0') ++ s

/-- The RFC 3339 text of an instant, in UTC. -/
def render (t : Instant) : String :=
  let (y, m, d) := civilFromDays t.days
  let year :=
    if 0 ≤ y ∧ y ≤ 9999 then pad 4 y.toNat
    else (if y < 0 then "-" else "+") ++ pad 4 y.natAbs
  let (sec, nano) :=
    if t.nano ≥ 1000000000 then (t.second % 60 + 1, t.nano - 1000000000)
    else (t.second % 60, t.nano)
  let frac :=
    if nano = 0 then ""
    else if nano % 1000000 = 0 then "." ++ pad 3 (nano / 1000000)
    else if nano % 1000 = 0 then "." ++ pad 6 (nano / 1000)
    else "." ++ pad 9 nano
  year ++ "-" ++ pad 2 m ++ "-" ++ pad 2 d ++ "T" ++ pad 2 (t.second / 3600) ++ ":" ++
    pad 2 (t.second / 60 % 60) ++ ":" ++ pad 2 sec ++ frac ++ "Z"

end Instant

/-! ## Reading -/

namespace TimeText

/-- Fields read so far. -/
structure Fields where
  year : Int := 0
  month : Nat := 0
  day : Nat := 0
  hour : Nat := 0
  minute : Nat := 0
  second : Nat := 0
  nano : Nat := 0

/-- Reading: the rest of the text, or an error. -/
abbrev Step (α : Type) := List Char → Except TimeError (α × List Char)

/-- Whether a character is an ASCII digit. -/
def isDigit (c : Char) : Bool := '0' ≤ c ∧ c ≤ '9'

/-- Between `1` and `width` digits (`width = none`: any number). -/
def number (width : Option Nat) : Step Nat := fun s =>
  match s with
  | [] => .error .tooShort
  | c :: _ =>
    if !isDigit c then .error .invalid
    else
      let ds := s.takeWhile isDigit
      let ds := match width with | some w => ds.take w | none => ds
      let v := ds.foldl (fun acc c => acc * 10 + (c.toNat - 48)) 0
      if v ≥ Nat.pow 2 63 then .error .outOfRange else .ok (v, s.drop ds.length)

/-- A number, after blanks, checked against a range. -/
def field (width : Nat) (lo hi : Nat) : Step Nat := fun s => do
  let (v, rest) ← number (some width) (Text.dropBlank s)
  if lo ≤ v ∧ v ≤ hi then pure (v, rest) else throw .outOfRange

/-- A separator, after blanks. -/
def literal (c : Char) : Step Unit := fun s =>
  match Text.dropBlank s with
  | [] => .error .tooShort
  | d :: rest => if d = c then .ok ((), rest) else .error .invalid

/-- The year: four digits, or any number of digits after a sign. -/
def year : Step Int := fun s =>
  match Text.dropBlank s with
  | '-' :: rest => do
    let (v, r) ← number none rest
    if v > Nat.pow 2 31 then throw .outOfRange else pure (-(v : Int), r)
  | '+' :: rest => do
    let (v, r) ← number none rest
    if v ≥ Nat.pow 2 31 then throw .outOfRange else pure ((v : Int), r)
  | s => do
    let (v, r) ← number (some 4) s
    pure ((v : Int), r)

/-- An optional fraction of a second: nanoseconds, digits after the ninth ignored. -/
def fraction : Step Nat := fun s =>
  match s with
  | '.' :: rest => do
    let (v, r) ← number (some 9) rest
    let used := rest.length - r.length
    pure (v * Nat.pow 10 (9 - used), r.dropWhile isDigit)
  | _ => .ok (0, s)

/-- The first two bytes of the text, as characters when they are ASCII; a text of one
character that takes two or more bytes counts as two bytes that are not digits. -/
def twoDigits (s : List Char) : Option (Char × Char) :=
  match s with
  | a :: b :: _ => some (a, b)
  | [a] => if a.utf8Size ≥ 2 then some (a, a) else none
  | [] => none

/-- The offset from UTC in seconds: `Z`, or a sign, hours, a separator and minutes. -/
def offset : Step Int := fun s =>
  match s with
  | 'Z' :: rest | 'z' :: rest => .ok (0, rest)
  | [] => .error .tooShort
  | c :: rest =>
    let negative := c = '-' ∨ c = '−'
    if !(c = '+' ∨ negative) then .error .invalid
    else
      match twoDigits rest with
      | none => .error .tooShort
      | some (h1, h2) =>
        if !(isDigit h1 ∧ isDigit h2) then .error .invalid
        else
          let hours := (h1.toNat - 48) * 10 + (h2.toNat - 48)
          let rest := (rest.drop 2).dropWhile fun c => c = ':' || Text.isBlank c
          match twoDigits rest with
          | none => .error .tooShort
          | some (m1, m2) =>
            if '0' ≤ m1 ∧ m1 ≤ '5' ∧ isDigit m2 then
              let secs : Int := hours * 3600 + ((m1.toNat - 48) * 10 + (m2.toNat - 48)) * 60
              .ok (if negative then -secs else secs, rest.drop 2)
            else if '6' ≤ m1 ∧ m1 ≤ '9' ∧ isDigit m2 then .error .outOfRange
            else .error .invalid

/-- Whether the text starts with `UTC` in any case. -/
def startsWithUtc (s : List Char) : Bool :=
  match s with
  | a :: b :: c :: _ => a.toUpper = 'U' ∧ b.toUpper = 'T' ∧ c.toUpper = 'C'
  | _ => false

/-- The fields and the offset of a timestamp text. -/
def fields (s : List Char) : Except TimeError (Fields × Int) := do
  let (y, s) ← year s
  let ((), s) ← literal '-' s
  let (mo, s) ← field 2 1 12 s
  let ((), s) ← literal '-' s
  let (d, s) ← field 2 1 31 s
  let s ← match s with
    | c :: rest => if c = 'T' ∨ c = 't' ∨ c = ' ' then pure rest else throw .invalid
    | [] => throw .tooShort
  let (h, s) ← field 2 0 23 s
  let ((), s) ← literal ':' s
  let (mi, s) ← field 2 0 59 s
  let ((), s) ← literal ':' s
  let (sec, s) ← field 2 0 60 s
  let (nano, s) ← fraction s
  let s := Text.dropBlank s
  let (off, s) ← if startsWithUtc s then pure (0, s.drop 3) else offset s
  if !(Text.dropBlank s).isEmpty then throw .tooLong
  pure ({ year := y, month := mo, day := d, hour := h, minute := mi, second := sec, nano }, off)

end TimeText

namespace Instant

/-- Reads an RFC 3339 timestamp and converts it to UTC. -/
def parse (text : String) : Except TimeError Instant := do
  let (f, off) ← TimeText.fields text.toList
  if f.year < minYear ∨ f.year > maxYear ∨ f.day > daysInMonth f.year f.month then
    throw .outOfRange
  if off.natAbs ≥ 86400 then throw .outOfRange
  let (second, nano) := if f.second = 60 then (59, f.nano + 1000000000) else (f.second, f.nano)
  let localSecs : Int := daysFromCivil f.year f.month f.day * 86400 +
    (f.hour * 3600 + f.minute * 60 + second)
  let utc := localSecs - off
  let days := utc / 86400
  let (y, _, _) := civilFromDays days
  if y < minYear ∨ y > maxYear then throw .impossible
  pure { days, second := (utc % 86400).toNat, nano }

end Instant

end Tether
