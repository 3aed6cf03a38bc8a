import Tether.Json.Value
/-!
# Json.Read — reading JSON text into a located tree

Reading JSON text gives a `Node`: the value with the byte offsets where each part starts and
ends, read up to the first syntax error.  A node that fails keeps what came before the
failure (the items and members already read) and ends in the `SyntaxError`, so a decoder
that stops at an earlier problem of its own reports that problem, as a reader that decodes
while it reads would.

Every failing part also records whether *skipping* it would have succeeded.  Skipping is
what happens to a member that a record does not know: its text is checked for balance and
form only, so an out-of-range number, a lone surrogate escape or deep nesting pass, and the
text after it is read on (`resume`).  Where skipping fails too, `Node.skip` reports the
error that skipping meets, which may differ from the one reading meets: after a comma,
skipping expects a value, and reading reports a trailing comma.

Errors are reported at byte offsets: `SyntaxError.offset` is either the offset after the
last byte consumed or, for errors found by looking at the next byte, one past that byte
(never past the end).  `lineColumn` turns an offset into a line (from 1) and a column (the
bytes since the line began).
-/

namespace Tether.Json

set_option autoImplicit false

/-- What went wrong in JSON text. -/
inductive SyntaxCode where
  | eofInList
  | eofInObject
  | eofInString
  | eofInValue
  | expectedColon
  | expectedListCommaOrEnd
  | expectedObjectCommaOrEnd
  | expectedIdent
  | expectedValue
  | invalidEscape
  | invalidNumber
  | numberOutOfRange
  | controlCharacter
  | keyMustBeString
  | loneSurrogate
  | unexpectedEndOfHexEscape
  | trailingComma
  | trailingCharacters
  | recursionLimit
  deriving Repr, DecidableEq

/-- The text of a syntax error. -/
def SyntaxCode.message : SyntaxCode → String
  | .eofInList => "EOF while parsing a list"
  | .eofInObject => "EOF while parsing an object"
  | .eofInString => "EOF while parsing a string"
  | .eofInValue => "EOF while parsing a value"
  | .expectedColon => "expected `:`"
  | .expectedListCommaOrEnd => "expected `,` or `]`"
  | .expectedObjectCommaOrEnd => "expected `,` or `\x7d`"
  | .expectedIdent => "expected ident"
  | .expectedValue => "expected value"
  | .invalidEscape => "invalid escape"
  | .invalidNumber => "invalid number"
  | .numberOutOfRange => "number out of range"
  | .controlCharacter => "control character (\\u0000-\\u001F) found while parsing a string"
  | .keyMustBeString => "key must be a string"
  | .loneSurrogate => "lone leading surrogate in hex escape"
  | .unexpectedEndOfHexEscape => "unexpected end of hex escape"
  | .trailingComma => "trailing comma"
  | .trailingCharacters => "trailing characters"
  | .recursionLimit => "recursion limit exceeded"

/-- A syntax error and the byte offset it is reported at. -/
structure SyntaxError where
  code : SyntaxCode
  offset : Nat
  deriving Repr, DecidableEq

/-- How a container ended. -/
inductive Close where
  /-- At its closing bracket; `stop` is the offset after it. -/
  | closed (stop : Nat)
  /-- Its own syntax failed. -/
  | failed (e : SyntaxError)
  /-- An object read a key and then found no colon. -/
  | colon (key : String) (keyEnd : Nat) (e : SyntaxError)
  /-- Its last item or member value failed. -/
  | cut

/-- A JSON value read from text, with offsets. -/
inductive Node where
  | null (start stop : Nat)
  | bool (b : Bool) (start stop : Nat)
  | num (n : Number) (start stop : Nat)
  | str (s : String) (start stop : Nat)
  /-- An array; `resume` is where skipping a failed array ends, if skipping succeeds. -/
  | arr (items : List Node) (start : Nat) (close : Close) (resume : Option Nat)
  /-- An object: each member is its key, the offset after the key, and its value. -/
  | obj (members : List (String × Nat × Node)) (start : Nat) (close : Close) (resume : Option Nat)
  /-- A value that failed to read on its own (a scalar, or nesting too deep). -/
  | broken (start : Nat) (e : SyntaxError) (resume : Option Nat)
  deriving Inhabited

/-- Whether a byte is JSON whitespace. -/
def isBlank (b : UInt8) : Bool := b == 32 || b == 10 || b == 9 || b == 13

/-- Whether a byte is an ASCII digit. -/
def isDigitByte (b : UInt8) : Bool := 48 ≤ b && b ≤ 57

/-- JSON text as bytes. -/
structure Text where
  bytes : ByteArray

namespace Text

/-- The byte at an offset. -/
def get? (t : Text) (i : Nat) : Option UInt8 := t.bytes[i]?

/-- The length in bytes. -/
def size (t : Text) : Nat := t.bytes.size

/-- An error at the offset after what was consumed. -/
def err (_ : Text) (code : SyntaxCode) (i : Nat) : SyntaxError := ⟨code, i⟩

/-- An error found on looking at the byte at `i`: reported one past it, never past the end. -/
def peekErr (t : Text) (code : SyntaxCode) (i : Nat) : SyntaxError := ⟨code, min t.size (i + 1)⟩

/-- The offset of the first non-blank byte at or after `i`. -/
def skipBlank (t : Text) (i : Nat) : Nat :=
  go t.size i
where
  go : Nat → Nat → Nat
    | 0, i => i
    | fuel + 1, i => match t.get? i with
      | some b => if isBlank b then go fuel (i + 1) else i
      | none => i

/-- The offset after the digits at or after `i`. -/
def skipDigits (t : Text) (i : Nat) : Nat :=
  go t.size i
where
  go : Nat → Nat → Nat
    | 0, i => i
    | fuel + 1, i => match t.get? i with
      | some b => if isDigitByte b then go fuel (i + 1) else i
      | none => i

/-- Whether the byte at `i` is `c`. -/
def isAt (t : Text) (i : Nat) (c : Char) : Bool := t.get? i == some c.toNat.toUInt8

end Text

/-- Line (from 1) and column (bytes since the line began) of an offset. -/
def lineColumn (bytes : ByteArray) (i : Nat) : Nat × Nat :=
  let (lines, lineStart, _) := bytes.foldl (fun (acc : Nat × Nat × Nat) b =>
    let (lines, start, j) := acc
    if j < i ∧ b = 10 then (lines + 1, j + 1, j + 1) else (lines, start, j + 1)) (1, 0, 0)
  (lines, i - lineStart)

/-! ## Numbers

An integer literal is accumulated while it fits 64 bits; further integer digits only raise
the decimal exponent, and further fraction digits are dropped.  The double is then the
significand, rounded to a double, multiplied or divided by the double nearest to the power
of ten (one rounding each), with exponents beyond 308 divided out in steps of `1e308`.  A
product that overflows is out of range; an exponent too large for 32 bits is out of range
unless the value is zero or the exponent negative. -/

/-- The double nearest `10 ^ k`. -/
def pow10 (k : Nat) : Float := Decimal.floatOfNat (Nat.pow 10 k)

/-- Whether `acc * 10 + d` exceeds `limit`. -/
def overflows (acc d limit : Nat) : Bool :=
  acc ≥ limit / 10 && (acc > limit / 10 || d > limit % 10)

/-- The largest 64-bit unsigned integer. -/
def u64Max : Nat := Nat.pow 2 64 - 1

/-- The largest 32-bit signed integer. -/
def i32Max : Int := Int.pow 2 31 - 1

/-- Clamps an exponent sum into 32 bits. -/
def saturate32 (x : Int) : Int := max (-(Int.pow 2 31)) (min i32Max x)

/-- `significand * 10 ^ exponent` as a double, or `none` when out of range. -/
def floatOfParts (positive : Bool) (significand : Nat) (exponent : Int) : Option Float :=
  (go 8 (Decimal.floatOfNat significand) exponent).map fun f => if positive then f else -f
where
  go : Nat → Float → Int → Option Float
    | 0, f, _ => some f
    | fuel + 1, f, e =>
      if e.natAbs ≤ 308 then
        if e ≥ 0 then
          let g := f * pow10 e.toNat
          if g.isInf then none else some g
        else some (f / pow10 e.natAbs)
      else if f == 0 then some f
      else if e ≥ 0 then none
      else go fuel (f / pow10 308) (e + 308)

/-- Finishes a number: the double of the parts, or out of range at offset `i`. -/
def finishFloat (t : Text) (positive : Bool) (sig : Nat) (exp : Int) (i : Nat) :
    Except SyntaxError (Number × Nat) :=
  match floatOfParts positive sig exp with
  | some f => .ok (.float f, i)
  | none => .error (t.err .numberOutOfRange i)

/-- The exponent part, from the `e` at `i`. -/
def readExponent (t : Text) (positive : Bool) (sig : Nat) (start : Int) (i : Nat) :
    Except SyntaxError (Number × Nat) :=
  let j := i + 1
  let (positiveExp, j) :=
    if t.isAt j '+' then (true, j + 1) else if t.isAt j '-' then (false, j + 1) else (true, j)
  match t.get? j with
  | none => .error (t.err .eofInValue j)
  | some c =>
    if !isDigitByte c then .error (t.err .invalidNumber (j + 1))
    else go t.size (c.toNat - 48) (j + 1) positiveExp
where
  go : Nat → Nat → Nat → Bool → Except SyntaxError (Number × Nat)
    | 0, _, k, _ => .error (t.err .invalidNumber k)
    | fuel + 1, e, k, positiveExp =>
      match t.get? k with
      | some d =>
        if isDigitByte d then
          if overflows e (d.toNat - 48) i32Max.toNat then
            if sig ≠ 0 ∧ positiveExp then .error (t.err .numberOutOfRange (k + 1))
            else .ok (.float (if positive then 0.0 else -0.0), t.skipDigits (k + 1))
          else go fuel (e * 10 + (d.toNat - 48)) (k + 1) positiveExp
        else
          finishFloat t positive sig
            (saturate32 (if positiveExp then start + e else start - e)) k
      | none =>
        finishFloat t positive sig
          (saturate32 (if positiveExp then start + e else start - e)) k

/-- The fraction part, from the `.` at `i`, after an integer part of value `sig` and
decimal exponent `before`. -/
def readFraction (t : Text) (positive : Bool) (sig : Nat) (before : Int) (i : Nat) :
    Except SyntaxError (Number × Nat) :=
  go t.size sig 0 (i + 1)
where
  tail (sig : Nat) (exp : Int) (k : Nat) : Except SyntaxError (Number × Nat) :=
    if t.isAt k 'e' || t.isAt k 'E' then readExponent t positive sig exp k
    else finishFloat t positive sig exp k
  go : Nat → Nat → Nat → Nat → Except SyntaxError (Number × Nat)
    | 0, _, _, k => .error (t.err .invalidNumber k)
    | fuel + 1, sig, after, k =>
      match t.get? k with
      | some d =>
        if isDigitByte d then
          if overflows sig (d.toNat - 48) u64Max then
            tail sig (before - after) (t.skipDigits k)
          else go fuel (sig * 10 + (d.toNat - 48)) (after + 1) (k + 1)
        else if after = 0 then .error (t.peekErr .invalidNumber k)
        else tail sig (before - after) k
      | none =>
        if after = 0 then .error (t.peekErr .eofInValue k)
        else tail sig (before - after) k

/-- After the integer digits: a fraction, an exponent, or an integer. -/
def readNumberTail (t : Text) (positive : Bool) (sig : Nat) (i : Nat) :
    Except SyntaxError (Number × Nat) :=
  if t.isAt i '.' then readFraction t positive sig 0 i
  else if t.isAt i 'e' || t.isAt i 'E' then readExponent t positive sig 0 i
  else if positive then .ok (.nat sig, i)
  else if sig = 0 then .ok (.float (-0.0), i)
  else if sig ≤ Nat.pow 2 63 then .ok (.neg (-(sig : Int)), i)
  else .ok (.float (-(Decimal.floatOfNat sig)), i)

/-- Integer digits beyond 64 bits: each raises the exponent. -/
def readLongInteger (t : Text) (positive : Bool) (sig : Nat) (i : Nat) :
    Except SyntaxError (Number × Nat) :=
  go t.size 0 i
where
  go : Nat → Nat → Nat → Except SyntaxError (Number × Nat)
    | 0, _, k => .error (t.err .invalidNumber k)
    | fuel + 1, extra, k =>
      match t.get? k with
      | some d =>
        if isDigitByte d then go fuel (extra + 1) (k + 1)
        else if d = 46 then readFraction t positive sig extra k
        else if d = 101 || d = 69 then readExponent t positive sig extra k
        else finishFloat t positive sig extra k
      | none => finishFloat t positive sig extra k

/-- A number whose first digit (after any minus sign) is at `i`. -/
def readNumber (t : Text) (positive : Bool) (i : Nat) : Except SyntaxError (Number × Nat) :=
  match t.get? i with
  | none => .error (t.err .eofInValue i)
  | some c =>
    if c = 48 then
      match t.get? (i + 1) with
      | some d => if isDigitByte d then .error (t.peekErr .invalidNumber (i + 1))
                  else readNumberTail t positive 0 (i + 1)
      | none => readNumberTail t positive 0 (i + 1)
    else if isDigitByte c then go t.size (c.toNat - 48) (i + 1)
    else .error (t.err .invalidNumber (i + 1))
where
  go : Nat → Nat → Nat → Except SyntaxError (Number × Nat)
    | 0, _, k => .error (t.err .invalidNumber k)
    | fuel + 1, sig, k =>
      match t.get? k with
      | some d =>
        if isDigitByte d then
          if overflows sig (d.toNat - 48) u64Max then readLongInteger t positive sig k
          else go fuel (sig * 10 + (d.toNat - 48)) (k + 1)
        else readNumberTail t positive sig k
      | none => readNumberTail t positive sig k

/-! ## Strings -/

/-- The value of a hex digit. -/
def hexValue (b : UInt8) : Option Nat :=
  if 48 ≤ b ∧ b ≤ 57 then some (b.toNat - 48)
  else if 97 ≤ b ∧ b ≤ 102 then some (b.toNat - 87)
  else if 65 ≤ b ∧ b ≤ 70 then some (b.toNat - 55)
  else none

/-- Four hex digits at `i`, as a 16-bit unit; a bad digit is reported after all four. -/
def readHex4 (t : Text) (i : Nat) : Except SyntaxError (Nat × Nat) :=
  if t.size < i + 4 then .error (t.err .eofInString t.size)
  else
    let digits := [i, i + 1, i + 2, i + 3].map fun k => (t.get? k).bind hexValue
    match digits with
    | [some a, some b, some c, some d] => .ok (((a * 16 + b) * 16 + c) * 16 + d, i + 4)
    | _ => .error (t.err .invalidEscape (i + 4))

/-- The UTF-8 bytes of a code point. -/
def utf8Bytes (n : Nat) : List UInt8 :=
  if n < 0x80 then [n.toUInt8]
  else if n < 0x800 then [(0xC0 + n / 64).toUInt8, (0x80 + n % 64).toUInt8]
  else if n < 0x10000 then
    [(0xE0 + n / 4096).toUInt8, (0x80 + n / 64 % 64).toUInt8, (0x80 + n % 64).toUInt8]
  else
    [(0xF0 + n / 262144).toUInt8, (0x80 + n / 4096 % 64).toUInt8,
      (0x80 + n / 64 % 64).toUInt8, (0x80 + n % 64).toUInt8]

/-- A `\u` escape whose hex digits start at `i`; a leading surrogate must be followed by a
trailing one. -/
def readUnicodeEscape (t : Text) (i : Nat) : Except SyntaxError (List UInt8 × Nat) := do
  let (n, j) ← readHex4 t i
  if 0xDC00 ≤ n ∧ n ≤ 0xDFFF then throw (t.err .loneSurrogate j)
  if n < 0xD800 ∨ n > 0xDBFF then return (utf8Bytes n, j)
  match t.get? j with
  | none => throw (t.err .eofInString j)
  | some b =>
    if b ≠ 92 then throw (t.err .unexpectedEndOfHexEscape (j + 1))
    match t.get? (j + 1) with
    | none => throw (t.err .eofInString (j + 1))
    | some u =>
      if u ≠ 117 then throw (t.err .unexpectedEndOfHexEscape (j + 2))
      let (n2, k) ← readHex4 t (j + 2)
      if n2 < 0xDC00 ∨ n2 > 0xDFFF then throw (t.err .loneSurrogate k)
      return (utf8Bytes ((n - 0xD800) * 1024 + (n2 - 0xDC00) + 0x10000), k)

/-- An escape whose letter is at `i`. -/
def readEscape (t : Text) (i : Nat) : Except SyntaxError (List UInt8 × Nat) :=
  match t.get? i with
  | none => .error (t.err .eofInString i)
  | some c =>
    if c = 34 ∨ c = 92 ∨ c = 47 then .ok ([c], i + 1)
    else if c = 98 then .ok ([8], i + 1)
    else if c = 102 then .ok ([12], i + 1)
    else if c = 110 then .ok ([10], i + 1)
    else if c = 114 then .ok ([13], i + 1)
    else if c = 116 then .ok ([9], i + 1)
    else if c = 117 then readUnicodeEscape t (i + 1)
    else .error (t.err .invalidEscape (i + 1))

/-- The string whose first byte after the opening quote is at `i`, and the offset after its
closing quote. -/
def readString (t : Text) (i : Nat) : Except SyntaxError (String × Nat) :=
  go t.size ByteArray.empty i
where
  go : Nat → ByteArray → Nat → Except SyntaxError (String × Nat)
    | 0, _, k => .error (t.err .eofInString k)
    | fuel + 1, acc, k =>
      match t.get? k with
      | none => .error (t.err .eofInString t.size)
      | some b =>
        if b = 34 then .ok ((String.fromUTF8? acc).getD "", k + 1)
        else if b = 92 then
          match readEscape t (k + 1) with
          | .ok (bs, j) => go fuel (bs.foldl ByteArray.push acc) j
          | .error e => .error e
        else if b < 32 then .error (t.err .controlCharacter (k + 1))
        else go fuel (acc.push b) (k + 1)

/-- The literal `word` at `i`: each byte is consumed before it is compared. -/
def readWord (t : Text) (word : List UInt8) (i : Nat) : Except SyntaxError Nat :=
  match word with
  | [] => .ok i
  | w :: rest =>
    match t.get? i with
    | none => .error (t.err .eofInValue i)
    | some b => if b = w then readWord t rest (i + 1) else .error (t.err .expectedIdent (i + 1))

/-! ## Skipping a value -/

/-- A string being skipped, from the byte after its opening quote: escapes are checked for
form only. -/
def skipString (t : Text) (i : Nat) : Except SyntaxError Nat :=
  go t.size i
where
  go : Nat → Nat → Except SyntaxError Nat
    | 0, k => .error (t.err .eofInString k)
    | fuel + 1, k =>
      match t.get? k with
      | none => .error (t.err .eofInString t.size)
      | some b =>
        if b = 34 then .ok (k + 1)
        else if b = 92 then
          match t.get? (k + 1) with
          | none => .error (t.err .eofInString (k + 1))
          | some c =>
            if c = 34 ∨ c = 92 ∨ c = 47 ∨ c = 98 ∨ c = 102 ∨ c = 110 ∨ c = 114 ∨ c = 116 then
              go fuel (k + 2)
            else if c = 117 then
              match readHex4 t (k + 2) with
              | .ok (_, j) => go fuel j
              | .error e => .error e
            else .error (t.err .invalidEscape (k + 2))
        else if b < 32 then .error (t.err .controlCharacter k)
        else go fuel (k + 1)

/-- The exponent of a number being skipped, from its `e`. -/
def skipExponent (t : Text) (i : Nat) : Except SyntaxError Nat :=
  let j := if t.isAt (i + 1) '+' || t.isAt (i + 1) '-' then i + 2 else i + 1
  match t.get? j with
  | some c => if isDigitByte c then .ok (t.skipDigits (j + 1)) else .error (t.err .invalidNumber (j + 1))
  | none => .error (t.err .invalidNumber j)

/-- A number being skipped, from its first digit: its form is checked, not its range. -/
def skipNumber (t : Text) (i : Nat) : Except SyntaxError Nat := do
  let j ← match t.get? i with
    | some 48 =>
      match t.get? (i + 1) with
      | some d => if isDigitByte d then throw (t.peekErr .invalidNumber (i + 1)) else pure (i + 1)
      | none => pure (i + 1)
    | some c => if isDigitByte c then pure (t.skipDigits (i + 1)) else throw (t.err .invalidNumber (i + 1))
    | none => throw (t.err .invalidNumber i)
  if t.isAt j '.' then
    let k := t.skipDigits (j + 1)
    if k = j + 1 then throw (t.peekErr .invalidNumber k)
    if t.isAt k 'e' || t.isAt k 'E' then skipExponent t k else pure k
  else if t.isAt j 'e' || t.isAt j 'E' then skipExponent t j
  else pure j

/-- Skips a scalar whose first byte is at `i`; `none` when a container opens there. -/
def skipScalar (t : Text) (i : Nat) : Option (Except SyntaxError Nat) :=
  match t.get? i with
  | none => some (.error (t.peekErr .eofInValue i))
  | some b =>
    if b = 110 then some (readWord t [117, 108, 108] (i + 1))
    else if b = 116 then some (readWord t [114, 117, 101] (i + 1))
    else if b = 102 then some (readWord t [97, 108, 115, 101] (i + 1))
    else if b = 45 then some (skipNumber t (i + 1))
    else if isDigitByte b then some (skipNumber t i)
    else if b = 34 then some (skipString t (i + 1))
    else if b = 91 ∨ b = 123 then none
    else some (.error (t.peekErr .expectedValue i))

/-- Where a skipped value that starts at or after `i` ends.  Open brackets are kept on a
stack (`true` for an object), so nesting has no limit. -/
def skipValue (t : Text) (i : Nat) : Except SyntaxError Nat :=
  value (2 * t.size + 4) [] i
where
  /-- After a value or an opening bracket: commas, closing brackets, and keys. -/
  after : Nat → List Bool → Bool → Nat → Except SyntaxError Nat
    | 0, _, _, k => .error (t.err .eofInValue k)
    | fuel + 1, stack, comma, k =>
      match stack with
      | [] => .ok k
      | inObject :: outer =>
        let k := t.skipBlank k
        match t.get? k with
        | none => .error (t.peekErr (if inObject then .eofInObject else .eofInList) k)
        | some b =>
          if b = 44 ∧ comma then key fuel stack (k + 1)
          else if (b = 93 ∧ !inObject) ∨ (b = 125 ∧ inObject) then after fuel outer true (k + 1)
          else if comma then
            .error (t.peekErr (if inObject then .expectedObjectCommaOrEnd else .expectedListCommaOrEnd) k)
          else key fuel stack k
  /-- Inside an object, a key and its colon come before the value. -/
  key : Nat → List Bool → Nat → Except SyntaxError Nat
    | 0, _, k => .error (t.err .eofInValue k)
    | fuel + 1, stack, k =>
      match stack with
      | true :: _ =>
        let k := t.skipBlank k
        match t.get? k with
        | none => .error (t.peekErr .eofInObject k)
        | some 34 =>
          match skipString t (k + 1) with
          | .error e => .error e
          | .ok j =>
            let j := t.skipBlank j
            match t.get? j with
            | some 58 => value fuel stack (j + 1)
            | some _ => .error (t.peekErr .expectedColon j)
            | none => .error (t.peekErr .eofInObject j)
        | some _ => .error (t.peekErr .keyMustBeString k)
      | _ => value fuel stack k
  /-- A value. -/
  value : Nat → List Bool → Nat → Except SyntaxError Nat
    | 0, _, k => .error (t.err .eofInValue k)
    | fuel + 1, stack, k =>
      let k := t.skipBlank k
      match skipScalar t k with
      | some (.ok j) => after fuel stack true j
      | some (.error e) => .error e
      | none => after fuel ((t.isAt k '{') :: stack) false (k + 1)

/-! ## Reading -/

/-- Nesting deeper than this many containers is refused. -/
def depthLimit : Nat := 127

/-- Where reading goes on after a node: after its end if it was read, or where skipping it
ends if that succeeds. -/
def Node.resumeAt : Node → Option Nat
  | .null _ stop | .bool _ _ stop | .num _ _ stop | .str _ _ stop => some stop
  | .arr _ _ (.closed stop) _ | .obj _ _ (.closed stop) _ => some stop
  | .arr _ _ _ resume | .obj _ _ _ resume => resume
  | .broken _ _ resume => resume

/-- A scalar that failed to read, with where skipping it ends. -/
def brokenAt (t : Text) (start : Nat) (e : SyntaxError) : Node :=
  .broken start e (skipValue t start).toOption

mutual
/-- Reads the value at or after `i` inside `depth` containers. -/
def readValue (t : Text) : Nat → Nat → Nat → Node
  | 0, _, i => .broken i (t.err .eofInValue i) none
  | fuel + 1, depth, i =>
    let i := t.skipBlank i
    match t.get? i with
    | none => .broken i (t.peekErr .eofInValue i) none
    | some b =>
      if b = 110 then
        match readWord t [117, 108, 108] (i + 1) with
        | .ok j => .null i j
        | .error e => .broken i e none
      else if b = 116 then
        match readWord t [114, 117, 101] (i + 1) with
        | .ok j => .bool true i j
        | .error e => .broken i e none
      else if b = 102 then
        match readWord t [97, 108, 115, 101] (i + 1) with
        | .ok j => .bool false i j
        | .error e => .broken i e none
      else if b = 45 ∨ isDigitByte b then
        match readNumber t (b ≠ 45) (if b = 45 then i + 1 else i) with
        | .ok (n, j) => .num n i j
        | .error e => brokenAt t i e
      else if b = 34 then
        match readString t (i + 1) with
        | .ok (s, j) => .str s i j
        | .error e => brokenAt t i e
      else if b = 91 ∨ b = 123 then
        if depth ≥ depthLimit then brokenAt t i (t.peekErr .recursionLimit i)
        else if b = 91 then readItems t fuel (depth + 1) i [] true (i + 1)
        else readMembers t fuel (depth + 1) i [] true (i + 1)
      else .broken i (t.peekErr .expectedValue i) none

/-- Reads the items of the array opened at `start`, from `i`; `acc` holds those read, last
first. -/
def readItems (t : Text) : Nat → Nat → Nat → List Node → Bool → Nat → Node
  | 0, _, start, acc, _, i => .arr acc.reverse start (.failed (t.err .eofInList i)) none
  | fuel + 1, depth, start, acc, first, i =>
    let fail (e : SyntaxError) : Node :=
      .arr acc.reverse start (.failed e) (skipValue t start).toOption
    let i := t.skipBlank i
    match t.get? i with
    | none => fail (t.peekErr .eofInList i)
    | some 93 => .arr acc.reverse start (.closed (i + 1)) none
    | some b =>
      if !first ∧ b ≠ 44 then fail (t.peekErr .expectedListCommaOrEnd i)
      else
        let j := if first then i else t.skipBlank (i + 1)
        match t.get? j with
        | some 93 => fail (t.peekErr .trailingComma j)
        | none => fail (t.peekErr .eofInValue j)
        | some _ =>
          let item := readValue t fuel depth j
          match item.resumeAt with
          | some k => readItems t fuel depth start (item :: acc) false k
          | none => .arr (item :: acc).reverse start .cut none

/-- Reads the members of the object opened at `start`, from `i`. -/
def readMembers (t : Text) : Nat → Nat → Nat → List (String × Nat × Node) → Bool → Nat → Node
  | 0, _, start, acc, _, i => .obj acc.reverse start (.failed (t.err .eofInObject i)) none
  | fuel + 1, depth, start, acc, first, i =>
    let fail (close : Close) : Node :=
      .obj acc.reverse start close (skipValue t start).toOption
    let i := t.skipBlank i
    match t.get? i with
    | none => fail (.failed (t.peekErr .eofInObject i))
    | some 125 => .obj acc.reverse start (.closed (i + 1)) none
    | some b =>
      if !first ∧ b ≠ 44 then fail (.failed (t.peekErr .expectedObjectCommaOrEnd i))
      else
        let j := if first then i else t.skipBlank (i + 1)
        match t.get? j with
        | some 34 =>
          match readString t (j + 1) with
          | .error e => fail (.failed e)
          | .ok (key, keyEnd) =>
            let c := t.skipBlank keyEnd
            match t.get? c with
            | some 58 =>
              let value := readValue t fuel depth (c + 1)
              match value.resumeAt with
              | some k => readMembers t fuel depth start ((key, keyEnd, value) :: acc) false k
              | none => .obj ((key, keyEnd, value) :: acc).reverse start .cut none
            | some _ => fail (.colon key keyEnd (t.peekErr .expectedColon c))
            | none => fail (.colon key keyEnd (t.peekErr .eofInObject c))
        | some 125 => fail (.failed (t.peekErr .trailingComma j))
        | some _ => fail (.failed (t.peekErr .keyMustBeString j))
        | none => fail (.failed (t.peekErr .eofInValue j))

end

/-- The offset where a node starts. -/
def Node.start : Node → Nat
  | .null s _ | .bool _ s _ | .num _ s _ | .str _ s _ => s
  | .arr _ s _ _ | .obj _ s _ _ => s
  | .broken s _ _ => s

/-- Skipping a node: the offset after it, or the error that skipping meets. -/
def Node.skip (t : Text) (n : Node) : Except SyntaxError Nat :=
  match n.resumeAt with
  | some k => .ok k
  | none => skipValue t n.start

/-- The error that ends a container, if its syntax failed. -/
def Close.error? : Close → Option SyntaxError
  | .failed e | .colon _ _ e => some e
  | .closed _ | .cut => none

mutual
/-- The value of a node, or the first syntax error in it; in an object a later member of a
key replaces an earlier one. -/
def Node.toJson : Node → Except SyntaxError Json
  | .null _ _ => .ok .null
  | .bool b _ _ => .ok (.bool b)
  | .num n _ _ => .ok (.num n)
  | .str s _ _ => .ok (.str s)
  | .arr items _ close _ => do
    let js ← Node.itemsToJson items
    match close.error? with
    | some e => throw e
    | none => pure (.arr js)
  | .obj members _ close _ => do
    let fs ← Node.membersToJson members
    match close.error? with
    | some e => throw e
    | none => pure (Json.object fs)
  | .broken _ e _ => .error e

/-- `Node.toJson` on items. -/
def Node.itemsToJson : List Node → Except SyntaxError (List Json)
  | [] => .ok []
  | n :: rest => do
    let j ← n.toJson
    let js ← Node.itemsToJson rest
    pure (j :: js)

/-- `Node.toJson` on members. -/
def Node.membersToJson : List (String × Nat × Node) → Except SyntaxError (List (String × Json))
  | [] => .ok []
  | (k, _, n) :: rest => do
    let j ← n.toJson
    let js ← Node.membersToJson rest
    pure ((k, j) :: js)
end

/-- A document: its root node, and the error of text after it, if any. -/
structure Document where
  text : Text
  root : Node
  trailing : Option SyntaxError

/-- Reads JSON text. -/
def Document.read (s : String) : Document :=
  let t : Text := ⟨s.toUTF8⟩
  let root := readValue t (2 * t.size + 4) 0 0
  let trailing := match root.resumeAt with
    | some k =>
      let k := t.skipBlank k
      if k < t.size then some (t.peekErr .trailingCharacters k) else none
    | none => none
  { text := t, root, trailing }

/-- The value of a document, or the first syntax error. -/
def Document.toJson (d : Document) : Except SyntaxError Json := do
  let j ← d.root.toJson
  match d.trailing with
  | some e => throw e
  | none => pure j

end Tether.Json
