/-!
# Uuid — 128-bit identifiers and their text

A `Uuid` is sixteen bytes.  Its text is read in four forms, digits in either case: 32 hex
digits; 36 characters in groups of 8, 4, 4, 4 and 12 digits joined by `-`; that form in
braces; or that form after `urn:uuid:`, the prefix in either case.  The form is chosen by
the length of the text in bytes.  It is written in the hyphenated form, lowercase.

A refused text is explained by `UuidError`.  A text of one of the four lengths (with the
form's frame, for the braces and the prefix) is explained by what was read, the inside of
the frame, as it stands and as the form it was taken for: offsets count from its start and
no further frame is stripped.  Any other text is explained as a whole, after stripping
braces or the prefix, with offsets counted in the whole text.  The explanation gives, in
order: a text longer than 45 bytes is too long; the first character that is neither a hex
digit nor `-`, with its byte offset; hex digits alone in a text taken for the simple form
are of the wrong length; the groups are not five; the first group of the wrong length (the
last group measured up to the end of the text).
-/

namespace Tether

set_option autoImplicit false

/-- A 128-bit identifier. -/
structure Uuid where
  bytes : List Nat
  deriving DecidableEq, Repr, Inhabited

/-- Why a text is no identifier. -/
inductive UuidError where
  | char (c : Char) (index : Nat)
  /-- Hex digits alone, or more than 45 bytes, of the given length. -/
  | length (len : Nat)
  | groupCount (count : Nat)
  | groupLength (group : Nat) (len : Nat)
  deriving DecidableEq, Repr

/-- The text of an identifier error. -/
def UuidError.message : UuidError → String
  | .char c i => "invalid character: found `" ++ String.singleton c ++ "` at " ++ toString i
  | .length n => "invalid length: found " ++ toString n
  | .groupCount n => "invalid group count: expected 5, found " ++ toString n
  | .groupLength g n =>
    let expected := match g with | 0 => 8 | 4 => 12 | _ => 4
    "invalid group length in group " ++ toString g ++ ": expected " ++ toString expected ++
      ", found " ++ toString n

namespace Uuid

/-- The value of a hex digit. -/
def hexValue (c : Char) : Option Nat :=
  if '0' ≤ c ∧ c ≤ '9' then some (c.toNat - 48)
  else if 'a' ≤ c ∧ c ≤ 'f' then some (c.toNat - 87)
  else if 'A' ≤ c ∧ c ≤ 'F' then some (c.toNat - 55)
  else none

/-- Pairs of hex digits as bytes. -/
def bytesOfHex : List Char → Option (List Nat)
  | [] => some []
  | a :: b :: rest => do
    let x ← hexValue a
    let y ← hexValue b
    let r ← bytesOfHex rest
    pure ((x * 16 + y) :: r)
  | [_] => none

/-- The sixteen bytes of 32 hex digits. -/
def ofSimple (cs : List Char) : Option Uuid :=
  if cs.length = 32 then (bytesOfHex cs).map Uuid.mk else none

/-- The sixteen bytes of the hyphenated form. -/
def ofHyphenated (cs : List Char) : Option Uuid :=
  if cs.length = 36 ∧ cs[8]? = some '-' ∧ cs[13]? = some '-' ∧ cs[18]? = some '-' ∧
      cs[23]? = some '-' then
    ofSimple (cs.filter (· ≠ '-')) |>.filter fun _ => (cs.filter (· = '-')).length = 4
  else none

/-- Whether a text starts with `urn:uuid:`, letters in either case. -/
def hasUrnPrefix (cs : List Char) : Bool :=
  (cs.take 9).map Char.toLower == "urn:uuid:".toList

/-- The characters of a text with their byte offsets, counted from `start`. -/
def withOffsets : List Char → Nat → List (Char × Nat)
  | [], _ => []
  | c :: rest, i => (c, i) :: withOffsets rest (i + c.utf8Size)

/-- The explanation of a refused text `body` of `size` bytes, its offsets shifted by
`offset`; `simple` says that hex digits alone are to be blamed on the length. -/
def explainBody (body : List Char) (offset : Nat) (simple : Bool) (size : Nat) : UuidError :=
  let indexed := withOffsets body 0
  match indexed.find? (fun (c, _) => c ≠ '-' ∧ (hexValue c).isNone) with
  | some (c, i) => .char c (i + offset)
  | none =>
    let hyphens := (indexed.filter (·.1 = '-')).map (·.2)
    if hyphens.isEmpty ∧ simple then .length size
    else if hyphens.length ≠ 4 then .groupCount (hyphens.length + 1)
    else
      let starts := [0, 9, 14, 19, 24]
      let bad := (List.range 4).find? fun g => hyphens[g]? ≠ some (starts.getD (g + 1) 0 - 1)
      match bad with
      | some g => .groupLength g (hyphens.getD g 0 - starts.getD g 0)
      | none => .groupLength 4 (size - 24)

/-- The explanation of a refused text of none of the four forms' lengths: too long, or
explained after stripping braces or the prefix, offsets counted in the whole text. -/
def explain (s : String) : UuidError :=
  let cs := s.toList
  let size := s.utf8ByteSize
  if size > 45 then .length size
  else if cs.head? = some '{' ∧ cs.getLast? = some '}' ∧ cs.length ≥ 2 then
    explainBody ((cs.drop 1).dropLast) 1 false size
  else if hasUrnPrefix cs then explainBody (cs.drop 9) 9 false size
  else explainBody cs 0 true size

/-- Reads an identifier.  A text of a form's length with the form's frame is read by what
is inside the frame; when that is refused, it is explained as it stands, as the form it was
taken for, with no frame stripped. -/
def parse (s : String) : Except UuidError Uuid :=
  let cs := s.toList
  let size := s.utf8ByteSize
  let inner : Option (List Char) :=
    if size = 32 ∨ size = 36 then some cs
    else if size = 38 ∧ cs.head? = some '{' ∧ cs.getLast? = some '}' then some ((cs.drop 1).dropLast)
    else if size = 45 ∧ hasUrnPrefix cs then some (cs.drop 9)
    else none
  match inner with
  | none => .error (explain s)
  | some body =>
    let found := if size = 32 then ofSimple body else ofHyphenated body
    match found with
    | some u => .ok u
    | none => .error (explainBody body 0 (size = 32) (String.ofList body).utf8ByteSize)

/-- The two lowercase hex digits of a byte. -/
def hexByte (b : Nat) : String :=
  let d (n : Nat) : Char := if n < 10 then Char.ofNat (48 + n) else Char.ofNat (87 + n)
  String.ofList [d (b / 16 % 16), d (b % 16)]

/-- The hyphenated lowercase text. -/
def render (u : Uuid) : String :=
  let hex := u.bytes.map hexByte
  let group (a n : Nat) : String := String.join ((hex.drop a).take n)
  group 0 4 ++ "-" ++ group 4 2 ++ "-" ++ group 6 2 ++ "-" ++ group 8 2 ++ "-" ++ group 10 6

end Uuid

end Tether
