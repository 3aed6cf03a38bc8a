import Tether.Json.Read
import Tether.Text.Printable
/-!
# Json.Decode — typed values from located nodes

A `Decoder α` turns a `Node` into an `α` or a `DecodeError`.  The node comes from one of
three origins, and the origin decides two things: whether an error carries a line and
column, and how a few shapes are refused.

* `text`: read from JSON text.  A decoder for a scalar reports its error at the end of the
  scalar, one for a container at its opening bracket; an error that rises out of a record
  without a position is placed where reading stands when the record gives up (after the
  closing brace, or after the key or value at fault).
* `value`: an in-memory value; objects are sorted and have one member per key.
* `buffer`: members collected while the tag of a tagged variant was looked for; they keep
  the order and repetitions of the text, and errors carry no position.

The texts of the errors are those of the format: `invalid type: integer `5`, expected a
string`, `missing field `x``, `duplicate field `x``, `unknown variant `v`, expected one of
…`, `invalid length 0, expected …`.
-/

namespace Tether.Json

set_option autoImplicit false

/-- Where the nodes being decoded came from. -/
inductive Origin where
  | text
  | value
  | buffer
  deriving DecidableEq, Repr

/-- The origin of the nodes, and the text they were read from. -/
structure Source where
  origin : Origin
  text : Text

/-- A source for values that were not read from text. -/
def Source.ofValues : Source := ⟨.value, ⟨ByteArray.empty⟩⟩

/-- An error of decoding, at a line and column of the text when it has one. -/
structure DecodeError where
  message : String
  position : Option (Nat × Nat) := none
  /-- The members and items, outermost first, inside which the error arose. -/
  path : List String := []
  /-- The text itself is malformed, rather than a well-formed value of the wrong shape. -/
  malformed : Bool := false
  deriving Inhabited

/-- The text of an error, with ` at line L column C` when it has a position. -/
def DecodeError.render (e : DecodeError) : String :=
  match e.position with
  | some (l, c) => e.message ++ " at line " ++ toString l ++ " column " ++ toString c
  | none => e.message

/-- Decodes nodes of a source. -/
abbrev Decoder (α : Type) := Source → Node → Except DecodeError α

/-! ## What was found instead -/

/-- The value found where another was expected, as error texts name it. -/
inductive Unexpected where
  | bool (b : Bool)
  | unsigned (n : Nat)
  | signed (n : Int)
  | float (f : Float)
  | str (s : String)
  | unit
  | seq
  | map

/-- The lowercase hex digits of `n`. -/
def hexText (n : Nat) : String := String.ofList (Nat.toDigits 16 n)

/-- The escape of a character inside a quoted message string: the usual backslash escapes,
the character itself when it shows as itself, else its code point in hex. -/
def messageEscape (c : Char) : String :=
  if c = '\x00' then "\\0"
  else if c = '\t' then "\\t"
  else if c = '\r' then "\\r"
  else if c = '\n' then "\\n"
  else if c = '\\' then "\\\\"
  else if c = '"' then "\\\""
  else if Text.showsAsItself c then String.singleton c
  else "\\u" ++ String.singleton (Char.ofNat 123) ++ hexText c.toNat ++ String.singleton (Char.ofNat 125)

/-- A string quoted for a message. -/
def messageQuote (s : String) : String :=
  "\"" ++ String.join (s.toList.map messageEscape) ++ "\""

/-- How an unexpected value is named. -/
def Unexpected.describe : Unexpected → String
  | .bool b => "boolean `" ++ toString b ++ "`"
  | .unsigned n => "integer `" ++ toString n ++ "`"
  | .signed n => "integer `" ++ toString n ++ "`"
  | .float f => "floating point `" ++ FloatStyle.message.render f ++ "`"
  | .str s => "string " ++ messageQuote s
  | .unit => "null"
  | .seq => "sequence"
  | .map => "map"

/-- What a well-formed node is, as an error names it. -/
def Node.unexpected : Node → Unexpected
  | .null _ _ => .unit
  | .bool b _ _ => .bool b
  | .num (.nat n) _ _ => .unsigned n
  | .num (.neg n) _ _ => .signed n
  | .num (.float f) _ _ => .float f
  | .str s _ _ => .str s
  | .arr .. => .seq
  | .obj .. => .map
  | .broken .. => .unit

namespace DecodeError

/-- A value of the wrong kind. -/
def invalidType (u : Unexpected) (expected : String) : DecodeError :=
  { message := "invalid type: " ++ u.describe ++ ", expected " ++ expected }

/-- A value of the right kind that is out of bounds. -/
def invalidValue (u : Unexpected) (expected : String) : DecodeError :=
  { message := "invalid value: " ++ u.describe ++ ", expected " ++ expected }

/-- A sequence of the wrong length. -/
def invalidLength (n : Nat) (expected : String) : DecodeError :=
  { message := "invalid length " ++ toString n ++ ", expected " ++ expected }

/-- A required member that is absent. -/
def missingField (name : String) : DecodeError :=
  { message := "missing field `" ++ name ++ "`" }

/-- A member given twice. -/
def duplicateField (name : String) : DecodeError :=
  { message := "duplicate field `" ++ name ++ "`" }

/-- The list of names an error offers: `a`, `a` or `b`, or one of `a`, `b`, `c`. -/
def oneOf (names : List String) : String :=
  match names with
  | [a] => "`" ++ a ++ "`"
  | [a, b] => "`" ++ a ++ "` or `" ++ b ++ "`"
  | _ => "one of " ++ ", ".intercalate (names.map fun n => "`" ++ n ++ "`")

/-- A tag that names no variant. -/
def unknownVariant (v : String) (names : List String) : DecodeError :=
  if names.isEmpty then { message := "unknown variant `" ++ v ++ "`, there are no variants" }
  else { message := "unknown variant `" ++ v ++ "`, expected " ++ oneOf names }

/-- An error of the value's own rules. -/
def custom (msg : String) : DecodeError := { message := msg }

/-- The error as it arose inside a member or an item. -/
def within (e : DecodeError) (step : String) : DecodeError := { e with path := step :: e.path }

/-- The error as it is seen from outside a buffer of collected members: the members and
items it arose in are not known there. -/
def unplaced (e : DecodeError) : DecodeError := { e with path := [] }

/-- The path of an error as text: members joined by `.`, items as `[i]` right after what
holds them. -/
def pathText (e : DecodeError) : String :=
  e.path.foldl (fun acc step =>
    if step.startsWith "[" || acc.isEmpty then acc ++ step else acc ++ "." ++ step) ""

/-- The text of an error with the path it arose in, if it has one. -/
def renderWithPath (e : DecodeError) : String :=
  if e.path.isEmpty then e.render else e.pathText ++ ": " ++ e.render

end DecodeError

/-! ## Positions -/

namespace Source

/-- An error placed at an offset of the text, unless it has a place already or the source
is not text. -/
def fix (src : Source) (e : DecodeError) (offset : Nat) : DecodeError :=
  if src.origin = .text ∧ e.position.isNone then
    { e with position := some (lineColumn src.text.bytes offset) }
  else e

/-- A syntax error of the text. -/
def readError (src : Source) (e : SyntaxError) : DecodeError :=
  { message := e.code.message, position := some (lineColumn src.text.bytes e.offset),
    malformed := true }

/-- Where an error about a whole node is placed: after a scalar, at a bracket. -/
def leafOffset : Node → Nat
  | .null _ stop | .bool _ _ stop | .num _ _ stop | .str _ _ stop => stop
  | n => n.start

/-- An error about a node, placed there. -/
def atNode (src : Source) (n : Node) (e : DecodeError) : DecodeError := src.fix e (leafOffset n)

/-- A node that is not of the expected kind.  A node that failed to read reports its syntax
error, unless it opens a container, which is refused by kind first. -/
def mismatch {α : Type} (src : Source) (n : Node) (expected : String) : Except DecodeError α :=
  match n with
  | .broken start e _ =>
    if src.text.isAt start '[' then .error (src.fix (.invalidType .seq expected) start)
    else if src.text.isAt start '{' then .error (src.fix (.invalidType .map expected) start)
    else .error (src.readError e)
  | _ => .error (src.atNode n (.invalidType n.unexpected expected))

/-- Where reading stands after giving up on a record at `i`: after blanks and a closing
brace. -/
def afterRecord (src : Source) (i : Nat) : Nat :=
  let j := src.text.skipBlank i
  if src.text.isAt j '}' then j + 1 else j

/-- Where reading stands after giving up on a sequence at `i`: after blanks and a closing
bracket, or after a comma and the blanks that follow it. -/
def afterSequence (src : Source) (i : Nat) : Nat :=
  let j := src.text.skipBlank i
  if src.text.isAt j ']' then j + 1
  else if src.text.isAt j ',' then src.text.skipBlank (j + 1)
  else j

/-- The check that a sequence ends at `i` once a record has taken what it needs. -/
def endSequence (src : Source) (i : Nat) : Except DecodeError Unit :=
  let t := src.text
  let j := t.skipBlank i
  match t.get? j with
  | some 93 => .ok ()
  | some 44 =>
    let k := t.skipBlank (j + 1)
    if t.isAt k ']' then .error (src.readError (t.peekErr .trailingComma k))
    else .error (src.readError (t.peekErr .trailingCharacters k))
  | some _ => .error (src.readError (t.peekErr .expectedListCommaOrEnd j))
  | none => .error (src.readError (t.peekErr .eofInList j))

/-- A member value being skipped: in text its form must hold. -/
def skipNode (src : Source) (n : Node) : Except DecodeError Unit :=
  if src.origin = .text then
    match n.skip src.text with
    | .ok _ => .ok ()
    | .error e => .error (src.readError e)
  else .ok ()

/-- Where reading stands after a node that was read whole. -/
def endOf (n : Node) : Nat := n.resumeAt.getD n.start

end Source

/-! ## Scalars -/

/-- Any value, with its first syntax error placed in the text. -/
def decodeJson : Decoder Json := fun src n =>
  match n.toJson with
  | .ok j => .ok j
  | .error e => .error (src.readError e)

/-- A string. -/
def decodeString : Decoder String := fun src n =>
  match n with
  | .str s _ _ => .ok s
  | _ => src.mismatch n "a string"

/-- A boolean. -/
def decodeBool : Decoder Bool := fun src n =>
  match n with
  | .bool b _ _ => .ok b
  | _ => src.mismatch n "a boolean"

/-- An unsigned integer up to `limit`, named `name` in errors. -/
def decodeUnsigned (limit : Nat) (name : String) : Decoder Nat := fun src n =>
  match n with
  | .num (.nat v) _ _ => if v ≤ limit then .ok v else .error (src.atNode n (.invalidValue (.unsigned v) name))
  | .num (.neg v) _ _ => .error (src.atNode n (.invalidValue (.signed v) name))
  | _ => src.mismatch n name

/-- A 64-bit unsigned integer. -/
def decodeU64 : Decoder Nat := decodeUnsigned (Nat.pow 2 64 - 1) "u64"

/-- A 32-bit unsigned integer. -/
def decodeU32 : Decoder Nat := decodeUnsigned (Nat.pow 2 32 - 1) "u32"

/-- A 16-bit unsigned integer. -/
def decodeU16 : Decoder Nat := decodeUnsigned (Nat.pow 2 16 - 1) "u16"

/-- A machine-word unsigned integer. -/
def decodeUsize : Decoder Nat := decodeUnsigned (Nat.pow 2 64 - 1) "usize"

/-- A 64-bit signed integer. -/
def decodeI64 : Decoder Int := fun src n =>
  match n with
  | .num (.nat v) _ _ =>
    if v < Nat.pow 2 63 then .ok v else .error (src.atNode n (.invalidValue (.unsigned v) "i64"))
  | .num (.neg v) _ _ => .ok v
  | _ => src.mismatch n "i64"

/-- A double; integers are taken as doubles. -/
def decodeF64 : Decoder Float := fun src n =>
  match n with
  | .num v _ _ => .ok v.toFloat
  | _ => src.mismatch n "f64"

/-- An optional value: `null` is absent. -/
def decodeOption {α : Type} (d : Decoder α) : Decoder (Option α) := fun src n =>
  match n with
  | .null _ _ => .ok none
  | _ => (d src n).map some

/-- A string checked by a rule of its own; the rule's error is placed after the string. -/
def decodeParsed {α : Type} (expected : String) (parse : String → Except String α) :
    Decoder α := fun src n =>
  match n with
  | .str s _ _ =>
    match parse s with
    | .ok a => .ok a
    | .error msg => .error (src.atNode n (.custom msg))
  | _ => src.mismatch n expected

/-- The items of a sequence, each decoded. -/
def decodeList {α : Type} (d : Decoder α) : Decoder (List α) := fun src n =>
  match n with
  | .arr items _ close _ => do
    let out ← go src items []
    match close.error? with
    | some e => throw (src.readError e)
    | none => pure out
  | _ => src.mismatch n "a sequence"
where
  go (src : Source) : List Node → List α → Except DecodeError (List α)
    | [], acc => .ok acc.reverse
    | m :: rest, acc =>
      match d src m with
      | .ok a => go src rest (a :: acc)
      | .error e => .error ((src.fix e (src.afterSequence (Source.endOf m))).within
          ("[" ++ toString acc.length ++ "]"))

/-! ## Records -/

/-- What a record does when a field is absent. -/
inductive Absent (α : Type) where
  /-- Absence is an error. -/
  | required
  /-- Absent from an object, the field takes this value; absent from a sequence, it is an
  error. -/
  | optional (a : α)
  /-- Absent from either, the field takes this value. -/
  | default (a : α)

/-- A field as the member loop sees it. -/
structure FieldInfo where
  name : String
  check : Decoder Unit
  /-- Whether a sequence too short to hold the field is an error. -/
  neededInSequence : Bool

/-- A record: its fields in order, and how the value is built once the members are known.
`build` looks a field's node up by name and reports an absent required field with the error
it is given. -/
structure Record (α : Type) where
  fields : List FieldInfo
  build : Source → (String → Option Node) → (String → DecodeError) → Except DecodeError α

namespace Record

/-- A record of one field. -/
def field {α : Type} (name : String) (d : Decoder α) (absent : Absent α) : Record α where
  fields := [{ name, check := fun src n => (d src n).map fun _ => ()
               neededInSequence := match absent with | .default _ => false | _ => true }]
  build src look missing :=
    match look name with
    | some n => d src n
    | none => match absent with
      | .required => .error (missing name)
      | .optional a => .ok a
      | .default a => .ok a

instance : Functor Record where
  map f r := { fields := r.fields, build := fun src look missing => (r.build src look missing).map f }

instance : Applicative Record where
  pure a := { fields := [], build := fun _ _ _ => .ok a }
  seq rf ra :=
    let r := ra ()
    { fields := rf.fields ++ r.fields
      build := fun src look missing => do
        let f ← rf.build src look missing
        let a ← r.build src look missing
        pure (f a) }

/-- How many fields a record has, in words. -/
def withCount (expecting : String) (n : Nat) : String :=
  expecting ++ " with " ++ toString n ++ (if n = 1 then " element" else " elements")

/-- The nodes of the fields first given among `members`, checked in the order of the text:
a known member is decoded when it comes, a second one of a name is an error, an unknown one
is skipped.  Returns the offset where reading stands after the closing brace. -/
def scanMembers {α : Type} (r : Record α) (src : Source) :
    List (String × Nat × Node) → List (String × Node) → Close →
    Except DecodeError (List (String × Node) × Nat)
  | [], seen, close =>
    match close with
    | .closed stop => .ok (seen, stop)
    | .failed e => .error (src.readError e)
    | .colon key keyEnd e =>
      if (r.fields.any (·.name == key)) ∧ (seen.any (·.1 == key)) then
        .error (src.fix (.duplicateField key) (src.afterRecord keyEnd))
      else .error (src.readError e)
    | .cut => .error (.custom "incomplete record")
  | (key, keyEnd, value) :: rest, seen, close =>
    match r.fields.find? (·.name == key) with
    | some f =>
      if seen.any (·.1 == key) then .error (src.fix (.duplicateField key) (src.afterRecord keyEnd))
      else match f.check src value with
        | .error e => .error ((src.fix e (src.afterRecord (Source.endOf value))).within key)
        | .ok () => scanMembers r src rest ((key, value) :: seen) close
    | none =>
      match src.skipNode value with
      | .error e => .error (e.within key)
      | .ok () => scanMembers r src rest seen close

/-- The nodes of the fields of a record given as a sequence, in field order; `missing`
is the error for a sequence too short.  Returns the fields given, the number of items taken,
and where reading stands. -/
def scanItems (src : Source) (missing : Nat → DecodeError) :
    List FieldInfo → Nat → List Node → Close → Nat → List (String × Node) →
    Except DecodeError (List (String × Node) × Nat × Nat)
  | [], taken, _, _, cursor, acc => .ok (acc, taken, cursor)
  | f :: fs, taken, items, close, cursor, acc =>
    match items with
    | item :: rest =>
      match f.check src item with
      | .error e => .error ((src.fix e (src.afterSequence (Source.endOf item))).within
          ("[" ++ toString taken ++ "]"))
      | .ok () => scanItems src missing fs (taken + 1) rest close (Source.endOf item)
          ((f.name, item) :: acc)
    | [] =>
      match close with
      | .failed e => .error (src.readError e)
      | _ =>
        if f.neededInSequence then .error (src.fix (missing taken) (src.afterSequence cursor))
        else scanItems src missing fs taken [] close cursor acc

/-- Decodes the fields of a record from the items of a sequence opened at `start`. -/
def decodeItems {α : Type} (r : Record α) (missing : Nat → DecodeError) (src : Source)
    (items : List Node) (start : Nat) (close : Close) : Except DecodeError α := do
  let (given, taken, cursor) ← scanItems src missing r.fields 0 items close (start + 1) []
  let extra := items.length - taken
  match src.origin with
  | .text => src.endSequence cursor
  | .value =>
    if extra > 0 then throw (.invalidLength items.length "fewer elements in array")
  | .buffer =>
    if extra > 0 then
      throw (.invalidLength items.length
        (if taken = 1 then "1 element in sequence" else toString taken ++ " elements in sequence"))
  r.build src (fun k => given.lookup k) (fun k => .missingField k)

/-- Decodes a record from an object (by member names) or a sequence (by position);
`expecting` names the record in errors, as in `struct Point`. -/
def decode {α : Type} (r : Record α) (expecting : String) : Decoder α := fun src n =>
  match n with
  | .obj members _ close _ => do
    let (seen, stop) ← r.scanMembers src members [] close
    r.build src (fun k => seen.lookup k) (fun k => src.fix (.missingField k) stop)
  | .arr items start close _ =>
    r.decodeItems (fun k => .invalidLength k (withCount expecting r.fields.length)) src items start close
  | _ => src.mismatch n expecting

/-- Decodes a tuple, whose fields are the items of a sequence. -/
def decodeTuple {α : Type} (r : Record α) (expecting : String) : Decoder α := fun src n =>
  match n with
  | .arr items start close _ => r.decodeItems (fun k => .invalidLength k expecting) src items start close
  | _ => src.mismatch n expecting

/-- The members of an object split as a record with a rest sees them, in the order of the
text: a member the record names is decoded when it comes (a second one of a name is an
error); every other member must read whole and is kept for the rest.  Returns the record's
nodes, the kept members, and the offset after the closing brace. -/
def scanSpread {α : Type} (r : Record α) (src : Source) :
    List (String × Nat × Node) → List (String × Node) → List (String × Nat × Node) → Close →
    Except DecodeError (List (String × Node) × List (String × Nat × Node) × Nat)
  | [], seen, kept, close =>
    match close with
    | .closed stop => .ok (seen, kept.reverse, stop)
    | .failed e => .error (src.readError e)
    | .colon key keyEnd e =>
      if (r.fields.any (·.name == key)) ∧ (seen.any (·.1 == key)) then
        .error (src.fix (.duplicateField key) (src.afterRecord keyEnd))
      else .error (src.readError e)
    | .cut => .error (.custom "incomplete record")
  | (key, keyEnd, value) :: rest, seen, kept, close =>
    match r.fields.find? (·.name == key) with
    | some f =>
      if seen.any (·.1 == key) then .error (src.fix (.duplicateField key) (src.afterRecord keyEnd))
      else match f.check src value with
        | .error e => .error ((src.fix e (src.afterRecord (Source.endOf value))).within key)
        | .ok () => scanSpread r src rest ((key, value) :: seen) kept close
    | none =>
      match value.toJson with
      | .ok _ => scanSpread r src rest seen ((key, keyEnd, value) :: kept) close
      | .error e => .error ((src.readError e).within key)

/-- Decodes an object as a record whose members the record does not name are handed, in
the order of the text and with repeats, to `rest`; `rest` reads them as a buffer once the
whole object is read, so its errors are placed after the closing brace.  Anything but an
object is refused. -/
def decodeWithRest {α β γ : Type} (r : Record α) (rest : Decoder β) (expecting : String)
    (combine : β → α → γ) : Decoder γ := fun src n =>
  match n with
  | .obj members start close _ => do
    let (seen, kept, stop) ← r.scanSpread src members [] [] close
    let b ← (rest { src with origin := .buffer } (.obj kept start (.closed 0) none)).mapError
      fun e => (src.fix e stop).unplaced
    let a ← r.build src (fun k => seen.lookup k) (fun k => src.fix (.missingField k) stop)
    pure (combine b a)
  | _ => src.mismatch n expecting

end Record

/-! ## Tagged variants -/

/-- The index of the variant a tag names.  Collected members may also give the index as a
number. -/
def decodeVariantIndex (names : List String) : Decoder Nat := fun src n =>
  match n with
  | .str s _ _ =>
    match names.idxOf? s with
    | some i => .ok i
    | none => .error (src.atNode n (.unknownVariant s names))
  | .num (.nat i) _ _ =>
    if src.origin = .buffer then
      if i < names.length then .ok i
      else .error (.invalidValue (.unsigned i)
        ("variant index 0 <= i < " ++ toString names.length))
    else src.mismatch n "variant identifier"
  | _ => src.mismatch n "variant identifier"

/-- A variant of a tagged union: its tag and how the rest of the members decode. -/
structure Variant (α : Type) where
  tag : String
  decode : Decoder α

/-- A variant without fields; whatever else the object holds is ignored. -/
def Variant.unit {α : Type} (tag : String) (a : α) : Variant α where
  tag := tag
  decode := fun _ n =>
    match n with
    | .arr items _ _ _ =>
      if items.isEmpty then .ok a else .error (.invalidLength items.length "0 elements in sequence")
    | _ => .ok a

/-- A variant whose fields form a record. -/
def Variant.record {α : Type} (tag : String) (expecting : String) (r : Record α) : Variant α where
  tag := tag
  decode := r.decode expecting

/-- Whether a node was read whole. -/
def Node.complete (n : Node) : Bool :=
  match n.toJson with
  | .ok _ => true
  | .error _ => false

/-- Decodes a union whose variant is named by the member `tag`: first the object is read
through, the tag decoded where it stands and every other member kept; then the kept members
are decoded, as a buffer, by the variant.  A sequence gives the tag as its first item. -/
def decodeTagged {α : Type} (name : String) (tag : String) (variants : List (Variant α)) :
    Decoder α := fun src n =>
  let names := variants.map (·.tag)
  let expecting := "internally tagged enum " ++ name
  let buffered : Source := { src with origin := .buffer }
  let pick (i : Nat) (rest : Node) : Except DecodeError α :=
    match variants[i]? with
    | some v => (v.decode buffered rest).mapError DecodeError.unplaced
    | none => .error (.custom "no such variant")
  match n with
  | .obj members start close _ =>
    let rec scan : List (String × Nat × Node) → Option Nat → List (String × Nat × Node) →
        Except DecodeError (Option Nat × List (String × Nat × Node))
      | [], found, kept =>
        match close with
        | .closed _ => .ok (found, kept.reverse)
        | .colon key keyEnd e =>
          if key = tag ∧ found.isSome then
            .error (src.fix (.duplicateField tag) (src.afterRecord keyEnd))
          else .error (src.readError e)
        | .failed e => .error (src.readError e)
        | .cut => .error (.custom "incomplete object")
      | (key, keyEnd, value) :: rest, found, kept =>
        if key = tag then
          if found.isSome then .error (src.fix (.duplicateField tag) (src.afterRecord keyEnd))
          else match decodeVariantIndex names src value with
            | .ok i => scan rest (some i) kept
            | .error e => .error ((src.fix e (src.afterRecord (Source.endOf value))).within tag)
        else match value.toJson with
          | .ok _ => scan rest found ((key, keyEnd, value) :: kept)
          | .error e => .error ((src.readError e).within key)
    match scan members none [] with
    | .error e => .error e
    | .ok (none, _) =>
      let stop := match close with | .closed s => s | _ => start
      .error (src.fix (.missingField tag) stop)
    | .ok (some i, kept) => pick i (.obj kept start (.closed 0) none)
  | .arr items start close _ =>
    match items with
    | [] =>
      match close with
      | .closed s => .error (src.fix (.missingField tag) s)
      | .failed e => .error (src.readError e)
      | _ => .error (.custom "incomplete sequence")
    | first :: rest =>
      match decodeVariantIndex names src first with
      | .error e => .error ((src.fix e (src.afterSequence (Source.endOf first))).within "[0]")
      | .ok i =>
        match (rest.zipIdx 1).find? (fun (m, _) => !m.complete) with
        | some (bad, k) =>
          (decodeJson src bad).bind (fun _ => .error (.custom "incomplete item")) |>.mapError
            fun e => e.within ("[" ++ toString k ++ "]")
        | none =>
          match close.error? with
          | some e => .error (src.readError e)
          | none => pick i (.arr rest start (.closed 0) none)
  | _ => src.mismatch n expecting

/-! ## Documents -/

/-- Decodes the value at the start of a text; what follows the value is not read. -/
def decodeLeading {α : Type} (d : Decoder α) (s : String) : Except DecodeError α :=
  let doc := Document.read s
  d ⟨.text, doc.text⟩ doc.root

/-- Decodes a whole text: the value, then nothing but blanks after it. -/
def decodeText {α : Type} (d : Decoder α) (s : String) : Except DecodeError α := do
  let doc := Document.read s
  let src : Source := ⟨.text, doc.text⟩
  let a ← d src doc.root
  match doc.trailing with
  | some e => throw (src.readError e)
  | none => pure a

mutual
/-- The node of an in-memory value. -/
def Node.ofJson : Json → Node
  | .null => .null 0 0
  | .bool b => .bool b 0 0
  | .num n => .num n 0 0
  | .str s => .str s 0 0
  | .arr items => .arr (Node.ofJsonItems items) 0 (.closed 0) none
  | .obj fs => .obj (Node.ofJsonFields fs) 0 (.closed 0) none

/-- `Node.ofJson` on items. -/
def Node.ofJsonItems : List Json → List Node
  | [] => []
  | j :: rest => Node.ofJson j :: Node.ofJsonItems rest

/-- `Node.ofJson` on members. -/
def Node.ofJsonFields : List (String × Json) → List (String × Nat × Node)
  | [] => []
  | (k, j) :: rest => (k, 0, Node.ofJson j) :: Node.ofJsonFields rest
end

/-- Decodes an in-memory value. -/
def decodeValue {α : Type} (d : Decoder α) (j : Json) : Except DecodeError α :=
  d Source.ofValues (Node.ofJson j)

end Tether.Json
