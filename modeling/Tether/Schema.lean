import Tether.Model
/-!
# Schema — command payload schemas and their registry

A `CommandSchema` lists the fields a command payload may have, each with a kind, whether it
is required, and optional bounds: byte-length bounds for strings and value bounds for
integers.  `CommandSchema.validate` returns the first violation in this order:

1. a payload that is neither an object nor `null` (`null` reads as the empty object);
2. for each field in schema order: absent or `null` while required; of the wrong kind; a
   string whose byte length is out of bounds; an integer value (signed or unsigned, compared
   exactly) out of bounds;
3. unless unknown fields are allowed, the least key that no field names.

A `SchemaRegistry` keeps one schema per exact command topic, in topic order; validating a
topic without a schema is a violation too.
-/

namespace Tether

open Tether.Json

set_option autoImplicit false

/-- The JSON kind a payload field must have. -/
inductive FieldKind where
  | string
  | bool
  | integer
  | number
  | object
  | array
  | any
  deriving DecidableEq, Repr, Inhabited

namespace FieldKind

/-- All kinds, in the order of their tags. -/
def all : List FieldKind := [.string, .bool, .integer, .number, .object, .array, .any]

/-- The tag of a kind. -/
def tag : FieldKind → String
  | .string => "string"
  | .bool => "bool"
  | .integer => "integer"
  | .number => "number"
  | .object => "object"
  | .array => "array"
  | .any => "any"

/-- The name of a kind in violation messages. -/
def title : FieldKind → String
  | .string => "String"
  | .bool => "Bool"
  | .integer => "Integer"
  | .number => "Number"
  | .object => "Object"
  | .array => "Array"
  | .any => "Any"

/-- Whether a value has the kind; an integer is a number without fraction or exponent. -/
def accepts : FieldKind → Json → Bool
  | .string, .str _ => true
  | .bool, .bool _ => true
  | .integer, .num (.nat _) | .integer, .num (.neg _) => true
  | .number, .num _ => true
  | .object, .obj _ => true
  | .array, .arr _ => true
  | .any, _ => true
  | _, _ => false

/-- Reads a kind from its tag: a string, or an object whose one member names the kind and
holds `null`. -/
def decode : Decoder FieldKind := fun src n =>
  let names := all.map tag
  let byName (s : String) (at? : Node) : Except DecodeError FieldKind :=
    match names.idxOf? s with
    | some i => .ok (all.getD i .any)
    | none => .error (src.atNode at? (.unknownVariant s names))
  match n with
  | .str s _ _ => byName s n
  | .obj [(k, _, v)] _ (.closed _) _ => do
    let kind ← byName k n
    match v with
    | .null _ _ => pure kind
    | _ => throw (src.atNode v (.invalidType v.unexpected "unit"))
  | .obj _ _ (.closed _) _ => .error (src.atNode n (.invalidValue .map "map with a single key"))
  | _ => src.mismatch n "string or map"

end FieldKind

/-- One field of a payload schema. -/
structure FieldSpec where
  name : String
  kind : FieldKind
  required : Bool
  /-- Inclusive byte-length bounds, for strings. -/
  len : Option (Nat × Nat) := none
  /-- Inclusive value bounds, for integers. -/
  range : Option (Int × Int) := none
  deriving DecidableEq, Repr, Inhabited

/-- The schema of the payload of one command topic. -/
structure CommandSchema where
  fields : List FieldSpec := []
  /-- Accept fields that the schema does not list. -/
  allowUnknown : Bool := false
  deriving DecidableEq, Repr, Inhabited

namespace CommandSchema

/-- The schema of a command without arguments. -/
def empty : CommandSchema := {}

/-- Adds a field. -/
def addField (s : CommandSchema) (name : String) (kind : FieldKind) (required : Bool) :
    CommandSchema :=
  { s with fields := s.fields ++ [{ name, kind, required }] }

/-- Adds a required field. -/
def required (s : CommandSchema) (name : String) (kind : FieldKind) : CommandSchema :=
  s.addField name kind true

/-- Adds an optional field. -/
def optional (s : CommandSchema) (name : String) (kind : FieldKind) : CommandSchema :=
  s.addField name kind false

/-- Changes the last field added, if there is one. -/
def mapLast (s : CommandSchema) (f : FieldSpec → FieldSpec) : CommandSchema :=
  match s.fields.getLast? with
  | some last => { s with fields := s.fields.dropLast ++ [f last] }
  | none => s

/-- Bounds the byte length of the last field added. -/
def length (s : CommandSchema) (lo hi : Nat) : CommandSchema :=
  s.mapLast fun f => { f with len := some (lo, hi) }

/-- Bounds the value of the last field added. -/
def range (s : CommandSchema) (lo hi : Int) : CommandSchema :=
  s.mapLast fun f => { f with range := some (lo, hi) }

/-- Accepts fields the schema does not list. -/
def allowingUnknown (s : CommandSchema) : CommandSchema := { s with allowUnknown := true }

/-- The first problem of one present, non-null field value. -/
def checkField (f : FieldSpec) (v : Json) : Option String :=
  if !f.kind.accepts v then
    some ("field '" ++ f.name ++ "' must be " ++ f.kind.title ++ ", got " ++ v.kindName)
  else
    let lenProblem := match f.len, v with
      | some (lo, hi), .str s =>
        let n := s.utf8ByteSize
        if n < lo ∨ n > hi then
          some ("field '" ++ f.name ++ "' length " ++ toString n ++ " outside " ++ toString lo ++
            "..=" ++ toString hi)
        else none
      | _, _ => none
    match lenProblem with
    | some p => some p
    | none =>
      match f.range, v with
      | some (lo, hi), .num n =>
        match n.toInt? with
        | some x =>
          if x < lo ∨ x > hi then
            some ("field '" ++ f.name ++ "' value " ++ toString x ++ " outside " ++ toString lo ++
              "..=" ++ toString hi)
          else none
        | none => none
      | _, _ => none

/-- The first violation of a payload, if any. -/
def violation (s : CommandSchema) (payload : Json) : Option String :=
  let members? : Option (List (String × Json)) := match payload with
    | .obj fs => some fs
    | .null => some []
    | _ => none
  match members? with
  | none => some ("payload must be an object, got " ++ payload.kindName)
  | some members =>
    let fieldProblem := s.fields.findSome? fun f =>
      match members.lookup f.name with
      | none | some .null => if f.required then some ("missing required field '" ++ f.name ++ "'") else none
      | some v => checkField f v
    match fieldProblem with
    | some p => some p
    | none =>
      if s.allowUnknown then none
      else (members.find? fun (k, _) => !s.fields.any (·.name == k)).map
        fun (k, _) => "unknown field '" ++ k ++ "'"

/-- Validates a payload: the first violation, as its reason. -/
def validate (s : CommandSchema) (payload : Json) : Except String Unit :=
  match s.violation payload with
  | some reason => .error reason
  | none => .ok ()

end CommandSchema

/-! ## JSON forms -/

/-- A pair of numbers as a two-item array. -/
def pairJson {α : Type} (f : α → Json) (p : α × α) : Json := .arr [f p.1, f p.2]

/-- The JSON form of a field. -/
def FieldSpec.toJson (f : FieldSpec) : Json :=
  Json.object ([("name", .str f.name), ("kind", .str f.kind.tag), ("required", .bool f.required)] ++
    (match f.len with | some p => [("len", pairJson Json.ofNat p)] | none => []) ++
    (match f.range with | some p => [("range", pairJson Json.ofInt p)] | none => []))

/-- The JSON form of a schema. -/
def CommandSchema.toJson (s : CommandSchema) : Json :=
  Json.object [("fields", .arr (s.fields.map FieldSpec.toJson)), ("allowUnknown", .bool s.allowUnknown)]

/-- Reads a pair from a two-item sequence. -/
def decodePair {α : Type} (d : Decoder α) : Decoder (α × α) :=
  Record.decodeTuple ((·, ·) <$> .field "0" d .required <*> .field "1" d .required) "a tuple of size 2"

/-- Reads a field. -/
def FieldSpec.decode : Decoder FieldSpec :=
  Record.decode ((fun name kind required len range => ({ name, kind, required, len, range } : FieldSpec))
    <$> .field "name" decodeString .required
    <*> .field "kind" FieldKind.decode .required
    <*> .field "required" decodeBool .required
    <*> .field "len" (decodeOption (decodePair decodeUsize)) (.default none)
    <*> .field "range" (decodeOption (decodePair decodeI64)) (.default none)) "struct FieldSpec"

/-- Reads a schema. -/
def CommandSchema.decode : Decoder CommandSchema :=
  Record.decode ((fun fields allowUnknown => ({ fields, allowUnknown } : CommandSchema))
    <$> .field "fields" (decodeList FieldSpec.decode) .required
    <*> .field "allowUnknown" decodeBool (.default false)) "struct CommandSchema"

/-! ## Registry -/

/-- A payload refused for its command topic. -/
structure SchemaViolation where
  topic : String
  reason : String
  deriving DecidableEq, Repr

/-- The text of a violation. -/
def SchemaViolation.message (v : SchemaViolation) : String :=
  "schema violation on '" ++ v.topic ++ "': " ++ v.reason

/-- Schemas by exact command topic, kept in topic order. -/
structure SchemaRegistry where
  entries : List (String × CommandSchema) := []
  deriving Inhabited

namespace SchemaRegistry

/-- Registers or replaces the schema of a topic. -/
def insert (r : SchemaRegistry) (topic : String) (s : CommandSchema) : SchemaRegistry :=
  { entries := go r.entries }
where
  go : List (String × CommandSchema) → List (String × CommandSchema)
    | [] => [(topic, s)]
    | (t, x) :: rest =>
      if topic < t then (topic, s) :: (t, x) :: rest
      else if topic = t then (topic, s) :: rest
      else (t, x) :: go rest

/-- The schema of a topic. -/
def find? (r : SchemaRegistry) (topic : String) : Option CommandSchema := r.entries.lookup topic

/-- Removes the schema of a topic, returning it. -/
def remove (r : SchemaRegistry) (topic : String) : SchemaRegistry × Option CommandSchema :=
  ({ entries := r.entries.filter (·.1 ≠ topic) }, r.find? topic)

/-- Whether a topic has a schema. -/
def contains (r : SchemaRegistry) (topic : String) : Bool := (r.find? topic).isSome

/-- The topics with a schema, in order. -/
def topics (r : SchemaRegistry) : List String := r.entries.map (·.1)

/-- Validates a payload for a topic. -/
def validate (r : SchemaRegistry) (topic : String) (payload : Json) : Except SchemaViolation Unit :=
  match r.find? topic with
  | none => .error { topic, reason := "no schema registered for command topic" }
  | some s =>
    match s.validate payload with
    | .ok () => .ok ()
    | .error reason => .error { topic, reason }

end SchemaRegistry

end Tether
