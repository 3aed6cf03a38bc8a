import Tether.Json.Number
/-!
# Json.Value — JSON values with sorted objects

`Json` is a JSON document held in memory.  As a value, the members of an object are kept
sorted by key (code point order, which is the byte order of UTF-8), with one member per key:
building an object with `Json.object` inserts the members one by one, a later member
replacing an earlier one of the same key.  Payloads of commands and telemetry are such
values, so "the first unknown key" of a payload is the least one.

A record is written with its fields in declaration order instead; its *written form* is an
`obj` whose members stand in that order, and is used only to be printed.
-/

namespace Tether

open Tether.Json

set_option autoImplicit false

/-- A JSON value. -/
inductive Json where
  | null
  | bool (b : Bool)
  | num (n : Number)
  | str (s : String)
  | arr (items : List Json)
  /-- Members sorted by key, one per key; in a written form, in declaration order. -/
  | obj (fields : List (String × Json))
  deriving Inhabited

namespace Json

/-- Puts a member into a sorted member list, replacing the member of the same key. -/
def insertField (k : String) (v : Json) : List (String × Json) → List (String × Json)
  | [] => [(k, v)]
  | (k', v') :: rest =>
    if k < k' then (k, v) :: (k', v') :: rest
    else if k = k' then (k, v) :: rest
    else (k', v') :: insertField k v rest

/-- The object of these members; a later member of a key replaces an earlier one. -/
def object (kvs : List (String × Json)) : Json :=
  .obj (kvs.foldl (fun acc kv => insertField kv.1 kv.2 acc) [])

/-- The value of a member of an object. -/
def get? : Json → String → Option Json
  | .obj fs, k => fs.lookup k
  | _, _ => none

/-- A natural number as a JSON integer. -/
def ofNat (n : Nat) : Json := .num (.nat n)

/-- An integer as a JSON integer. -/
def ofInt (n : Int) : Json := if n < 0 then .num (.neg n) else .num (.nat n.toNat)

/-- A double as a JSON number. -/
def ofFloat (f : Float) : Json := .num (.float f)

/-- A string, or `null`. -/
def ofOption {α : Type} (f : α → Json) : Option α → Json
  | some a => f a
  | none => .null

/-- The word for the kind of a value. -/
def kindName : Json → String
  | .null => "null"
  | .bool _ => "bool"
  | .num _ => "number"
  | .str _ => "string"
  | .arr _ => "array"
  | .obj _ => "object"

/-- Whether a value is `null`. -/
def isNull : Json → Bool
  | .null => true
  | _ => false

/-- The string inside a string value. -/
def getStr? : Json → Option String
  | .str s => some s
  | _ => none

/-- The boolean inside a boolean value. -/
def getBool? : Json → Option Bool
  | .bool b => some b
  | _ => none

mutual
/-- Removes every member whose key is in `keys`, at every depth. -/
def eraseKeys (keys : List String) : Json → Json
  | .arr items => .arr (eraseKeysItems keys items)
  | .obj fs => .obj (eraseKeysFields keys fs)
  | j => j

/-- `eraseKeys` on the items of an array. -/
def eraseKeysItems (keys : List String) : List Json → List Json
  | [] => []
  | j :: rest => eraseKeys keys j :: eraseKeysItems keys rest

/-- `eraseKeys` on the members of an object. -/
def eraseKeysFields (keys : List String) : List (String × Json) → List (String × Json)
  | [] => []
  | (k, v) :: rest =>
    if keys.contains k then eraseKeysFields keys rest
    else (k, eraseKeys keys v) :: eraseKeysFields keys rest
end

mutual
/-- Equality of values, numbers compared by kind and value (doubles by `==`). -/
def beq : Json → Json → Bool
  | .null, .null => true
  | .bool a, .bool b => a == b
  | .num (.nat a), .num (.nat b) => a == b
  | .num (.neg a), .num (.neg b) => a == b
  | .num (.float a), .num (.float b) => a == b
  | .str a, .str b => a == b
  | .arr a, .arr b => beqItems a b
  | .obj a, .obj b => beqFields a b
  | _, _ => false

/-- `beq` on lists of items. -/
def beqItems : List Json → List Json → Bool
  | [], [] => true
  | a :: as, b :: bs => beq a b && beqItems as bs
  | _, _ => false

/-- `beq` on lists of members. -/
def beqFields : List (String × Json) → List (String × Json) → Bool
  | [], [] => true
  | (k, a) :: as, (l, b) :: bs => k == l && beq a b && beqFields as bs
  | _, _ => false
end

instance : BEq Json := ⟨beq⟩

end Json

end Tether
