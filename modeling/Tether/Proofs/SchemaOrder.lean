import Mathlib.Data.String.Basic
import Tether.Proofs.BusRun
import Tether.Proofs.ReservedCommands
/-!
# Proofs.SchemaOrder — a payload is refused for its first violation

`CommandSchema.validate` stops at the first problem it meets.  Here every problem of a
payload is listed in the order the checks run (`CommandSchema.violations`), a list that knows
nothing of stopping early, and the reported problem is shown to be its head
(`validate_eq_firstProblem`):

* a payload that is neither an object nor `null` is refused whole, naming its kind; `null`
  reads as the empty object;
* then, field by field in schema order, an absent or `null` field is missing when it is
  required and passes otherwise; a present value may have, in this order, a kind problem, a
  byte-length problem (a string, when the field bounds its length) and a range problem (an
  integer, when the field bounds its value, compared as exact integers);
* last, unless unknown fields are allowed, the least key that no field names.

Payload objects keep their keys in ascending order, so the first unnamed key the check meets
is the least one (`find?_unnamed_eq_min?`).

The kind `integer` accepts exactly the JSON integers, an unsigned or a negative 64-bit one,
and never a double, whole or not; and since values are compared exactly, an unsigned value
above `2 ^ 63 - 1` lies in no range of signed 64-bit bounds.  A registry validates a topic
against the schema registered for it last, and refuses a topic without one, naming the
topic.  The main statement is `validate_reports_first_violation`.
-/

namespace Tether

open Tether.Json

set_option autoImplicit false

namespace Json

/-- The exact integer a value stands for, when it is a JSON integer. -/
def asInteger? : Json → Option Int
  | .num (.nat n) => some n
  | .num (.neg n) => some n
  | _ => none

/-- The keys of an object stand in strictly ascending order, as in every payload value. -/
def KeysAscending : Json → Prop
  | .obj members => (members.map Prod.fst).Pairwise (· < ·)
  | _ => True

end Json

/-- The kind `integer` accepts exactly the values that are JSON integers. -/
theorem FieldKind.integer_accepts (v : Json) : FieldKind.integer.accepts v = v.asInteger?.isSome := by
  cases v with
  | num n => cases n <;> rfl
  | _ => rfl

/-! ## The reference order -/

namespace FieldSpec

variable (f : FieldSpec) (v : Json)

/-- The value is not of the field's kind. -/
def kindProblem : Option String :=
  if f.kind.accepts v then none
  else some ("field '" ++ f.name ++ "' must be " ++ f.kind.title ++ ", got " ++ v.kindName)

/-- The value is a string whose byte length lies outside the field's length bounds. -/
def lengthProblem : Option String :=
  match f.len, v.getStr? with
  | some (lo, hi), some s =>
    if lo ≤ s.utf8ByteSize ∧ s.utf8ByteSize ≤ hi then none
    else some ("field '" ++ f.name ++ "' length " ++ toString s.utf8ByteSize ++ " outside " ++
      toString lo ++ "..=" ++ toString hi)
  | _, _ => none

/-- The value is an integer lying outside the field's value bounds. -/
def rangeProblem : Option String :=
  match f.range, v.asInteger? with
  | some (lo, hi), some x =>
    if lo ≤ x ∧ x ≤ hi then none
    else some ("field '" ++ f.name ++ "' value " ++ toString x ++ " outside " ++ toString lo ++
      "..=" ++ toString hi)
  | _, _ => none

/-- Every problem of a present, non-null value, in the order the checks run. -/
def problems : List String :=
  (f.kindProblem v).toList ++ (f.lengthProblem v).toList ++ (f.rangeProblem v).toList

/-- Every problem of a field, given what the payload holds under its name; `null` counts as
absent. -/
def violations : Option Json → List String
  | none | some .null => if f.required then ["missing required field '" ++ f.name ++ "'"] else []
  | some v => f.problems v

end FieldSpec

namespace CommandSchema

/-- The keys of the members that no field of the schema names. -/
def unknownKeys (s : CommandSchema) (members : List (String × Json)) : List String :=
  (members.map Prod.fst).filter fun k => !s.fields.any (·.name == k)

/-- Every problem of an object's members in the reference order: each field's, in schema
order, then the least key that no field names, unless unknown fields are allowed. -/
def memberViolations (s : CommandSchema) (members : List (String × Json)) : List String :=
  s.fields.flatMap (fun f => f.violations (members.lookup f.name)) ++
    if s.allowUnknown then []
    else ((s.unknownKeys members).min?.map fun k => "unknown field '" ++ k ++ "'").toList

/-- Every problem of a payload in the reference order.  `null` is the empty object; any other
value that is no object is refused whole. -/
def violations (s : CommandSchema) : Json → List String
  | .obj members => s.memberViolations members
  | .null => s.memberViolations []
  | p => ["payload must be an object, got " ++ p.kindName]

end CommandSchema

/-- The verdict of a list of problems: refused for the first one, accepted without any. -/
def firstProblem : List String → Except String Unit
  | [] => .ok ()
  | p :: _ => .error p

/-! ## The checks of one field -/

namespace FieldSpec

variable (f : FieldSpec) (v : Json)

/-- Inside the bounds, or outside them: the reference order's test and the code's. -/
theorem ite_within_bounds {α β : Type} [LinearOrder β] (lo hi x : β) (a : α) :
    (if lo ≤ x ∧ x ≤ hi then none else some a) = if x < lo ∨ x > hi then some a else none := by
  by_cases h : x < lo ∨ x > hi
  · rw [if_pos h, if_neg]
    rintro ⟨h₁, h₂⟩
    rcases h with h | h
    · exact absurd h₁ (not_le.mpr h)
    · exact absurd h₂ (not_le.mpr h)
  · rw [if_neg h, if_pos]
    simp only [not_or, not_lt, gt_iff_lt] at h
    exact h

/-- The check of a present value reports the first of its problems. -/
theorem checkField_eq_head? : CommandSchema.checkField f v = (f.problems v).head? := by
  have hhead : (f.problems v).head? =
      (f.kindProblem v).or ((f.lengthProblem v).or (f.rangeProblem v)) := by
    simp only [problems, List.head?_append, Option.head?_toList, Option.or_assoc]
  rw [hhead]
  unfold CommandSchema.checkField kindProblem
  by_cases hk : f.kind.accepts v
  · -- past the kind, each check applies or not by the bounds set and the kind of value
    simp only [hk, Bool.not_true, Bool.false_eq_true, if_false, if_true, Option.none_or]
    obtain ⟨name, kind, required, len, range⟩ := f
    rcases len with _ | ⟨lo, hi⟩ <;> rcases range with _ | ⟨lo', hi'⟩ <;>
      rcases v with _ | _ | (n | n | x) | s | _ | _ <;>
      simp only [lengthProblem, rangeProblem, getStr?, asInteger?, Number.toInt?,
        ite_within_bounds, Option.none_or, Option.or_none] <;>
      split_ifs <;> rfl
  · simp [hk]

/-- What the scan of a schema's fields looks for at one field of a payload: absent or `null`
while required, else the problems of its value. -/
def scan (members : List (String × Json)) : Option String :=
  match members.lookup f.name with
  | none | some .null => if f.required then some ("missing required field '" ++ f.name ++ "'") else none
  | some v => CommandSchema.checkField f v

/-- At each field the scan finds the first of the field's problems. -/
theorem scan_eq_head? (members : List (String × Json)) :
    f.scan members = (f.violations (members.lookup f.name)).head? := by
  unfold scan
  rcases members.lookup f.name with _ | v
  · simp only [violations]
    split <;> rfl
  · cases v with
    | null =>
      simp only [violations]
      split <;> rfl
    | _ => exact checkField_eq_head? f _

end FieldSpec

/-! ## The unknown keys -/

/-- In members with ascending keys, the first member that no field names has the least such
key. -/
theorem find?_unnamed_eq_min? (s : CommandSchema) {members : List (String × Json)}
    (hsorted : (members.map Prod.fst).Pairwise (· < ·)) :
    (members.find? fun kv => !s.fields.any (·.name == kv.1)).map Prod.fst =
      (s.unknownKeys members).min? := by
  have hfind : (members.find? fun kv => !s.fields.any (·.name == kv.1)).map Prod.fst =
      (s.unknownKeys members).head? := by
    rw [CommandSchema.unknownKeys, List.head?_filter, List.find?_map]
    rfl
  -- the unnamed keys stay ascending, so their least is their first
  have hmin : (s.unknownKeys members).Pairwise fun a b => min a b = a :=
    (hsorted.filter _).imp fun hab => min_eq_left (le_of_lt hab)
  rw [hfind, List.min?_eq_head? hmin]

/-! ## The whole payload -/

namespace CommandSchema

variable (s : CommandSchema)

theorem violation_null : s.violation .null = s.violation (.obj []) := rfl

theorem violation_obj (members : List (String × Json)) :
    s.violation (.obj members) =
      (s.fields.findSome? fun f => f.scan members).or
        (if s.allowUnknown then none
         else (members.find? fun kv => !s.fields.any (·.name == kv.1)).map
           fun kv => "unknown field '" ++ kv.1 ++ "'") := by
  unfold violation
  dsimp only
  -- the model's own match on the first field problem, read as `Option.or`
  split
  · rename_i p hp
    rw [show (s.fields.findSome? fun f => f.scan members) = some p from hp]
    rfl
  · rename_i hp
    rw [show (s.fields.findSome? fun f => f.scan members) = none from hp]
    rfl

theorem violation_eq_head? {payload : Json} (hsorted : payload.KeysAscending) :
    s.violation payload = (s.violations payload).head? := by
  -- an object, or `null` read as the empty object, is scanned; anything else is refused whole
  have hmembers : ∀ members : List (String × Json), (members.map Prod.fst).Pairwise (· < ·) →
      s.violation (.obj members) = (s.memberViolations members).head? := by
    intro members hs
    rw [violation_obj, memberViolations, List.head?_append, List.head?_flatMap]
    simp only [FieldSpec.scan_eq_head?]
    congr 1
    by_cases hu : s.allowUnknown
    · simp [hu]
    · have hkeys := find?_unnamed_eq_min? s hs
      simp only [hu, Bool.false_eq_true, if_false, Option.head?_toList]
      rw [← hkeys, Option.map_map, Function.comp_def]
  cases payload with
  | obj members => exact hmembers members hsorted
  | null => exact (violation_null s).trans (hmembers [] List.Pairwise.nil)
  | _ => rfl

/-- **Validation reports the first problem of the reference order.** -/
theorem validate_eq_firstProblem {payload : Json} (hsorted : payload.KeysAscending) :
    s.validate payload = firstProblem (s.violations payload) := by
  rw [validate, violation_eq_head? s hsorted]
  cases s.violations payload <;> rfl

end CommandSchema

/-! ## Exact ranges -/

/-- An unsigned value above the largest signed 64-bit value is out of every range whose upper
bound is a signed 64-bit value. -/
theorem FieldSpec.rangeProblem_isSome_of_large (f : FieldSpec) {lo hi : Int} {n : Nat}
    (hr : f.range = some (lo, hi)) (hhi : hi < 2 ^ 63) (hn : 2 ^ 63 ≤ n) :
    (f.rangeProblem (.num (.nat n))).isSome := by
  have hout : ¬(lo ≤ (n : Int) ∧ (n : Int) ≤ hi) := by omega
  simp [rangeProblem, hr, Json.asInteger?, hout]

/-! ## The registry -/

namespace SchemaRegistry

theorem find?_remove (r : SchemaRegistry) (topic t : String) :
    (r.remove topic).1.find? t = if t = topic then none else r.find? t := by
  have hfilter : r.entries.filter (fun x => decide (x.1 ≠ topic)) = r.entries.filter (·.1 != topic) := by
    congr 1
    funext x
    by_cases hx : x.1 = topic <;> simp [hx]
  show (r.entries.filter fun x => decide (x.1 ≠ topic)).lookup t = _
  rw [hfilter]
  by_cases ht : t = topic
  · subst ht
    rw [if_pos rfl]
    exact Fanout.lookup_filter_key_self _ _
  · rw [if_neg ht]
    exact Fanout.lookup_filter_key_ne (Ne.symm ht)

/-- Validating a topic reads the schema registered for it. -/
theorem validate_eq (r : SchemaRegistry) (topic : String) (payload : Json) :
    r.validate topic payload = match r.find? topic with
      | none => .error { topic, reason := "no schema registered for command topic" }
      | some s => (s.validate payload).mapError fun reason => { topic, reason } := by
  unfold validate
  rcases r.find? topic with _ | s
  · rfl
  · dsimp only
    cases s.validate payload <;> rfl

end SchemaRegistry

/-- **Validation returns the first violation of the reference order.**  For every schema
(repeated field names, any bounds, unknown fields allowed or not) and every payload value (an
object's keys ascending): validation refuses the payload for the first problem of
`CommandSchema.violations`, which lists, in order, the refusal of a payload that is no object
nor `null`, then each field's problems in schema order (missing when required and absent or
`null`; of the wrong kind; a string of a length out of bounds; an integer out of range), then
the least key no field names unless unknown keys are allowed; with no problem it accepts.
The kind `integer` takes exactly the JSON integers; ranges compare exact integers, so an
unsigned value above `2 ^ 63 - 1` is in no range with a signed 64-bit upper bound.  A registry
validates a topic against the schema it registered last for it and refuses, naming the topic,
one without a schema. -/
theorem validate_reports_first_violation :
    (∀ (s : CommandSchema) (payload : Json), payload.KeysAscending →
      s.validate payload = firstProblem (s.violations payload)) ∧
    (∀ v : Json, FieldKind.integer.accepts v = v.asInteger?.isSome) ∧
    (∀ (f : FieldSpec) (lo hi : Int) (n : Nat), f.range = some (lo, hi) → hi < 2 ^ 63 →
      2 ^ 63 ≤ n → (f.rangeProblem (.num (.nat n))).isSome) ∧
    (∀ (topic : String) (payload : Json), ({} : SchemaRegistry).validate topic payload =
      .error { topic, reason := "no schema registered for command topic" }) ∧
    (∀ (r : SchemaRegistry) (topic : String) (s : CommandSchema) (payload : Json),
      (r.insert topic s).validate topic payload =
        (s.validate payload).mapError fun reason => { topic, reason }) ∧
    (∀ (r : SchemaRegistry) (topic : String) (payload : Json),
      (r.remove topic).1.validate topic payload =
        .error { topic, reason := "no schema registered for command topic" }) ∧
    (∀ (r : SchemaRegistry) (topic t : String) (s : CommandSchema) (payload : Json), t ≠ topic →
      (r.insert topic s).validate t payload = r.validate t payload ∧
        (r.remove topic).1.validate t payload = r.validate t payload) := by
  refine ⟨fun s _ h => s.validate_eq_firstProblem h, FieldKind.integer_accepts,
    fun f _ _ _ hr hhi hn => f.rangeProblem_isSome_of_large hr hhi hn, fun _ _ => rfl, ?_, ?_, ?_⟩
  · intro r topic s payload
    rw [SchemaRegistry.validate_eq, SchemaRegistry.find?_insert, if_pos rfl]
  · intro r topic payload
    rw [SchemaRegistry.validate_eq, SchemaRegistry.find?_remove, if_pos rfl]
  · intro r topic t s payload hne
    rw [SchemaRegistry.validate_eq, SchemaRegistry.validate_eq, SchemaRegistry.validate_eq,
      SchemaRegistry.find?_insert, SchemaRegistry.find?_remove, if_neg hne, if_neg hne]
    exact ⟨rfl, rfl⟩

/-- The schema of `wifi/connect` meets a payload with an empty network name and an unknown key:
the name's length is reported, before the unknown key; an unsigned value of `2 ^ 63` is out of
the range `20..=20000`; and a second topic keeps its own verdict. -/
theorem connect_schema_reports_length_first :
    (Json.obj [("bssid", .str "x"), ("ssid", .str "")]).KeysAscending ∧
    (CommandSchema.empty.required "ssid" .string |>.length 1 32
        |>.optional "password" .string |>.length 0 63).validate
        (.obj [("bssid", .str "x"), ("ssid", .str "")]) =
      .error "field 'ssid' length 0 outside 1..=32" ∧
    (({ name := "frequency", kind := .integer, required := true, range := some (20, 20000) } :
        FieldSpec).rangeProblem (.num (.nat (2 ^ 63)))).isSome ∧
    (({} : SchemaRegistry).insert "wifi/connect" .empty).validate "wifi/scan" .null =
      ({} : SchemaRegistry).validate "wifi/scan" .null := by
  have hsorted : (Json.obj [("bssid", .str "x"), ("ssid", .str "")]).KeysAscending := by
    simp only [Json.KeysAscending, List.map_cons, List.map_nil, List.pairwise_pair]
    decide
  refine ⟨hsorted, ?_, validate_reports_first_violation.2.2.1 _ 20 20000 _ rfl (by decide) le_rfl,
    (validate_reports_first_violation.2.2.2.2.2.2 {} "wifi/connect" "wifi/scan" .empty .null
      (by decide)).1⟩
  rw [validate_reports_first_violation.1 _ _ hsorted]
  rfl

end Tether
