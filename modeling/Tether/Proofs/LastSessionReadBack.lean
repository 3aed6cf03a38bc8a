import Tether.Proofs.FrameCodec
import Tether.Proofs.PrettyReadBack
import Tether.Proofs.InstantReadBack
/-!
# Proofs.LastSessionReadBack — a saved session reads back as itself

The last session is kept in the indented layout, its members in declaration order
(`LastSession.written`), and shown in answers in the compact layout with sorted keys
(`LastSession.toJson`).  Both texts decode to the session again, provided its time is one a
timestamp can hold (`Instant.Valid`):

* an endpoint decodes from the node of either form (`Endpoint.decode_prettyNodeAt`,
  `Endpoint.decode_nodeAt`): its tag comes first in both, and its other members are strings;
* a session decodes from any object node whose members are its id, an endpoint node that
  decodes to its endpoint, and its time (`LastSession.decode_members`);
* reading the texts gives those nodes (`read_pretty`, `read_compact`), so
  `LastSession.decodeText_written` and `LastSession.decodeText_toJson` follow.
-/

namespace Tether

open Tether.Json

set_option autoImplicit false

/-! ## Fields -/

section Fields

variable {src : Source}

theorem Instant.decode_str {t : Instant} (hv : t.Valid) (a b : Nat) :
    Instant.decode src (.str t.render a b) = .ok t := by
  simp [Instant.decode, decodeParsed, parse_render hv]

theorem DeviceId.decode_str (id : DeviceId) (a b : Nat) :
    DeviceId.decode src (.str id.val a b) = .ok id := rfl

end Fields

/-! ## Endpoints -/

namespace Endpoint

/-- The sorted JSON form of an endpoint: the tag, then the other members by name. -/
theorem toJson_eq (e : Endpoint) :
    e.toJson = .obj (match e with
      | .direct u => [("kind", .str "direct"), ("url", .str u)]
      | .captive s p u =>
        [("kind", .str "captive")] ++
          (match p with | some p => [("passphrase", .str p)] | none => []) ++
          [("ssid", .str s), ("url", .str u)]) := by
  have before : "passphrase" < "ssid" := by decide
  have after : ¬("url" < "kind") ∧ ¬("ssid" < "kind") ∧ ¬("passphrase" < "kind") ∧
      ¬("url" < "ssid") ∧ ¬("url" < "passphrase") ∧ ¬("ssid" < "passphrase") := by decide
  cases e with
  | direct u => simp [toJson, members, Json.object, insertField, after]
  | captive s p u => cases p <;> simp [toJson, members, Json.object, insertField, before, after]

theorem decode_prettyNodeAt (src : Source) (e : Endpoint) (d p : Nat) :
    Endpoint.decode src (prettyNodeAt d e.written p) = .ok e := by
  unfold Endpoint.decode
  cases e with
  | direct u =>
    simp only [written, members, prettyNodeAt, prettyMemberNodesAt, nodeAt]
    rw [decodeTagged_tag_first "Endpoint" "direct" _ rfl rfl (by simp [Node.toJson])]
    simp [Variant.record, Record.decode, Record.scanMembers, Functor.map, Record.field, Except.map,
      bind, Except.bind, decodeString, Except.mapError]
  | captive s p u =>
    cases p <;>
    · simp only [written, members, prettyNodeAt, prettyMemberNodesAt, nodeAt, List.cons_append,
        List.nil_append]
      rw [decodeTagged_tag_first "Endpoint" "captive" _ rfl rfl (by simp [Node.toJson])]
      simp [Variant.record, Record.decode, Record.scanMembers, Functor.map, Seq.seq, Record.field,
        Except.map, bind, Except.bind, pure, Except.pure, decodeString, Except.mapError,
        decodeOption, List.lookup_cons, List.lookup_nil]

theorem decode_nodeAt (src : Source) (e : Endpoint) (p : Nat) :
    Endpoint.decode src (nodeAt e.toJson p) = .ok e := by
  unfold Endpoint.decode
  rw [toJson_eq]
  cases e with
  | direct u =>
    simp only [nodeAt, memberNodesAt]
    rw [decodeTagged_tag_first "Endpoint" "direct" _ rfl rfl (by simp [Node.toJson])]
    simp [Variant.record, Record.decode, Record.scanMembers, Functor.map, Record.field, Except.map,
      bind, Except.bind, decodeString, Except.mapError]
  | captive s p u =>
    cases p <;>
    · simp only [nodeAt, memberNodesAt, List.cons_append, List.nil_append]
      rw [decodeTagged_tag_first "Endpoint" "captive" _ rfl rfl (by simp [Node.toJson])]
      simp [Variant.record, Record.decode, Record.scanMembers, Functor.map, Seq.seq, Record.field,
        Except.map, bind, Except.bind, pure, Except.pure, decodeString, Except.mapError,
        decodeOption, List.lookup_cons, List.lookup_nil]

end Endpoint

/-! ## Sessions -/

namespace LastSession

/-- A session decodes from an object of its id, a node its endpoint decodes from, and its
time, wherever they stand. -/
theorem decode_members (src : Source) {ls : LastSession} (hv : ls.savedAt.Valid) {en : Node}
    (hen : ∀ src, Endpoint.decode src en = .ok ls.endpoint) (a₁ b₁ c₁ a₂ a₃ b₃ c₃ g h : Nat) :
    LastSession.decode src
      (.obj [("deviceId", a₁, .str ls.deviceId.val b₁ c₁), ("endpoint", a₂, en),
        ("savedAt", a₃, .str ls.savedAt.render b₃ c₃)] g (.closed h) none) = .ok ls := by
  simp [LastSession.decode, Record.decode, Record.scanMembers, Functor.map, Seq.seq, Record.field,
    Except.map, bind, Except.bind, pure, Except.pure, List.lookup_cons, List.lookup_nil, hen,
    DeviceId.decode_str, Instant.decode_str hv]

/-- The sorted JSON form of a session: its members are already in order. -/
theorem toJson_eq (ls : LastSession) :
    ls.toJson = .obj [("deviceId", .str ls.deviceId.val), ("endpoint", ls.endpoint.toJson),
      ("savedAt", ls.savedAt.toJson)] :=
  object_of_ascending (by simp only [List.map_cons, List.map_nil]; decide)

theorem numberFree_written (ls : LastSession) : NumberFree ls.written := by
  obtain ⟨⟨id⟩, e, t⟩ := ls
  cases e with
  | direct u => simp [NumberFree, All, AllFields, written, Endpoint.written, Endpoint.members,
      Instant.toJson]
  | captive s p u =>
    cases p <;> simp [NumberFree, All, AllFields, written, Endpoint.written, Endpoint.members,
      Instant.toJson]

theorem numbersOnWire_toJson (ls : LastSession) : All NumberOnWire ls.toJson := by
  rw [toJson_eq, Endpoint.toJson_eq]
  obtain ⟨⟨id⟩, e, t⟩ := ls
  cases e with
  | direct u => simp [All, AllFields, NumberOnWire, Instant.toJson]
  | captive s p u => cases p <;> simp [All, AllFields, NumberOnWire, Instant.toJson]

theorem nesting_written (ls : LastSession) : nesting ls.written ≤ 2 := by
  obtain ⟨⟨id⟩, e, t⟩ := ls
  cases e with
  | direct u => simp [nesting, nestingFields, written, Endpoint.written, Endpoint.members,
      Instant.toJson]
  | captive s p u =>
    cases p <;> simp [nesting, nestingFields, written, Endpoint.written, Endpoint.members,
      Instant.toJson]

theorem nesting_toJson (ls : LastSession) : nesting ls.toJson ≤ 2 := by
  rw [toJson_eq, Endpoint.toJson_eq]
  obtain ⟨⟨id⟩, e, t⟩ := ls
  cases e with
  | direct u => simp [nesting, nestingFields, Instant.toJson]
  | captive s p u => cases p <;> simp [nesting, nestingFields, Instant.toJson]

/-- The indented text a session is kept in decodes to the session. -/
theorem decodeText_written {ls : LastSession} (hv : ls.savedAt.Valid) :
    decodeText LastSession.decode (renderPretty ls.written) = .ok ls := by
  obtain ⟨hroot, htrail⟩ :=
    read_pretty (numberFree_written ls) (le_trans (nesting_written ls) (by decide))
  simp only [decodeText, hroot, htrail, bind, Except.bind, pure, Except.pure]
  simp only [written, Instant.toJson, prettyNodeAt, prettyMemberNodesAt, nodeAt]
  rw [decode_members _ hv (fun src => Endpoint.decode_prettyNodeAt src _ _ _)]

/-- The compact text a session is shown in decodes to the session. -/
theorem decodeText_toJson {ls : LastSession} (hv : ls.savedAt.Valid) :
    decodeText LastSession.decode (compact ls.toJson) = .ok ls := by
  obtain ⟨hroot, htrail⟩ :=
    read_compact (numbersOnWire_toJson ls) (le_trans (nesting_toJson ls) (by decide))
  simp only [decodeText, hroot, htrail, bind, Except.bind, pure, Except.pure]
  rw [toJson_eq]
  simp only [Instant.toJson, nodeAt, memberNodesAt]
  rw [decode_members _ hv (fun src => Endpoint.decode_nodeAt src _ _)]

end LastSession

end Tether
