import Tether.Schema
import Tether.Proofs.ConfigDefaults
import Tether.Proofs.StoreAgreement
/-!
# Proofs.ModelRoundTrip — the data model reads back from its text

Every value of the data model is written as a JSON object whose keys `Json.object` sorts, and
each decoder gives the value back from the node of that object, wherever the text puts it
(`*.decode_nodeAt`):

* a tagged union finds its tag wherever sorting put it (`decodeTagged_tag_first`,
  `decodeTagged_tag_last`) and its variant's fields among the other members;
* a record finds each field under its name, an absent optional field coming back as `none`;
* a pair of bounds in a command schema is read as a sequence, which also looks at the text
  after its last item: the closing bracket stands there because the whole text is the compact
  text of the schema (`MembersSpelled`, `decodePair_nodeAt`).

Reading the compact text gives that node (`read_compact`) when the numbers are ones the wire
carries and the value nests within the reader's limit, so each type round-trips through its
text (`RoundTrips`) for the values that hold what the wire carries (`LinkState.OnWire`,
`Command.OnWire` and the like): integers of the widths they are read at, identifiers of
sixteen bytes, times a timestamp can hold, and payloads that leave their object room to nest.
`serde_forms_round_trip` gathers these with the settings and the saved session.
-/

namespace Tether.Json

set_option autoImplicit false

variable {α : Type}

/-! ## Sorted members -/

theorem insertField_cons_of_lt {k k' : String} {v v' : Json} {rest : List (String × Json)}
    (h : k < k') : insertField k v ((k', v') :: rest) = (k, v) :: (k', v') :: rest := by
  simp [insertField, h]

theorem insertField_cons_of_gt {k k' : String} {v v' : Json} {rest : List (String × Json)}
    (h : k' < k) : insertField k v ((k', v') :: rest) = (k', v') :: insertField k v rest := by
  have hne : ¬k < k' := fun h' => absurd (h.trans h') (lt_irrefl _)
  have hne' : k ≠ k' := fun heq => lt_irrefl k (heq ▸ h)
  simp [insertField, hne, hne']

theorem insertField_nil (k : String) (v : Json) : insertField k v [] = [(k, v)] := rfl

/-! ## Integers -/

theorem decodeUnsigned_num {src : Source} {limit n : Nat} {name : String} (h : n ≤ limit)
    (a b : Nat) : decodeUnsigned limit name src (.num (.nat n) a b) = .ok n := by
  simp [decodeUnsigned, h]

theorem all_ofInt {n : Int} (h : -2 ^ 63 ≤ n ∧ n < 2 ^ 63) : All NumberOnWire (Json.ofInt n) := by
  unfold Json.ofInt
  split
  · exact ⟨h.1, by assumption⟩
  · show n.toNat < 2 ^ 64
    omega

theorem nesting_ofInt (n : Int) : nesting (Json.ofInt n) = 0 := by
  unfold Json.ofInt
  split <;> rfl

/-! ## Where members stand in a compact text -/

section Written

variable {t : Text} {i : Nat}

theorem spells_obj {fs : List (String × Json)} (h : t.Spells i (compact (.obj fs))) :
    t.Spells (i + 1) (compactFields fs) := by
  rw [compact_obj, Text.spells_append, Text.spells_append] at h
  exact h.1.2

theorem spells_arr {items : List Json} (h : t.Spells i (compact (.arr items))) :
    t.Spells (i + 1) (compactItems items) ∧
      t.get? (i + 1 + (compactItems items).utf8ByteSize) = some 93 := by
  rw [compact_arr, Text.spells_append, Text.spells_append] at h
  obtain ⟨⟨-, hitems⟩, hclose⟩ := h
  refine ⟨hitems, ?_⟩
  have := (Text.spells_iff_bytes (l := [93]) rfl).mp hclose 0 (by decide)
  simpa [String.utf8ByteSize_append, show "[".utf8ByteSize = 1 from rfl, Nat.add_assoc] using this

theorem spells_items_cons {j : Json} {rest : List Json} (h : t.Spells i (compactItems (j :: rest))) :
    t.Spells i (compact j) ∧ t.Spells (i + (compact j).utf8ByteSize + 1) (compactItems rest) := by
  cases rest with
  | nil => exact ⟨h, fun k hk => by simp [compactItems] at hk⟩
  | cons j' rest =>
    rw [compactItems.eq_3 _ _ (List.cons_ne_nil _ _), Text.spells_append, Text.spells_append] at h
    obtain ⟨⟨hj, -⟩, hrest⟩ := h
    exact ⟨hj, by simpa [String.utf8ByteSize_append, show ",".utf8ByteSize = 1 from rfl,
      Nat.add_assoc] using hrest⟩

theorem spells_fields_cons {k : String} {v : Json} {rest : List (String × Json)}
    (h : t.Spells i (compactFields ((k, v) :: rest))) :
    t.Spells (i + (quote k).utf8ByteSize + 1) (compact v) ∧
      t.Spells (i + (quote k).utf8ByteSize + 1 + (compact v).utf8ByteSize + 1)
        (compactFields rest) := by
  cases rest with
  | nil =>
    rw [compactFields, Text.spells_append] at h
    exact ⟨by simpa [String.utf8ByteSize_append, show ":".utf8ByteSize = 1 from rfl,
      Nat.add_assoc] using h.2,
      fun k hk => by simp [compactFields] at hk⟩
  | cons kv rest =>
    rw [compactFields.eq_3 _ _ _ (List.cons_ne_nil _ _), Text.spells_append, Text.spells_append,
      Text.spells_append] at h
    obtain ⟨⟨⟨-, hv⟩, -⟩, hrest⟩ := h
    exact ⟨by simpa [String.utf8ByteSize_append, show ":".utf8ByteSize = 1 from rfl,
      Nat.add_assoc] using hv,
      by simpa [String.utf8ByteSize_append, show ":".utf8ByteSize = 1 from rfl,
        show ",".utf8ByteSize = 1 from rfl, Nat.add_assoc] using hrest⟩

end Written

/-- Each member value of an object spelled at `i` stands where `memberNodesAt` puts its node. -/
def MembersSpelled (t : Text) : List (String × Json) → Nat → Prop
  | [], _ => True
  | (k, v) :: rest, i => t.Spells (i + (quote k).utf8ByteSize + 1) (compact v) ∧
      MembersSpelled t rest (i + (quote k).utf8ByteSize + 1 + (compact v).utf8ByteSize + 1)

theorem membersSpelled {t : Text} : ∀ (fs : List (String × Json)) (i : Nat),
    t.Spells i (compactFields fs) → MembersSpelled t fs i
  | [], _, _ => trivial
  | (_, _) :: rest, _, h =>
    ⟨(spells_fields_cons h).1, membersSpelled rest _ (spells_fields_cons h).2⟩

/-! ## A tag after one member -/

section Tagged

variable {src : Source} {tag : String}

/-- An object of one member and then its tag, the form of a one-field variant whose field
sorts before the tag, is decoded by the variant from that member. -/
theorem decodeTagged_tag_last (name v : String) (variants : List (Variant α)) {var : Variant α}
    {idx keyEnd s e start stop : Nat} {r : Option Nat} {m : String × Nat × Node}
    (hidx : (variants.map (·.tag)).idxOf? v = some idx) (hvar : variants[idx]? = some var)
    (hm : m.1 ≠ tag ∧ ∃ j, m.2.2.toJson = .ok j) :
    decodeTagged name tag variants src (.obj [m, (tag, keyEnd, .str v s e)] start (.closed stop) r) =
      (var.decode { src with origin := .buffer } (.obj [m] start (.closed 0) none)).mapError
        DecodeError.unplaced :=
  decodeTagged_tag_within name v variants hidx hvar
    (by simpa using hm : ∀ m' ∈ [m], m'.1 ≠ tag ∧ ∃ j, m'.2.2.toJson = .ok j)
    (by simp : ∀ m' ∈ ([] : List (String × Nat × Node)), m'.1 ≠ tag ∧ ∃ j, m'.2.2.toJson = .ok j)

end Tagged

/-! ## Sequences -/

/-- The items of values a decoder reads back from their nodes decode as the list. -/
theorem decodeList_go_map {d : Decoder α} {toJson : α → Json} (src : Source) :
    ∀ (xs : List α) (i : Nat) (acc : List α),
      (∀ x ∈ xs, ∀ q, (src.origin = .text → src.text.Spells q (compact (toJson x))) →
        d src (nodeAt (toJson x) q) = .ok x) →
      (src.origin = .text → src.text.Spells i (compactItems (xs.map toJson))) →
      decodeList.go d src (nodesAt (xs.map toJson) i) acc = .ok (acc.reverse ++ xs)
  | [], _, acc, _, _ => by simp [nodesAt, decodeList.go]
  | x :: rest, i, acc, h, ht => by
    have hx := h x List.mem_cons_self i fun ho => (spells_items_cons (ht ho)).1
    simp only [List.map_cons, nodesAt, decodeList.go, hx]
    rw [decodeList_go_map src rest _ (x :: acc) (fun y hy => h y (List.mem_cons_of_mem _ hy))
      fun ho => (spells_items_cons (ht ho)).2]
    simp

theorem decodeList_nodeAt_map {d : Decoder α} {toJson : α → Json} (src : Source) (xs : List α)
    (p : Nat) (h : ∀ x ∈ xs, ∀ q, (src.origin = .text → src.text.Spells q (compact (toJson x))) →
      d src (nodeAt (toJson x) q) = .ok x)
    (ht : src.origin = .text → src.text.Spells p (compact (.arr (xs.map toJson)))) :
    decodeList d src (nodeAt (.arr (xs.map toJson)) p) = .ok xs := by
  simp [decodeList, nodeAt, decodeList_go_map src xs _ [] h fun ho => (spells_arr (ht ho)).1,
    Close.error?, bind, Except.bind, pure, Except.pure]

/-! ## Round trips through the compact text -/

/-- A type round-trips through its compact text: for every value that holds `wire`, decoding
the compact text of its JSON form gives the value back. -/
def RoundTrips (d : Decoder α) (toJson : α → Json) (wire : α → Prop) : Prop :=
  ∀ x, wire x → decodeText d (compact (toJson x)) = .ok x

/-- A type round-trips when its decoder reads each value back from the value's node in its
own text, and the value's numbers are carried and its nesting within the limit. -/
theorem RoundTrips.of_nodeAt {d : Decoder α} {toJson : α → Json} {wire : α → Prop}
    (hfit : ∀ x, wire x → All NumberOnWire (toJson x) ∧ nesting (toJson x) ≤ depthLimit)
    (hd : ∀ x, wire x → ∀ src : Source,
      (src.origin = .text → src.text.Spells 0 (compact (toJson x))) →
      d src (nodeAt (toJson x) 0) = .ok x) :
    RoundTrips d toJson wire := by
  intro x hx
  obtain ⟨hroot, htrail⟩ := read_compact (hfit x hx).1 (hfit x hx).2
  have htext : (Document.read (compact (toJson x))).text = ⟨(compact (toJson x)).toUTF8⟩ := rfl
  have hread := hd x hx ⟨.text, ⟨(compact (toJson x)).toUTF8⟩⟩ fun _ => spells_self _
  simp only [decodeText, hroot, htrail, htext, hread, bind, Except.bind, pure, Except.pure]

/-- An object whose members are a payload or scalars the wire carries fits the reader. -/
theorem fits_object_of_payload {fs : List (String × Json)} {j : Json} (hj : Payload j)
    (h : ∀ kv ∈ fs, kv.2 = j ∨ (All NumberOnWire kv.2 ∧ nesting kv.2 = 0)) :
    All NumberOnWire (Json.object fs) ∧ nesting (Json.object fs) ≤ depthLimit := by
  constructor
  · refine all_object (fun _ => trivial) fun kv hkv => ?_
    rcases h kv hkv with h | h
    · exact h ▸ hj.1.numbers
    · exact h.1
  · refine le_trans (nesting_object_le (n := depthLimit - 1) fun kv hkv => ?_) (by decide)
    rcases h kv hkv with h | h
    · exact h ▸ Nat.le_sub_one_of_lt hj.2
    · exact h.2 ▸ Nat.zero_le _

end Tether.Json

namespace Tether

open Tether.Json

set_option autoImplicit false

/-! ## Tagged unions -/

namespace LinkState

/-- A retry count of 32 bits. -/
def OnWire : LinkState → Prop
  | .reconnecting n => n < 2 ^ 32
  | _ => True

/-- The sorted JSON form: a retry count sorts before the tag. -/
theorem toJson_eq (s : LinkState) :
    s.toJson = .obj (match s with
      | .reconnecting n => [("attempt", .ofNat n), ("state", .str "reconnecting")]
      | s => [("state", .str s.tag)]) := by
  cases s <;> simp (disch := decide) only [toJson, Json.object, List.foldl, insertField_nil,
    insertField_cons_of_lt, tag]

theorem decode_nodeAt (src : Source) {s : LinkState} (hs : s.OnWire) (p : Nat) :
    LinkState.decode src (nodeAt s.toJson p) = .ok s := by
  unfold LinkState.decode
  rw [toJson_eq]
  cases s with
  | reconnecting n =>
    have hu : ∀ src a b, decodeU32 src (.num (.nat n) a b) = .ok n := fun _ =>
      decodeUnsigned_num (by simp only [OnWire] at hs; simp only [Nat.pow_eq]; omega)
    simp only [nodeAt, memberNodesAt, Json.ofNat]
    rw [decodeTagged_tag_last "ConnectionState" "reconnecting" _ rfl rfl (by simp [Node.toJson])]
    simp [Variant.record, Record.decode, Record.scanMembers, Functor.map, Record.field, Except.map,
      bind, Except.bind, Except.mapError, hu]
  | disconnected | joiningPortal | connecting | connected | unreachable =>
    simp only [nodeAt, memberNodesAt, tag]
    rw [decodeTagged_tag_first _ _ _ rfl rfl (by simp)]
    rfl

theorem numbers_toJson {s : LinkState} (hs : s.OnWire) : All NumberOnWire s.toJson := by
  cases s with
  | reconnecting n =>
    exact all_object (fun _ => trivial)
      (by simp [all_str, all_ofNat (show n < 2 ^ 64 from lt_trans hs (by decide))])
  | _ => exact all_object (fun _ => trivial) (by simp [all_str])

theorem nesting_toJson (s : LinkState) : nesting s.toJson ≤ 1 := by
  cases s <;> exact nesting_object_le (by simp [nesting, nesting_ofNat])

end LinkState

namespace FaultReason

theorem toJson_eq (r : FaultReason) :
    r.toJson = .obj (match r with
      | .provisioningTimeout => [("kind", .str "provisioningTimeout")]
      | .deviceRejected reason => [("kind", .str "deviceRejected"), ("reason", .str reason)]) := by
  cases r <;> simp (disch := decide) only [toJson, Json.object, List.foldl, insertField_nil,
    insertField_cons_of_gt]

/-- A fault's form is one the wire carries, so it reads whole inside a provisioning state. -/
theorem onWire_toJson (r : FaultReason) : Json.OnWire r.toJson := by
  rw [toJson_eq]
  cases r with
  | provisioningTimeout => exact ⟨List.pairwise_singleton _ _, trivial, trivial⟩
  | deviceRejected reason =>
    exact ⟨by simp only [OnWireAt, List.map_cons, List.map_nil]; decide, trivial, trivial, trivial⟩

theorem decode_nodeAt (src : Source) (r : FaultReason) (p : Nat) :
    FaultReason.decode src (nodeAt r.toJson p) = .ok r := by
  unfold FaultReason.decode
  rw [toJson_eq]
  cases r with
  | provisioningTimeout =>
    simp only [nodeAt, memberNodesAt]
    rw [decodeTagged_tag_first _ _ _ rfl rfl (by simp)]
    rfl
  | deviceRejected reason =>
    simp only [nodeAt, memberNodesAt]
    rw [decodeTagged_tag_first _ _ _ rfl rfl (by simp [Node.toJson])]
    simp [Variant.record, Record.decode, Record.scanMembers, Functor.map, Record.field, Except.map,
      bind, Except.bind, Except.mapError, decodeString]

theorem nesting_toJson (r : FaultReason) : nesting r.toJson ≤ 1 := by
  cases r <;> exact nesting_object_le (by simp [nesting])

end FaultReason

namespace ProvisioningState

/-- The sorted JSON form: an SSID or a fault sorts before the tag. -/
theorem toJson_eq (s : ProvisioningState) :
    s.toJson = .obj (match s with
      | .apMode ssid | .joining ssid | .joined ssid => [("ssid", .str ssid), ("state", .str s.name)]
      | .faulted r => [("reason", r.toJson), ("state", .str "faulted")]
      | s => [("state", .str s.name)]) := by
  cases s <;> simp (disch := decide) only [toJson, Json.object, List.foldl, insertField_nil,
    insertField_cons_of_lt, name]

theorem decode_nodeAt (src : Source) (s : ProvisioningState) (p : Nat) :
    ProvisioningState.decode src (nodeAt s.toJson p) = .ok s := by
  unfold ProvisioningState.decode
  rw [toJson_eq]
  cases s with
  | apMode ssid | joining ssid | joined ssid =>
    simp only [nodeAt, memberNodesAt, name]
    rw [decodeTagged_tag_last _ _ _ rfl rfl (by simp [Node.toJson])]
    simp [ssidVariant, Variant.record, Record.decode, Record.scanMembers, Functor.map, Record.field,
      Except.map, bind, Except.bind, Except.mapError, decodeString]
  | faulted r =>
    simp only [nodeAt, memberNodesAt]
    -- the fault is an object of its own, which reads whole as the tag is looked for
    rw [decodeTagged_tag_last _ _ _ rfl rfl
      ⟨by simp, _, toJson_nodeAt _ _ (FaultReason.onWire_toJson r)⟩]
    simp [Variant.record, Record.decode, Record.scanMembers, Functor.map, Record.field, Except.map,
      bind, Except.bind, Except.mapError, FaultReason.decode_nodeAt]
  | unconfigured | scanning =>
    simp only [nodeAt, memberNodesAt, name]
    rw [decodeTagged_tag_first _ _ _ rfl rfl (by simp)]
    rfl

theorem numbers_toJson (s : ProvisioningState) : All NumberOnWire s.toJson := by
  cases s with
  | faulted r =>
    refine all_object (fun _ => trivial) ?_
    simp only [List.mem_cons, List.not_mem_nil, or_false, forall_eq_or_imp, forall_eq]
    exact ⟨all_str _, (FaultReason.onWire_toJson r).numbers⟩
  | _ => exact all_object (fun _ => trivial) (by simp [all_str])

theorem nesting_toJson (s : ProvisioningState) : nesting s.toJson ≤ 2 := by
  cases s with
  | faulted r =>
    have hr := FaultReason.nesting_toJson r
    exact nesting_object_le (by simp [nesting]; omega)
  | _ => exact le_trans (nesting_object_le (n := 0) (by simp [nesting])) (by decide)

end ProvisioningState

namespace Endpoint

theorem numbers_toJson (e : Endpoint) : All NumberOnWire e.toJson := by
  rw [toJson_eq]
  cases e with
  | direct u => simp [All, AllFields, NumberOnWire]
  | captive s p u => cases p <;> simp [All, AllFields, NumberOnWire]

theorem nesting_toJson (e : Endpoint) : nesting e.toJson ≤ 1 := by
  rw [toJson_eq]
  cases e with
  | direct u => simp [nesting, nestingFields]
  | captive s p u => cases p <;> simp [nesting, nestingFields]

end Endpoint

/-! ## Records -/

theorem Uuid.decode_str {src : Source} {u : Uuid} (h : u.Valid) (a b : Nat) :
    Uuid.decode src (.str u.render a b) = .ok u := by
  simp [Uuid.decode, decodeParsed, Uuid.parse_render h]

namespace DeviceSession

/-- A retry count of 32 bits, and a time a timestamp holds. -/
def OnWire (s : DeviceSession) : Prop := s.link.OnWire ∧ s.lastSeen.Valid

theorem toJson_eq (s : DeviceSession) :
    s.toJson = .obj [("endpoint", s.endpoint.toJson), ("id", .str s.id.val),
      ("lastSeen", s.lastSeen.toJson), ("link", s.link.toJson), ("viaPortal", .bool s.viaPortal)] := by
  simp (disch := decide) only [toJson, Json.object, List.foldl, insertField_nil,
    insertField_cons_of_lt, insertField_cons_of_gt]

theorem decode_nodeAt (src : Source) {s : DeviceSession} (hs : s.OnWire) (p : Nat) :
    DeviceSession.decode src (nodeAt s.toJson p) = .ok s := by
  rw [toJson_eq]
  simp only [nodeAt, memberNodesAt, Instant.toJson]
  simp [DeviceSession.decode, Record.decode, Record.scanMembers, Functor.map, Seq.seq,
    Record.field, Except.map, bind, Except.bind, pure, Except.pure, List.lookup_cons,
    List.lookup_nil, DeviceId.decode_str, Instant.decode_str hs.2, Endpoint.decode_nodeAt,
    LinkState.decode_nodeAt _ hs.1, decodeBool]

theorem numbers_toJson {s : DeviceSession} (hs : s.OnWire) : All NumberOnWire s.toJson := by
  refine all_object (fun _ => trivial) ?_
  simp only [List.mem_cons, List.not_mem_nil, or_false, forall_eq_or_imp, forall_eq]
  exact ⟨all_str _, LinkState.numbers_toJson hs.1, Endpoint.numbers_toJson _, all_str _, trivial⟩

theorem nesting_toJson (s : DeviceSession) : nesting s.toJson ≤ 2 := by
  have hl := LinkState.nesting_toJson s.link
  have he := Endpoint.nesting_toJson s.endpoint
  exact nesting_object_le (by simp [nesting, Instant.toJson]; omega)

end DeviceSession

namespace Command

/-- An identifier of sixteen bytes, and a payload that leaves the command room to nest. -/
def OnWire (c : Command) : Prop := c.id.Valid ∧ Payload c.payload

theorem toJson_eq (c : Command) :
    c.toJson = .obj ([("id", .str c.id.render)] ++
      (match c.issuer with | some p => [("issuer", .str p.val)] | none => []) ++
      [("payload", c.payload), ("topic", .str c.topic)]) := by
  obtain ⟨id, topic, payload, issuer⟩ := c
  cases issuer <;> simp (disch := decide) only [toJson, Json.object, List.foldl, List.cons_append,
    List.nil_append, List.append_nil, insertField_nil, insertField_cons_of_lt,
    insertField_cons_of_gt]

theorem decode_nodeAt (src : Source) {c : Command} (hc : c.OnWire) (p : Nat) :
    Command.decode src (nodeAt c.toJson p) = .ok c := by
  rw [toJson_eq]
  obtain ⟨id, topic, payload, issuer⟩ := c
  obtain ⟨hid, hpay⟩ := hc
  cases issuer <;>
  · simp only [nodeAt, memberNodesAt, List.cons_append, List.nil_append]
    simp [Command.decode, Record.decode, Record.scanMembers, Functor.map, Seq.seq,
      Record.field, Except.map, bind, Except.bind, pure, Except.pure, List.lookup_cons,
      List.lookup_nil, Uuid.decode_str hid, decodeString, decodeJson_nodeAt hpay.1, decodeOption,
      PluginId.decode]

theorem fits_toJson {c : Command} (hc : c.OnWire) :
    All NumberOnWire c.toJson ∧ nesting c.toJson ≤ depthLimit := by
  refine fits_object_of_payload hc.2 ?_
  cases c.issuer <;> simp [all_str, nesting]

end Command

namespace Reply

/-- An identifier of sixteen bytes, and a payload that leaves the reply room to nest. -/
def OnWire (r : Reply) : Prop := r.id.Valid ∧ Payload r.payload

theorem toJson_eq (r : Reply) :
    r.toJson = .obj ((match r.error with | some e => [("error", .str e)] | none => []) ++
      [("id", .str r.id.render), ("ok", .bool r.ok), ("payload", r.payload)]) := by
  obtain ⟨id, ok, payload, error⟩ := r
  cases error <;> simp (disch := decide) only [toJson, Json.object, List.foldl, List.cons_append,
    List.nil_append, List.append_nil, insertField_nil, insertField_cons_of_lt,
    insertField_cons_of_gt]

theorem decode_nodeAt (src : Source) {r : Reply} (hr : r.OnWire) (p : Nat) :
    Reply.decode src (nodeAt r.toJson p) = .ok r := by
  rw [toJson_eq]
  obtain ⟨id, ok, payload, error⟩ := r
  obtain ⟨hid, hpay⟩ := hr
  cases error <;>
  · simp only [nodeAt, memberNodesAt, List.cons_append, List.nil_append]
    simp [Reply.decode, Reply.record, Record.decode, Record.scanMembers, Functor.map, Seq.seq,
      Record.field, Except.map, bind, Except.bind, pure, Except.pure, List.lookup_cons,
      List.lookup_nil, Uuid.decode_str hid, decodeString, decodeBool, decodeJson_nodeAt hpay.1,
      decodeOption]

theorem fits_toJson {r : Reply} (hr : r.OnWire) :
    All NumberOnWire r.toJson ∧ nesting r.toJson ≤ depthLimit := by
  refine fits_object_of_payload hr.2 ?_
  cases r.error <;> simp [All, NumberOnWire, nesting]

end Reply

namespace TelemetryEvent

/-- A sequence number of 64 bits, a payload that leaves the event room to nest, and a time a
timestamp holds. -/
def OnWire (e : TelemetryEvent) : Prop := e.seq < 2 ^ 64 ∧ Payload e.payload ∧ e.receivedAt.Valid

theorem toJson_eq (e : TelemetryEvent) :
    e.toJson = .obj [("payload", e.payload), ("receivedAt", e.receivedAt.toJson),
      ("seq", .ofNat e.seq), ("topic", .str e.topic)] := by
  simp (disch := decide) only [toJson, Json.object, List.foldl, insertField_nil,
    insertField_cons_of_lt, insertField_cons_of_gt]

theorem decode_nodeAt (src : Source) {e : TelemetryEvent} (he : e.OnWire) (p : Nat) :
    TelemetryEvent.decode src (nodeAt e.toJson p) = .ok e := by
  obtain ⟨hseq, hpay, hat⟩ := he
  have hu : ∀ src a b, decodeU64 src (.num (.nat e.seq) a b) = .ok e.seq := fun _ =>
    decodeUnsigned_num (by simp only [Nat.pow_eq]; omega)
  rw [toJson_eq]
  simp only [nodeAt, memberNodesAt, Instant.toJson, Json.ofNat]
  simp [TelemetryEvent.decode, Record.decode, Record.scanMembers, Functor.map, Seq.seq,
    Record.field, Except.map, bind, Except.bind, pure, Except.pure, List.lookup_cons,
    List.lookup_nil, Instant.decode_str hat, decodeString, decodeJson_nodeAt hpay.1, hu]

theorem fits_toJson {e : TelemetryEvent} (he : e.OnWire) :
    All NumberOnWire e.toJson ∧ nesting e.toJson ≤ depthLimit :=
  fits_object_of_payload he.2.1 (by
    simp [all_str, all_ofNat he.1, nesting, nesting_ofNat, Instant.toJson])

end TelemetryEvent

/-! ## Command schemas -/

theorem decodePair_nodeAt {β : Type} {d : Decoder β} {x y : Json} {a b : β} {src : Source} {q : Nat}
    (hx : ∀ i, d src (nodeAt x i) = .ok a) (hy : ∀ i, d src (nodeAt y i) = .ok b)
    (ht : src.origin = .text → src.text.Spells q (compact (.arr [x, y]))) :
    decodePair d src (nodeAt (.arr [x, y]) q) = .ok (a, b) := by
  have hx' := hx (q + 1)
  have hy' := hy (q + 1 + (compact x).utf8ByteSize + 1)
  simp only [decodePair, Record.decodeTuple, nodeAt, nodesAt]
  simp [Record.decodeItems, Record.scanItems, Functor.map, Seq.seq, Record.field, Except.map,
    bind, Except.bind, pure, Except.pure, hx', hy', List.lookup_cons, List.lookup_nil]
  cases ho : src.origin with
  | value | buffer => rfl
  | text =>
    -- the closing bracket stands right after the second item
    have hclose := (spells_arr (ht ho)).2
    simp only [compactItems, String.utf8ByteSize_append, show ",".utf8ByteSize = 1 from rfl]
      at hclose
    have hend : Source.endOf (nodeAt y (q + 1 + (compact x).utf8ByteSize + 1)) =
        q + 1 + ((compact x).utf8ByteSize + 1 + (compact y).utf8ByteSize) := by
      simp only [Source.endOf, resumeAt_nodeAt, Option.getD_some]
      omega
    simp only [hend, Source.endSequence, skipBlank_of_some hclose (by decide), hclose]

theorem decodeI64_ofInt {src : Source} {n : Int} (h : -2 ^ 63 ≤ n ∧ n < 2 ^ 63) (i : Nat) :
    decodeI64 src (nodeAt (Json.ofInt n) i) = .ok n := by
  unfold Json.ofInt
  split
  · simp [decodeI64, nodeAt]
  · have : n.toNat < Nat.pow 2 63 := by simp only [Nat.pow_eq]; omega
    simp [decodeI64, nodeAt, this]
    omega

theorem FieldKind.decode_str {src : Source} (k : FieldKind) (a b : Nat) :
    FieldKind.decode src (.str k.tag a b) = .ok k := by
  cases k <;> rfl

theorem decodeOption_pair_nodeAt {β : Type} {d : Decoder β} {f : β → Json} {l : β × β}
    {src : Source} {q : Nat} (h₁ : ∀ i, d src (nodeAt (f l.1) i) = .ok l.1)
    (h₂ : ∀ i, d src (nodeAt (f l.2) i) = .ok l.2)
    (ht : src.origin = .text → src.text.Spells q (compact (pairJson f l))) :
    decodeOption (decodePair d) src (nodeAt (pairJson f l) q) = .ok (some l) := by
  have h := decodePair_nodeAt h₁ h₂ ht
  simp only [pairJson, decodeOption, nodeAt] at h ⊢
  simp [h, Except.map]

namespace FieldSpec

/-- Length bounds a machine word holds, and value bounds of 64-bit signed integers. -/
def OnWire (f : FieldSpec) : Prop :=
  (∀ l ∈ f.len, l.1 < 2 ^ 64 ∧ l.2 < 2 ^ 64) ∧
    ∀ r ∈ f.range, (-2 ^ 63 ≤ r.1 ∧ r.1 < 2 ^ 63) ∧ (-2 ^ 63 ≤ r.2 ∧ r.2 < 2 ^ 63)

theorem toJson_eq (f : FieldSpec) :
    f.toJson = .obj ([("kind", .str f.kind.tag)] ++
      (match f.len with | some p => [("len", pairJson Json.ofNat p)] | none => []) ++
      [("name", .str f.name)] ++
      (match f.range with | some p => [("range", pairJson Json.ofInt p)] | none => []) ++
      [("required", .bool f.required)]) := by
  obtain ⟨name, kind, required, len, range⟩ := f
  cases len <;> cases range <;> simp (disch := decide) only [FieldSpec.toJson, Json.object,
    List.foldl, List.cons_append, List.nil_append, List.append_nil, insertField_nil,
    insertField_cons_of_lt, insertField_cons_of_gt]

theorem decode_nodeAt (src : Source) {f : FieldSpec} (hf : f.OnWire) (p : Nat)
    (ht : src.origin = .text → src.text.Spells p (compact f.toJson)) :
    FieldSpec.decode src (nodeAt f.toJson p) = .ok f := by
  rw [toJson_eq] at ht ⊢
  have hms := fun h => membersSpelled _ _ (spells_obj (ht h))
  obtain ⟨name, kind, required, len, range⟩ := f
  obtain ⟨hlen, hrange⟩ := hf
  -- the bounds read back wherever their text stands
  have hlen' : ∀ l ∈ len, ∀ q, (src.origin = .text → src.text.Spells q (compact (pairJson Json.ofNat l))) →
      decodeOption (decodePair decodeUsize) src (nodeAt (pairJson Json.ofNat l) q) = .ok (some l) :=
    fun l hl q ht => decodeOption_pair_nodeAt
      (fun _ => decodeUnsigned_nodeAt (by have := (hlen l hl).1; simp only [Nat.pow_eq]; omega))
      (fun _ => decodeUnsigned_nodeAt (by have := (hlen l hl).2; simp only [Nat.pow_eq]; omega)) ht
  have hrange' : ∀ r ∈ range, ∀ q, (src.origin = .text → src.text.Spells q (compact (pairJson Json.ofInt r))) →
      decodeOption (decodePair decodeI64) src (nodeAt (pairJson Json.ofInt r) q) = .ok (some r) :=
    fun r hr q ht => decodeOption_pair_nodeAt (fun _ => decodeI64_ofInt (hrange r hr).1 _)
      (fun _ => decodeI64_ofInt (hrange r hr).2 _) ht
  cases len <;> cases range <;>
    simp only [List.cons_append, List.nil_append, List.append_nil, MembersSpelled, imp_and] at hms
  -- each bound's text stands where its member's node does
  case' none.some r =>
    have := hrange' r rfl _ hms.2.2.1
  case' some.none l =>
    have := hlen' l rfl _ hms.2.1
  case' some.some l r =>
    have := hlen' l rfl _ hms.2.1
    have := hrange' r rfl _ hms.2.2.2.1
  all_goals
    clear hms ht hlen' hrange'
    simp only [nodeAt, memberNodesAt, List.cons_append, List.nil_append, List.append_nil]
    simp [FieldSpec.decode, Record.decode, Record.scanMembers, Functor.map, Seq.seq,
      Record.field, Except.map, bind, Except.bind, pure, Except.pure, List.lookup_cons,
      List.lookup_nil, decodeString, decodeBool, FieldKind.decode_str, *]

theorem numbers_toJson {f : FieldSpec} (hf : f.OnWire) : All NumberOnWire f.toJson := by
  obtain ⟨name, kind, required, len, range⟩ := f
  obtain ⟨hlen, hrange⟩ := hf
  refine all_object (fun _ => trivial) ?_
  cases len <;> cases range <;>
    simp_all [All, AllItems, NumberOnWire, pairJson, all_ofNat, all_ofInt]

theorem nesting_toJson (f : FieldSpec) : nesting f.toJson ≤ 2 := by
  refine nesting_object_le (n := 1) ?_
  cases f.len <;> cases f.range <;> simp [nesting, nestingItems, pairJson, nesting_ofNat, nesting_ofInt]

end FieldSpec


namespace CommandSchema

/-- Every field's bounds are ones the wire carries. -/
def OnWire (s : CommandSchema) : Prop := ∀ f ∈ s.fields, f.OnWire

theorem toJson_eq (s : CommandSchema) :
    s.toJson = .obj [("allowUnknown", .bool s.allowUnknown),
      ("fields", .arr (s.fields.map FieldSpec.toJson))] := by
  simp (disch := decide) only [CommandSchema.toJson, Json.object, List.foldl, insertField_nil,
    insertField_cons_of_lt]

theorem decode_nodeAt (src : Source) {s : CommandSchema} (hs : s.OnWire) (p : Nat)
    (ht : src.origin = .text → src.text.Spells p (compact s.toJson)) :
    CommandSchema.decode src (nodeAt s.toJson p) = .ok s := by
  rw [toJson_eq] at ht ⊢
  have hms := fun h => membersSpelled _ _ (spells_obj (ht h))
  simp only [MembersSpelled, imp_and] at hms
  -- the fields' text stands where their list's node does
  have hfields := decodeList_nodeAt_map src s.fields _
    (fun f hf q hq => FieldSpec.decode_nodeAt src (hs f hf) q hq) hms.2.1
  simp only [nodeAt] at hfields
  simp only [nodeAt, memberNodesAt]
  simp [CommandSchema.decode, Record.decode, Record.scanMembers, Functor.map, Seq.seq,
    Record.field, Except.map, bind, Except.bind, pure, Except.pure, List.lookup_cons,
    List.lookup_nil, decodeBool, hfields]

theorem numbers_toJson {s : CommandSchema} (hs : s.OnWire) : All NumberOnWire s.toJson := by
  rw [toJson_eq]
  refine ⟨trivial, trivial, ⟨trivial, allItems_of_forall _ fun j hj => ?_⟩, trivial⟩
  obtain ⟨f, hf, rfl⟩ := List.mem_map.mp hj
  exact FieldSpec.numbers_toJson (hs f hf)

theorem nesting_toJson (s : CommandSchema) : nesting s.toJson ≤ 4 := by
  have hitems : nestingItems (s.fields.map FieldSpec.toJson) ≤ 2 :=
    nestingItems_le _ fun j hj => by
      obtain ⟨f, -, rfl⟩ := List.mem_map.mp hj
      exact FieldSpec.nesting_toJson f
  rw [toJson_eq]
  simp only [nesting, nestingFields]
  omega

end CommandSchema

/-! ## Every type through its text -/

theorem Endpoint.roundTrips : RoundTrips Endpoint.decode Endpoint.toJson fun _ => True :=
  RoundTrips.of_nodeAt
    (fun e _ => ⟨Endpoint.numbers_toJson e, le_trans (Endpoint.nesting_toJson e) (by decide)⟩)
    fun e _ src _ => Endpoint.decode_nodeAt src e 0

theorem LinkState.roundTrips : RoundTrips LinkState.decode LinkState.toJson LinkState.OnWire :=
  RoundTrips.of_nodeAt
    (fun s hs => ⟨LinkState.numbers_toJson hs, le_trans (LinkState.nesting_toJson s) (by decide)⟩)
    fun _ hs src _ => LinkState.decode_nodeAt src hs 0

theorem FaultReason.roundTrips : RoundTrips FaultReason.decode FaultReason.toJson fun _ => True :=
  RoundTrips.of_nodeAt
    (fun r _ => ⟨(FaultReason.onWire_toJson r).numbers,
      le_trans (FaultReason.nesting_toJson r) (by decide)⟩)
    fun r _ src _ => FaultReason.decode_nodeAt src r 0

theorem ProvisioningState.roundTrips :
    RoundTrips ProvisioningState.decode ProvisioningState.toJson fun _ => True :=
  RoundTrips.of_nodeAt
    (fun s _ => ⟨ProvisioningState.numbers_toJson s,
      le_trans (ProvisioningState.nesting_toJson s) (by decide)⟩)
    fun s _ src _ => ProvisioningState.decode_nodeAt src s 0

theorem DeviceSession.roundTrips :
    RoundTrips DeviceSession.decode DeviceSession.toJson DeviceSession.OnWire :=
  RoundTrips.of_nodeAt
    (fun s hs => ⟨DeviceSession.numbers_toJson hs,
      le_trans (DeviceSession.nesting_toJson s) (by decide)⟩)
    fun _ hs src _ => DeviceSession.decode_nodeAt src hs 0

theorem Command.roundTrips : RoundTrips Command.decode Command.toJson Command.OnWire :=
  RoundTrips.of_nodeAt (fun _ hc => Command.fits_toJson hc)
    fun _ hc src _ => Command.decode_nodeAt src hc 0

theorem Reply.roundTrips : RoundTrips Reply.decode Reply.toJson Reply.OnWire :=
  RoundTrips.of_nodeAt (fun _ hr => Reply.fits_toJson hr)
    fun _ hr src _ => Reply.decode_nodeAt src hr 0

theorem TelemetryEvent.roundTrips :
    RoundTrips TelemetryEvent.decode TelemetryEvent.toJson TelemetryEvent.OnWire :=
  RoundTrips.of_nodeAt (fun _ he => TelemetryEvent.fits_toJson he)
    fun _ he src _ => TelemetryEvent.decode_nodeAt src he 0

theorem CommandSchema.roundTrips :
    RoundTrips CommandSchema.decode CommandSchema.toJson CommandSchema.OnWire :=
  RoundTrips.of_nodeAt
    (fun s hs => ⟨CommandSchema.numbers_toJson hs,
      le_trans (CommandSchema.nesting_toJson s) (by decide)⟩)
    fun _ hs src ht => CommandSchema.decode_nodeAt src hs 0 ht

/-- The serde forms read back.  Every type of the data model round-trips through its compact
text for the values the wire carries; a session saved in any store loads back as itself; the
settings round-trip through their text; and the text of a settings object without repeated
keys gives the defaults with the members it has put in, section by section. -/
theorem serde_forms_round_trip :
    RoundTrips Endpoint.decode Endpoint.toJson (fun _ => True) ∧
    RoundTrips LinkState.decode LinkState.toJson LinkState.OnWire ∧
    RoundTrips FaultReason.decode FaultReason.toJson (fun _ => True) ∧
    RoundTrips ProvisioningState.decode ProvisioningState.toJson (fun _ => True) ∧
    RoundTrips DeviceSession.decode DeviceSession.toJson DeviceSession.OnWire ∧
    RoundTrips Command.decode Command.toJson Command.OnWire ∧
    RoundTrips Reply.decode Reply.toJson Reply.OnWire ∧
    RoundTrips TelemetryEvent.decode TelemetryEvent.toJson TelemetryEvent.OnWire ∧
    RoundTrips LastSession.decode LastSession.toJson (fun ls => ls.savedAt.Valid) ∧
    RoundTrips CommandSchema.decode CommandSchema.toJson CommandSchema.OnWire ∧
    (∀ (s : ConfigStore) (ls : LastSession), ls.savedAt.Valid →
      s.answers [.saveLastSession ls, .loadLastSession] = [.done, .session (some ls)]) ∧
    (∀ c : HostConfig, c.OnWire → HostConfig.ofText (compact c.toJson) = .ok c) ∧
    ∀ (d : Json) (c : HostConfig), asObject HostConfig.patch d = some c →
      All NumberOnWire d → nesting d ≤ depthLimit → HostConfig.ofText (compact d) = .ok c :=
  ⟨Endpoint.roundTrips, LinkState.roundTrips, FaultReason.roundTrips,
    ProvisioningState.roundTrips, DeviceSession.roundTrips, Command.roundTrips, Reply.roundTrips,
    TelemetryEvent.roundTrips, fun _ hv => LastSession.decodeText_toJson hv,
    CommandSchema.roundTrips, fun s _ hv => s.answers_save_load_session hv,
    fun _ hc => HostConfig.ofText_toJson hc, fun _ _ h hall hdepth => HostConfig.ofText_patch h hall hdepth⟩

/-- A retry count reads back, a saved session loads back, and a settings text that names only
the bus buffer gives the defaults with that buffer. -/
theorem small_values_read_back :
    let ls : LastSession := ⟨⟨"esp32"⟩, .direct "ws://a", ⟨20000, 0, 0⟩⟩
    decodeText LinkState.decode (compact (LinkState.reconnecting 3).toJson) = .ok (.reconnecting 3) ∧
      ({} : ConfigStore).answers [.saveLastSession ls, .loadLastSession] =
        [.done, .session (some ls)] ∧
      HostConfig.ofText (compact (.obj [("bus", .obj [("subscriberBuffer", .num (.nat 8))])])) =
        .ok { bus := { subscriberBuffer := 8 } } := by
  intro ls
  have hv : ls.savedAt.Valid := ⟨by decide, by decide, by decide, by decide⟩
  refine ⟨serde_forms_round_trip.2.1 _ (show 3 < 2 ^ 32 by decide),
    serde_forms_round_trip.2.2.2.2.2.2.2.2.2.2.1 {} ls hv,
    serde_forms_round_trip.2.2.2.2.2.2.2.2.2.2.2.2 _ _ (by rfl) ?_ (by decide)⟩
  simp [All, AllFields, NumberOnWire, Number.OnWire]

/-- A telemetry event whose payload nests 127 levels deep: its own object makes its text nest
128 levels, deeper than the reader allows, and it is refused. -/
theorem deep_event_refused :
    let e : TelemetryEvent := ⟨"t", 1, Nat.repeat (fun j => Json.arr [j]) 126 (.arr []), ⟨0, 0, 0⟩⟩
    e.seq < 2 ^ 64 ∧ e.receivedAt.Valid ∧
      decodeText TelemetryEvent.decode (compact e.toJson) ≠ .ok e := by
  intro e
  refine ⟨by decide, ⟨by decide, by decide, by decide, by decide⟩, fun h => ?_⟩
  have hrefused : (decodeText TelemetryEvent.decode (compact e.toJson)).toBool = false := by
    decide +kernel
  rw [h] at hrefused
  cases hrefused

end Tether
