import Mathlib
import Tether.Frame
import Tether.Proofs.JsonReadBack
/-!
# Proofs.FrameCodec — frames read back from their text

A frame is written as an object whose first member is its tag, `type`.  Its text is read
back by `read_compact` into the nodes `nodeAt` places, and decoding those nodes gives the
frame again: the tag picks the variant (`decodeTagged_tag_first`), and each variant's record
finds its fields among the other members (`hello_members_decode` and the like).

This holds for the frames whose values the wire carries (`DeviceFrame.OnWire`,
`HostFrame.OnWire`): sequence numbers and versions of their bit widths, identifiers of
sixteen bytes, and payloads that read back and leave their frame room to nest.  A payload
nested as deep as the reader allows does not: its frame is one level deeper and is refused
(`deep_payload_refused`).  A device frame is decoded as itself when its text fits
`maxFrameBytes` and refused for its length otherwise (`frame_codec_round_trip`).
-/

namespace Tether.Json

set_option autoImplicit false

/-! ## Fields decoded from their nodes -/

section Fields

variable {src : Source} {i : Nat}

theorem decodeString_nodeAt (s : String) : decodeString src (nodeAt (.str s) i) = .ok s := rfl

theorem decodeBool_nodeAt (b : Bool) : decodeBool src (nodeAt (.bool b) i) = .ok b := rfl

theorem decodeOption_nodeAt (s : String) :
    decodeOption decodeString src (nodeAt (.str s) i) = .ok (some s) := rfl

theorem decodeUnsigned_nodeAt {limit n : Nat} {name : String} (h : n ≤ limit) :
    decodeUnsigned limit name src (nodeAt (.num (.nat n)) i) = .ok n := by
  simp [decodeUnsigned, nodeAt, h]

theorem decodeJson_nodeAt {j : Json} (h : OnWire j) : decodeJson src (nodeAt j i) = .ok j := by
  simp [decodeJson, toJson_nodeAt j i h]

end Fields

/-! ## Tagged objects -/

section Tagged

variable {α : Type} {tag : String} {src : Source} {names : List String} {stop : Nat}

/-- After the tag, the other members are kept in order when each reads whole. -/
theorem decodeTagged_scan_kept (idx : Nat) : ∀ (rest kept : List (String × Nat × Node)),
    (∀ m ∈ rest, m.1 ≠ tag ∧ ∃ j, m.2.2.toJson = .ok j) →
    decodeTagged.scan tag src names (.closed stop) rest (some idx) kept =
      .ok (some idx, kept.reverse ++ rest) := by
  intro rest
  induction rest with
  | nil => intro kept _; simp [decodeTagged.scan]
  | cons m rest ih =>
    intro kept h
    obtain ⟨key, keyEnd, value⟩ := m
    obtain ⟨hkey, j, hj⟩ := h (key, keyEnd, value) (by simp)
    rw [decodeTagged.scan, if_neg hkey, hj]
    simp only
    rw [ih _ (fun m hm => h m (by simp [hm]))]
    simp

/-- An object whose first member is the tag, naming a variant, and whose other members read
whole is decoded by that variant from the other members. -/
theorem decodeTagged_tag_first (name v : String) (variants : List (Variant α)) {var : Variant α}
    {idx keyEnd s e start : Nat} {r : Option Nat} {rest : List (String × Nat × Node)}
    (hidx : (variants.map (·.tag)).idxOf? v = some idx) (hvar : variants[idx]? = some var)
    (hrest : ∀ m ∈ rest, m.1 ≠ tag ∧ ∃ j, m.2.2.toJson = .ok j) :
    decodeTagged name tag variants src
        (.obj ((tag, keyEnd, .str v s e) :: rest) start (.closed stop) r) =
      (var.decode { src with origin := .buffer } (.obj rest start (.closed 0) none)).mapError
        DecodeError.unplaced := by
  simp only [decodeTagged]
  rw [decodeTagged.scan]
  simp only [↓reduceIte, Option.isSome_none, Bool.false_eq_true]
  rw [show decodeVariantIndex (variants.map (·.tag)) src (.str v s e) = .ok idx by
    simp [decodeVariantIndex, hidx]]
  simp only
  rw [decodeTagged_scan_kept idx rest [] hrest]
  simp [hvar]

/-- Members the wire carries, none named as the tag, keep their nodes clear of the tag. -/
theorem memberNodesAt_untagged : ∀ (fs : List (String × Json)) (p : Nat),
    (∀ kv ∈ fs, kv.1 ≠ tag ∧ OnWire kv.2) →
    ∀ m ∈ memberNodesAt fs p, m.1 ≠ tag ∧ ∃ j, m.2.2.toJson = .ok j
  | [], _, _ => by simp [memberNodesAt]
  | (k, v) :: rest, p, h => by
    intro m hm
    simp only [memberNodesAt, List.mem_cons] at hm
    rcases hm with rfl | hm
    · obtain ⟨hk, hv⟩ := h (k, v) (by simp)
      exact ⟨hk, v, toJson_nodeAt v _ hv⟩
    · exact memberNodesAt_untagged rest _ (fun kv hkv => h kv (by simp [hkv])) m hm

theorem allFields_of_forall {p : Json → Prop} :
    ∀ fs : List (String × Json), (∀ kv ∈ fs, All p kv.2) → AllFields p fs
  | [], _ => trivial
  | (k, v) :: rest, h =>
    ⟨h (k, v) (by simp), allFields_of_forall rest fun kv hkv => h kv (by simp [hkv])⟩

theorem nestingFields_le {n : Nat} :
    ∀ fs : List (String × Json), (∀ kv ∈ fs, nesting kv.2 ≤ n) → nestingFields fs ≤ n
  | [], _ => Nat.zero_le n
  | (k, v) :: rest, h => by
    have hv : nesting v ≤ n := h (k, v) (by simp)
    have hrest := nestingFields_le rest fun kv hkv => h kv (by simp [hkv])
    simp only [nestingFields]
    omega

/-- A value that goes inside an object on the wire: carried by the wire, and nested less
deep than the reader allows, which leaves the object room. -/
def Payload (j : Json) : Prop := OnWire j ∧ nesting j < depthLimit

theorem Payload.str (s : String) : Payload (.str s) := ⟨trivial, show 0 < depthLimit by decide⟩

theorem Payload.bool (b : Bool) : Payload (.bool b) := ⟨trivial, show 0 < depthLimit by decide⟩

theorem Payload.nat {n : Nat} (h : n < 2 ^ 64) : Payload (.num (.nat n)) :=
  ⟨h, show 0 < depthLimit by decide⟩

/-- The text of a tagged object — the tag first, then members that the wire carries — is
decoded as its variant decodes the other members, wherever they stand. -/
theorem decodeText_tagged {name v : String} {variants : List (Variant α)} (idx : Nat)
    {var : Variant α} (hidx : (variants.map (·.tag)).idxOf? v = some idx)
    (hvar : variants[idx]? = some var) {rest : List (String × Json)} {a : α}
    (hdec : ∀ src p, var.decode src (.obj (memberNodesAt rest p) 0 (.closed 0) none) = .ok a)
    (hrest : ∀ kv ∈ rest, kv.1 ≠ tag ∧ Payload kv.2) :
    decodeText (decodeTagged name tag variants) (compact (.obj ((tag, .str v) :: rest))) =
      .ok a := by
  have hpay : ∀ kv ∈ (tag, Json.str v) :: rest, Payload kv.2 := by
    intro kv hkv
    rcases List.mem_cons.mp hkv with rfl | hkv
    · exact Payload.str v
    · exact (hrest kv hkv).2
  have hall : All NumberOnWire (.obj ((tag, .str v) :: rest)) :=
    ⟨trivial, allFields_of_forall _ fun kv hkv => (hpay kv hkv).1.numbers⟩
  -- the object nests one level deeper than its deepest member
  have hdepth : nesting (.obj ((tag, .str v) :: rest)) ≤ depthLimit := by
    have hfields := nestingFields_le _ fun kv hkv => Nat.le_sub_one_of_lt (hpay kv hkv).2
    have hlimit : 0 < depthLimit := by decide
    simp only [nesting]
    omega
  obtain ⟨hroot, htrail⟩ := read_compact hall hdepth
  simp only [decodeText, hroot, htrail, nodeAt, memberNodesAt, bind_pure]
  rw [decodeTagged_tag_first name v variants hidx hvar
    (memberNodesAt_untagged rest _ fun kv hkv => ⟨(hrest kv hkv).1, (hrest kv hkv).2.1⟩), hdec]
  rfl

end Tagged

end Tether.Json

namespace Tether
open Tether.Json

/-! ## Identifiers -/

namespace Uuid

/-- An identifier of sixteen bytes. -/
def Valid (u : Uuid) : Prop := u.bytes.length = 16 ∧ ∀ b ∈ u.bytes, b < 256

theorem hexByte_eq (b : Nat) :
    hexByte b = String.ofList [Json.hexDigit (b / 16 % 16), Json.hexDigit (b % 16)] := rfl

theorem hexDigit_facts : ∀ m < 16, Json.hexDigit m ≠ '-' ∧ (Json.hexDigit m).toNat < 128 ∧
    hexValue (Json.hexDigit m) = some m := by
  decide

theorem hexDigit_mod_ne (n : Nat) : Json.hexDigit (n % 16) ≠ '-' :=
  (hexDigit_facts (n % 16) (Nat.mod_lt _ (by decide))).1

theorem hexValue_hexDigit_mod (n : Nat) : hexValue (Json.hexDigit (n % 16)) = some (n % 16) :=
  (hexDigit_facts (n % 16) (Nat.mod_lt _ (by decide))).2.2

theorem hexDigit_mod_ascii (n : Nat) : (Json.hexDigit (n % 16)).toNat < 128 :=
  (hexDigit_facts (n % 16) (Nat.mod_lt _ (by decide))).2.1

theorem hexByte_size (b : Nat) : (hexByte b).utf8ByteSize = 2 := by
  rw [hexByte_eq, Json.utf8ByteSize_ofList_ascii _ (by
    intro c hc
    simp only [List.mem_cons, List.not_mem_nil, or_false] at hc
    rcases hc with rfl | rfl <;> exact hexDigit_mod_ascii _)]
  rfl

theorem byte_of_digits {b : Nat} (h : b < 256) : b / 16 % 16 * 16 + b % 16 = b := by
  omega

theorem render_size (b0 b1 b2 b3 b4 b5 b6 b7 b8 b9 b10 b11 b12 b13 b14 b15 : Nat) :
    (render ⟨[b0, b1, b2, b3, b4, b5, b6, b7, b8, b9, b10, b11, b12, b13, b14, b15]⟩).utf8ByteSize =
      36 := by
  simp [render, hexByte_size, String.utf8ByteSize_append, show "-".utf8ByteSize = 1 from rfl]

theorem parse_render {u : Uuid} (h : u.Valid) : parse u.render = .ok u := by
  obtain ⟨bytes⟩ := u
  obtain ⟨hlen, hlt⟩ := h
  -- with the sixteen bytes named, the text is a fixed list of 36 characters
  match bytes, hlen, hlt with
  | [b0, b1, b2, b3, b4, b5, b6, b7, b8, b9, b10, b11, b12, b13, b14, b15], _, hlt =>
    simp only [List.mem_cons, List.not_mem_nil, or_false, forall_eq_or_imp, forall_eq] at hlt
    obtain ⟨h0, h1, h2, h3, h4, h5, h6, h7, h8, h9, h10, h11, h12, h13, h14, h15⟩ := hlt
    simp only [parse, render_size]
    simp [ofHyphenated, render, hexByte_eq, String.toList_append, hexDigit_mod_ne, ofSimple,
      bytesOfHex, hexValue_hexDigit_mod, byte_of_digits, Option.filter, *]

theorem decode_nodeAt {src : Source} {i : Nat} {u : Uuid} (h : u.Valid) :
    Uuid.decode src (nodeAt (.str u.render) i) = .ok u := by
  simp [Uuid.decode, decodeParsed, nodeAt, parse_render h]

end Uuid

/-! ## Frames -/

/-- What a device frame holds that the wire carries: a sequence number of 64 bits, an
identifier of sixteen bytes, payloads that leave their frame room to nest. -/
def DeviceFrame.OnWire : DeviceFrame → Prop
  | .hello _ => True
  | .event e => e.seq < 2 ^ 64 ∧ Payload e.payload
  | .reply r => r.id.Valid ∧ Payload r.payload

/-- What a host frame holds that the wire carries: a version of 32 bits, an identifier of
sixteen bytes, a payload that leaves its frame room to nest. -/
def HostFrame.OnWire : HostFrame → Prop
  | .hello h => h.version < 2 ^ 32
  | .request r => r.id.Valid ∧ Payload r.payload


/-- The members of a device hello after its tag decode as the hello, each optional member
given or left out. -/
theorem hello_members_decode (src : Source) (h : DeviceHello) (p : Nat) :
    Record.decode (DeviceFrame.hello <$> DeviceHello.record) "struct DeviceHello" src
      (.obj (memberNodesAt (DeviceFrame.hello h).members.tail p) 0 (.closed 0) none) =
      .ok (.hello h) := by
  obtain ⟨⟨id⟩, name, firmware⟩ := h
  cases name <;> cases firmware <;>
    simp [DeviceFrame.members, optionalMember, memberNodesAt, nodeAt, Record.decode,
      Record.scanMembers, DeviceHello.record, Functor.map, Seq.seq, Record.field, Except.map, bind,
      Except.bind, pure, Except.pure, List.lookup_cons, List.lookup_nil, DeviceId.decode,
      decodeString, decodeOption]

theorem event_members_decode (src : Source) (e : EventFrame) (p : Nat) (hseq : e.seq < 2 ^ 64)
    (hpay : OnWire e.payload) :
    Record.decode (DeviceFrame.event <$> EventFrame.record) "struct EventFrame" src
      (.obj (memberNodesAt (DeviceFrame.event e).members.tail p) 0 (.closed 0) none) =
      .ok (.event e) := by
  have hu : ∀ i, decodeU64 src (nodeAt (.num (.nat e.seq)) i) = .ok e.seq := fun _ =>
    decodeUnsigned_nodeAt (by simp only [Nat.pow_eq]; omega)
  simp [DeviceFrame.members, memberNodesAt, Json.ofNat, Record.decode,
    Record.scanMembers, EventFrame.record, Functor.map, Seq.seq, Record.field, Except.map, bind,
    Except.bind, pure, Except.pure, List.lookup_cons, List.lookup_nil, decodeString_nodeAt, hu,
    decodeJson_nodeAt hpay]

theorem reply_members_decode (src : Source) (r : Reply) (p : Nat) (hid : r.id.Valid)
    (hpay : OnWire r.payload) :
    Record.decode (DeviceFrame.reply <$> Reply.record) "struct ReplyFrame" src
      (.obj (memberNodesAt (DeviceFrame.reply r).members.tail p) 0 (.closed 0) none) =
      .ok (.reply r) := by
  obtain ⟨id, ok, payload, error⟩ := r
  cases error <;>
    simp [DeviceFrame.members, optionalMember, memberNodesAt, Record.decode,
      Record.scanMembers, Reply.record, Functor.map, Seq.seq, Record.field, Except.map, bind,
      Except.bind, pure, Except.pure, List.lookup_cons, List.lookup_nil, Uuid.decode_nodeAt hid,
      decodeBool_nodeAt, decodeJson_nodeAt hpay, decodeOption_nodeAt]

theorem hostHello_members_decode (src : Source) (h : HostHello) (p : Nat)
    (hv : h.version < 2 ^ 32) :
    Record.decode (HostFrame.hello <$> HostHello.record) "struct HostHello" src
      (.obj (memberNodesAt (HostFrame.hello h).members.tail p) 0 (.closed 0) none) =
      .ok (.hello h) := by
  have hu : ∀ i, decodeU32 src (nodeAt (.num (.nat h.version)) i) = .ok h.version := fun _ =>
    decodeUnsigned_nodeAt (by simp only [Nat.pow_eq]; omega)
  simp [HostFrame.members, memberNodesAt, Json.ofNat, Record.decode,
    Record.scanMembers, HostHello.record, Functor.map, Seq.seq, Record.field, Except.map, bind,
    Except.bind, pure, Except.pure, List.lookup_cons, List.lookup_nil, decodeString_nodeAt, hu]

theorem request_members_decode (src : Source) (r : RequestFrame) (p : Nat) (hid : r.id.Valid)
    (hpay : OnWire r.payload) :
    Record.decode (HostFrame.request <$> RequestFrame.record) "struct RequestFrame" src
      (.obj (memberNodesAt (HostFrame.request r).members.tail p) 0 (.closed 0) none) =
      .ok (.request r) := by
  simp [HostFrame.members, memberNodesAt, Record.decode,
    Record.scanMembers, RequestFrame.record, Functor.map, Seq.seq, Record.field, Except.map, bind,
    Except.bind, pure, Except.pure, List.lookup_cons, List.lookup_nil, Uuid.decode_nodeAt hid,
    decodeString_nodeAt, decodeJson_nodeAt hpay]

theorem mem_optionalMember {key : String} {s : Option String} {kv : String × Json}
    (h : kv ∈ optionalMember key s) : kv.1 = key ∧ Payload kv.2 := by
  cases s with
  | none => simp [optionalMember] at h
  | some s =>
    simp only [optionalMember, List.mem_singleton] at h
    exact h ▸ ⟨rfl, Payload.str s⟩

theorem member_untagged {key tag : String} {v : Json} (hne : key ≠ tag) (hv : Payload v) :
    (key, v).1 ≠ tag ∧ Payload (key, v).2 :=
  ⟨hne, hv⟩

theorem optionalMember_untagged {key tag : String} {s : Option String} {kv : String × Json}
    (hne : key ≠ tag) (h : kv ∈ optionalMember key s) : kv.1 ≠ tag ∧ Payload kv.2 := by
  obtain ⟨hk, hp⟩ := mem_optionalMember h
  exact ⟨hk ▸ hne, hp⟩

theorem DeviceFrame.encode_eq (f : DeviceFrame) : f.encode = compact (.obj f.members) := by
  simp only [DeviceFrame.encode, renderMembers, compact_obj]

theorem HostFrame.encode_eq (f : HostFrame) : f.encode = compact (.obj f.members) := by
  simp only [HostFrame.encode, renderMembers, compact_obj]

theorem DeviceFrame.decode_encode {f : DeviceFrame} (hf : f.OnWire) :
    decodeText DeviceFrame.decode f.encode = .ok f := by
  rw [DeviceFrame.encode_eq]
  cases f with
  | hello h =>
    refine decodeText_tagged 0 (by rfl) (by rfl) ?_ ?_
    · exact fun src p => hello_members_decode src h p
    intro kv hkv
    simp only [List.append_eq, List.mem_append, List.mem_singleton] at hkv
    rcases hkv with (rfl | hkv) | hkv
    · exact member_untagged (by decide) (Payload.str _)
    · exact optionalMember_untagged (by decide) hkv
    · exact optionalMember_untagged (by decide) hkv
  | event e =>
    obtain ⟨hseq, hpay⟩ := hf
    refine decodeText_tagged 1 (by rfl) (by rfl) ?_ ?_
    · exact fun src p => event_members_decode src e p hseq hpay.1
    intro kv hkv
    simp only [List.mem_cons, List.not_mem_nil, or_false] at hkv
    rcases hkv with rfl | rfl | rfl
    · exact member_untagged (by decide) (Payload.str _)
    · exact member_untagged (by decide) (Payload.nat hseq)
    · exact member_untagged (by decide) hpay
  | reply r =>
    obtain ⟨hid, hpay⟩ := hf
    refine decodeText_tagged 2 (by rfl) (by rfl) ?_ ?_
    · exact fun src p => reply_members_decode src r p hid hpay.1
    intro kv hkv
    simp only [List.append_eq, List.mem_append, List.mem_cons, List.not_mem_nil, or_false] at hkv
    rcases hkv with (rfl | rfl | rfl) | hkv
    · exact member_untagged (by decide) (Payload.str _)
    · exact member_untagged (by decide) (Payload.bool _)
    · exact member_untagged (by decide) hpay
    · exact optionalMember_untagged (by decide) hkv

theorem HostFrame.decode_encode {f : HostFrame} (hf : f.OnWire) :
    decodeText HostFrame.decode f.encode = .ok f := by
  rw [HostFrame.encode_eq]
  cases f with
  | hello h =>
    refine decodeText_tagged 0 (by rfl) (by rfl) ?_ ?_
    · exact fun src p => hostHello_members_decode src h p hf
    intro kv hkv
    simp only [List.mem_cons, List.not_mem_nil, or_false] at hkv
    rcases hkv with rfl | rfl
    · exact member_untagged (by decide) (Payload.str _)
    · exact member_untagged (by decide)
        (Payload.nat (Nat.lt_trans (show h.version < 2 ^ 32 from hf) (by decide)))
  | request r =>
    obtain ⟨hid, hpay⟩ := hf
    refine decodeText_tagged 1 (by rfl) (by rfl) ?_ ?_
    · exact fun src p => request_members_decode src r p hid hpay.1
    intro kv hkv
    simp only [List.mem_cons, List.not_mem_nil, or_false] at hkv
    rcases hkv with rfl | rfl | rfl
    · exact member_untagged (by decide) (Payload.str _)
    · exact member_untagged (by decide) (Payload.str _)
    · exact member_untagged (by decide) hpay

/-- A frame the wire carries reads back from its own text: a device frame is decoded as
itself when its text fits the limit and refused for its length otherwise; a host frame is
decoded as itself. -/
theorem frame_codec_round_trip :
    (∀ f : DeviceFrame, f.OnWire →
      DeviceFrame.ofText f.encode = if f.encode.utf8ByteSize ≤ maxFrameBytes then .ok f
        else .error (.tooLarge f.encode.utf8ByteSize)) ∧
    ∀ h : HostFrame, h.OnWire → HostFrame.ofText h.encode = .ok h := by
  constructor
  · intro f hf
    by_cases hsize : f.encode.utf8ByteSize ≤ maxFrameBytes
    · rw [if_pos hsize, DeviceFrame.ofText, if_neg (Nat.not_lt.mpr hsize),
        DeviceFrame.decode_encode hf]
      rfl
    · rw [if_neg hsize, DeviceFrame.ofText, if_pos (Nat.lt_of_not_le hsize)]
  · intro h hh
    rw [HostFrame.ofText, HostFrame.decode_encode hh]
    rfl

theorem small_frames_read_back :
    DeviceFrame.ofText (DeviceFrame.event ⟨"t", 1, .null⟩).encode =
        .ok (.event ⟨"t", 1, .null⟩) ∧
      HostFrame.ofText (HostFrame.hello ⟨"cli", 1⟩).encode = .ok (.hello ⟨"cli", 1⟩) := by
  refine ⟨?_, frame_codec_round_trip.2 (.hello ⟨"cli", 1⟩) (show 1 < 2 ^ 32 by decide)⟩
  rw [frame_codec_round_trip.1 (.event ⟨"t", 1, .null⟩) ⟨by decide, trivial, by decide⟩,
    if_pos (by decide +kernel)]

/-- A payload of 127 nested sequences fits the limit, but its frame nests deeper than the
reader allows and is refused. -/
theorem deep_payload_refused :
    let f := DeviceFrame.event ⟨"t", 1, Nat.repeat (fun j => Json.arr [j]) 126 (.arr [])⟩
    f.encode.utf8ByteSize ≤ maxFrameBytes ∧ DeviceFrame.ofText f.encode ≠ .ok f := by
  intro f
  refine ⟨by decide +kernel, fun h => ?_⟩
  have hrefused : (DeviceFrame.ofText f.encode).toBool = false := by decide +kernel
  rw [h] at hrefused
  cases hrefused

end Tether
