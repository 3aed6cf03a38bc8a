import Mathlib
import Tether.Proofs.JsonText
/-!
# Proofs.JsonReadBack — compact text reads back as the value written

Reading the compact text of a value gives a node whose offsets are those the writer put its
pieces at: `nodeAt j i` is that node for a value written at offset `i`, and
`readsBackAt` says the reader makes exactly it, provided every number of the value is one
the wire carries (`Number.OnWire`) and the value nests no deeper than the reader allows.
The proof runs on fuel: one lemma per kind of value, and one per run of items or members,
each reading the next piece where the previous one ended.

A value whose objects have their keys in ascending order, as the wire's objects do, is
then the value of its node (`toJson_nodeAt`): reading sorts an object's members, and
sorted members stay as they are.
-/

namespace Tether.Json

set_option autoImplicit false

/-! ## Values the wire carries -/

/-- A number reads back from its own text: read alone, that text is the number, whole. -/
def Number.ReadsBack (n : Number) : Prop :=
  (Document.read n.render).root = .num n 0 n.render.utf8ByteSize

/-- A number as the wire carries it: an unsigned or a negative 64-bit integer, or a double
that reads back from its own text. -/
def Number.OnWire : Number → Prop
  | .nat n => n < 2 ^ 64
  | .neg n => -2 ^ 63 ≤ n ∧ n < 0
  | .float f => (Number.float f).ReadsBack

mutual
/-- `p` holds at a value and at every value inside it. -/
def All (p : Json → Prop) : Json → Prop
  | .arr items => p (.arr items) ∧ AllItems p items
  | .obj fs => p (.obj fs) ∧ AllFields p fs
  | j => p j

/-- `All` at every item. -/
def AllItems (p : Json → Prop) : List Json → Prop
  | [] => True
  | j :: rest => All p j ∧ AllItems p rest

/-- `All` at the value of every member. -/
def AllFields (p : Json → Prop) : List (String × Json) → Prop
  | [] => True
  | (_, j) :: rest => All p j ∧ AllFields p rest
end

mutual
/-- How many containers deep a value nests; a scalar nests none. -/
def nesting : Json → Nat
  | .arr items => nestingItems items + 1
  | .obj fs => nestingFields fs + 1
  | _ => 0

/-- The deepest nesting of the items. -/
def nestingItems : List Json → Nat
  | [] => 0
  | j :: rest => max (nesting j) (nestingItems rest)

/-- The deepest nesting of the members' values. -/
def nestingFields : List (String × Json) → Nat
  | [] => 0
  | (_, j) :: rest => max (nesting j) (nestingFields rest)
end

/-- A number, where the value is one, that the wire carries. -/
def NumberOnWire : Json → Prop
  | .num n => n.OnWire
  | _ => True

/-- What the wire asks of one value: a number it carries, and an object's keys strictly
ascending, as an object of the wire keeps them. -/
def OnWireAt : Json → Prop
  | .num n => n.OnWire
  | .obj fs => (fs.map Prod.fst).Pairwise (· < ·)
  | _ => True

/-- A value as the wire carries it. -/
def OnWire (j : Json) : Prop := All OnWireAt j

section Mono

variable {p q : Json → Prop}

mutual
theorem All.mono (hpq : ∀ j, p j → q j) : ∀ j : Json, All p j → All q j
  | .null, h => hpq _ h
  | .bool _, h => hpq _ h
  | .num _, h => hpq _ h
  | .str _, h => hpq _ h
  | .arr items, h => ⟨hpq _ h.1, AllItems.mono hpq items h.2⟩
  | .obj fs, h => ⟨hpq _ h.1, AllFields.mono hpq fs h.2⟩

theorem AllItems.mono (hpq : ∀ j, p j → q j) : ∀ items : List Json, AllItems p items → AllItems q items
  | [], _ => trivial
  | j :: rest, h => ⟨All.mono hpq j h.1, AllItems.mono hpq rest h.2⟩

theorem AllFields.mono (hpq : ∀ j, p j → q j) :
    ∀ fs : List (String × Json), AllFields p fs → AllFields q fs
  | [], _ => trivial
  | (_, j) :: rest, h => ⟨All.mono hpq j h.1, AllFields.mono hpq rest h.2⟩
end

end Mono

theorem All.self {p : Json → Prop} {j : Json} (h : All p j) : p j := by
  cases j <;> simp only [All] at h <;> first | exact h | exact h.1

/-- The numbers of a value the wire carries are on the wire. -/
theorem OnWire.numbers {j : Json} (h : OnWire j) : All NumberOnWire j :=
  All.mono (fun j hj => by cases j <;> first | exact hj | trivial) j h

/-! ## Where the pieces of written text stand -/

/-- Items after the first, each after its comma. -/
def itemsAfter (items : List Json) : String := String.join (items.map fun j => "," ++ compact j)

/-- Members after the first, each after its comma. -/
def membersAfter (fs : List (String × Json)) : String :=
  String.join (fs.map fun kv => "," ++ quote kv.1 ++ ":" ++ compact kv.2)

mutual
/-- The node the reader makes of the compact text of a value written at offset `i`. -/
def nodeAt : Json → Nat → Node
  | .null, i => .null i (i + (compact .null).utf8ByteSize)
  | .bool b, i => .bool b i (i + (compact (.bool b)).utf8ByteSize)
  | .num n, i => .num n i (i + n.render.utf8ByteSize)
  | .str s, i => .str s i (i + (quote s).utf8ByteSize)
  | .arr items, i =>
    .arr (nodesAt items (i + 1)) i (.closed (i + (compact (.arr items)).utf8ByteSize)) none
  | .obj fs, i =>
    .obj (memberNodesAt fs (i + 1)) i (.closed (i + (compact (.obj fs)).utf8ByteSize)) none

/-- The nodes of items written from `i`, a comma after each. -/
def nodesAt : List Json → Nat → List Node
  | [], _ => []
  | j :: rest, i => nodeAt j i :: nodesAt rest (i + (compact j).utf8ByteSize + 1)

/-- The members of an object written from `i`: key, offset after the key, value's node. -/
def memberNodesAt : List (String × Json) → Nat → List (String × Nat × Node)
  | [], _ => []
  | (k, j) :: rest, i =>
    (k, i + (quote k).utf8ByteSize, nodeAt j (i + (quote k).utf8ByteSize + 1)) ::
      memberNodesAt rest (i + (quote k).utf8ByteSize + 1 + (compact j).utf8ByteSize + 1)
end

theorem compact_arr (items : List Json) : compact (.arr items) = "[" ++ compactItems items ++ "]" := by
  simp only [compact]

theorem compact_obj (fs : List (String × Json)) :
    compact (.obj fs) = "\x7b" ++ compactFields fs ++ "\x7d" := by
  simp only [compact]

theorem compactItems_cons (j : Json) (rest : List Json) :
    compactItems (j :: rest) = compact j ++ itemsAfter rest := by
  induction rest generalizing j with
  | nil => simp [compactItems, itemsAfter]
  | cons k rest ih =>
    simp only [compactItems] at ih ⊢
    rw [ih k]
    simp [itemsAfter, String.append_assoc]

theorem compactFields_cons (k : String) (j : Json) (rest : List (String × Json)) :
    compactFields ((k, j) :: rest) = quote k ++ ":" ++ compact j ++ membersAfter rest := by
  induction rest generalizing k j with
  | nil => simp [compactFields, membersAfter]
  | cons kv rest ih =>
    obtain ⟨k', j'⟩ := kv
    simp only [compactFields] at ih ⊢
    rw [ih k' j']
    simp [membersAfter, String.append_assoc]

theorem itemsAfter_cons (j : Json) (rest : List Json) :
    itemsAfter (j :: rest) = "," ++ compact j ++ itemsAfter rest := by
  simp [itemsAfter, String.append_assoc]

theorem membersAfter_cons (k : String) (j : Json) (rest : List (String × Json)) :
    membersAfter ((k, j) :: rest) = "," ++ quote k ++ ":" ++ compact j ++ membersAfter rest := by
  simp [membersAfter, String.append_assoc]

theorem resumeAt_nodeAt (j : Json) (i : Nat) :
    (nodeAt j i).resumeAt = some (i + (compact j).utf8ByteSize) := by
  cases j <;> simp [nodeAt, Node.resumeAt, compact]

/-- The compact text of `j` stands in `t` at `i`, followed by the end or a closing byte. -/
structure WrittenAt (t : Text) (i : Nat) (j : Json) : Prop where
  spells : t.Spells i (compact j)
  closes : t.Closes (i + (compact j).utf8ByteSize)

/-- Reading with `fuel` gives back the node of every value written in fewer bytes, numbers
on the wire, nested no deeper than the reader allows. -/
def ReadsBackAt (t : Text) (fuel : Nat) : Prop :=
  ∀ (j : Json) (depth i : Nat), All NumberOnWire j → depth + nesting j ≤ depthLimit →
    WrittenAt t i j → (compact j).utf8ByteSize < fuel → readValue t fuel depth i = nodeAt j i

/-! ## Reading one value -/

section Dispatch

open Text

variable {t : Text} {i : Nat}

theorem readValue_null {f d : Nat} (h : t.Spells i (compact .null)) :
    readValue t (f + 1) d i = nodeAt .null i := by
  obtain ⟨hb, hw⟩ := readWord_of_spells (b := 110) (w := [117, 108, 108]) rfl h
  rw [readValue, skipBlank_of_some hb (by decide), hb]
  simp [hw, nodeAt, compact, show "null".utf8ByteSize = 4 from rfl]

theorem readValue_bool {f d : Nat} (b : Bool) (h : t.Spells i (compact (.bool b))) :
    readValue t (f + 1) d i = nodeAt (.bool b) i := by
  cases b with
  | true =>
    obtain ⟨hb, hw⟩ := readWord_of_spells (b := 116) (w := [114, 117, 101]) rfl h
    rw [readValue, skipBlank_of_some hb (by decide), hb]
    simp [hw, nodeAt, compact, show "true".utf8ByteSize = 4 from rfl]
  | false =>
    obtain ⟨hb, hw⟩ := readWord_of_spells (b := 102) (w := [97, 108, 115, 101]) rfl h
    rw [readValue, skipBlank_of_some hb (by decide), hb]
    simp [hw, nodeAt, compact, show "false".utf8ByteSize = 5 from rfl]

theorem readValue_str {f d : Nat} {s : String} (h : t.Spells i (quote s)) :
    readValue t (f + 1) d i = nodeAt (.str s) i := by
  have hb := get?_of_spells_quote h
  rw [readValue, skipBlank_of_some hb (by decide), hb]
  simp [readString_quote h, nodeAt, show isDigitByte 34 = false by decide]

theorem readValue_arr {f d : Nat} (hd : d < depthLimit) (hb : t.get? i = some 91) :
    readValue t (f + 1) d i = readItems t f (d + 1) i [] true (i + 1) := by
  rw [readValue, skipBlank_of_some hb (by decide), hb]
  simp [Nat.not_le.mpr hd, show isDigitByte 91 = false by decide]

theorem readValue_obj {f d : Nat} (hd : d < depthLimit) (hb : t.get? i = some 123) :
    readValue t (f + 1) d i = readMembers t f (d + 1) i [] true (i + 1) := by
  rw [readValue, skipBlank_of_some hb (by decide), hb]
  simp [Nat.not_le.mpr hd, show isDigitByte 123 = false by decide]

theorem readItems_ne_num : ∀ (f d start : Nat) (acc : List Node) (first : Bool) (k : Nat)
    (n : Number) (s e : Nat), readItems t f d start acc first k ≠ .num n s e := by
  intro f
  induction f with
  | zero => intro d start acc first k n s e h; rw [readItems] at h; cases h
  | succ f ih =>
    intro d start acc first k n s e h
    rw [readItems] at h
    dsimp only at h
    repeat' split at h
    all_goals first | cases h | exact ih _ _ _ _ _ _ _ _ h

theorem readMembers_ne_num : ∀ (f d start : Nat) (acc : List (String × Nat × Node)) (first : Bool)
    (k : Nat) (n : Number) (s e : Nat), readMembers t f d start acc first k ≠ .num n s e := by
  intro f
  induction f with
  | zero => intro d start acc first k n s e h; rw [readMembers] at h; cases h
  | succ f ih =>
    intro d start acc first k n s e h
    rw [readMembers] at h
    dsimp only at h
    repeat' split at h
    all_goals first | cases h | exact ih _ _ _ _ _ _ _ _ h

theorem sign_byte {b : UInt8} (hb : b = 45 ∨ isDigitByte b = true) :
    b ≠ 110 ∧ b ≠ 116 ∧ b ≠ 102 ∧ isBlank b = false := by
  rcases hb with rfl | hd
  · decide
  · simp only [isDigitByte, Bool.and_eq_true, decide_eq_true_eq] at hd
    refine ⟨?_, ?_, ?_, ?_⟩
    any_goals (rintro rfl; revert hd; decide)
    simp only [isBlank, Bool.or_eq_false_iff, beq_eq_false_iff_ne, ne_eq]
    repeat' constructor
    all_goals (rintro rfl; revert hd; decide)

/-- A number node comes only from the number branch of the reader. -/
theorem readValue_eq_num {f d k s e : Nat} {n : Number} (h : readValue t (f + 1) d k = .num n s e) :
    s = t.skipBlank k ∧ ∃ b, t.get? s = some b ∧ (b = 45 ∨ isDigitByte b = true) ∧
      readNumber t (decide (b ≠ 45)) (if b = 45 then s + 1 else s) = .ok (n, e) := by
  rw [readValue] at h
  generalize hs : t.skipBlank k = s' at h
  cases hb : t.get? s' with
  | none => rw [hb] at h; cases h
  | some b =>
    rw [hb] at h
    dsimp only at h
    by_cases hnum : b = 45 ∨ isDigitByte b = true
    · -- the number branch: its result is the node
      obtain ⟨h110, h116, h102, -⟩ := sign_byte hnum
      simp only [h110, h116, h102, hnum, ↓reduceIte] at h
      cases hr : readNumber t (decide (b ≠ 45)) (if b = 45 then s' + 1 else s') with
      | error e => rw [hr] at h; simp [brokenAt] at h
      | ok r =>
        obtain ⟨n', j⟩ := r
        rw [hr] at h
        cases h
        exact ⟨by subst hs; rfl, b, hb, hnum, hr⟩
    · -- every other branch makes another kind of node
      exfalso
      repeat' split at h
      all_goals first
        | cases h
        | simp [brokenAt] at h
        | exact readItems_ne_num _ _ _ _ _ _ _ _ _ h
        | exact readMembers_ne_num _ _ _ _ _ _ _ _ _ h

theorem first_digit_of_spells {m : Nat} (h : t.Spells i (toString m)) :
    ∃ b, t.get? i = some b ∧ isDigitByte b = true := by
  rw [Nat.toString_eq_ofList_toDigits] at h
  have hascii := toDigits_ascii m
  cases hds : Nat.toDigits 10 m with
  | nil => exact absurd hds Nat.toDigits_ne_nil
  | cons d rest =>
    rw [hds] at h hascii
    obtain ⟨hdigit, hd⟩ := hascii d (by simp)
    rw [spells_ofList_cons, spells_singleton_of_lt hd] at h
    obtain ⟨hlo, hhi⟩ := isDigit_bounds hdigit
    have hbyte : (d.toNat.toUInt8).toNat = d.toNat := UInt8.toNat_ofNat_of_lt' (by rw [UInt8.size]; omega)
    refine ⟨_, h.1, ?_⟩
    simp only [isDigitByte, Bool.and_eq_true, decide_eq_true_eq, UInt8.le_iff_toNat_le, hbyte]
    exact ⟨hlo, hhi⟩

/-- A number the wire carries reads back where it is written, its first byte a minus sign or
a digit. -/
theorem Number.OnWire.reads {n : Number} (hn : n.OnWire) (h : t.Spells i n.render)
    (hc : t.Closes (i + n.render.utf8ByteSize)) :
    ∃ b, t.get? i = some b ∧ (b = 45 ∨ isDigitByte b = true) ∧
      readNumber t (decide (b ≠ 45)) (if b = 45 then i + 1 else i) =
        .ok (n, i + n.render.utf8ByteSize) := by
  cases n with
  | nat m =>
    obtain ⟨b, hb, hd⟩ := first_digit_of_spells h
    have h45 : b ≠ 45 := by rintro rfl; revert hd; decide
    refine ⟨b, hb, .inr hd, ?_⟩
    simp only [h45, ne_eq, not_false_eq_true, decide_true, ↓reduceIte]
    exact readNumber_nat hn h hc
  | neg m =>
    obtain ⟨hb, hr⟩ := readNumber_neg hn.1 hn.2 h hc
    refine ⟨45, hb, .inl rfl, ?_⟩
    simp only [ne_eq, not_true_eq_false, decide_false, ↓reduceIte]
    exact hr
  | float x =>
    -- read alone, its text is the number; the number reader reads it the same here
    have e := h.embeds hc
    unfold Number.OnWire Number.ReadsBack Document.read at hn
    obtain ⟨-, b, hb, hsign, hr⟩ := readValue_eq_num (f := 2 * _ + 3) hn
    have hlt := lt_size_of_get? hb
    rcases e.get (p := 0) (Nat.zero_le _) with ⟨b', hu, ht⟩ | ⟨hu, -⟩
    · rw [hb] at hu
      cases hu
      refine ⟨b, by simpa using ht, hsign, ?_⟩
      have hread := e.readNumber_ok (by split <;> omega) hr
      by_cases h45 : b = 45
      · simpa [h45] using hread
      · simpa [h45] using hread
    · rw [hb] at hu
      cases hu

theorem readValue_num {f d : Nat} {n : Number} (hn : n.OnWire) (h : t.Spells i n.render)
    (hc : t.Closes (i + n.render.utf8ByteSize)) : readValue t (f + 1) d i = nodeAt (.num n) i := by
  obtain ⟨b, hb, hsign, hr⟩ := hn.reads h hc
  obtain ⟨h110, h116, h102, hnb⟩ := sign_byte hsign
  rw [readValue, skipBlank_of_some hb hnb, hb]
  simp only [h110, h116, h102, hsign, ↓reduceIte, hr, nodeAt]

/-! ## Reading the items of an array and the members of an object -/

theorem readItems_close {f d start k : Nat} {acc : List Node} {first : Bool}
    (hk : t.get? k = some 93) :
    readItems t (f + 1) d start acc first k = .arr acc.reverse start (.closed (k + 1)) none := by
  rw [readItems, skipBlank_of_some hk (by decide), hk]
  rfl

theorem readItems_first {f d start k k' : Nat} {acc : List Node} {b : UInt8} {n : Node}
    (hb : t.get? k = some b) (hb93 : b ≠ 93) (hnb : isBlank b = false)
    (hv : readValue t f d k = n) (hr : n.resumeAt = some k') :
    readItems t (f + 1) d start acc true k = readItems t f d start (n :: acc) false k' := by
  rw [readItems, skipBlank_of_some hb hnb, hb]
  simp [hb, hv, hr]

theorem readItems_comma {f d start k k' : Nat} {acc : List Node} {b : UInt8} {n : Node}
    (hk : t.get? k = some 44) (hb : t.get? (k + 1) = some b) (hb93 : b ≠ 93)
    (hnb : isBlank b = false) (hv : readValue t f d (k + 1) = n) (hr : n.resumeAt = some k') :
    readItems t (f + 1) d start acc false k = readItems t f d start (n :: acc) false k' := by
  rw [readItems, skipBlank_of_some hk (by decide), hk]
  simp [skipBlank_of_some hb hnb, hb, hv, hr]

theorem readMembers_close {f d start k : Nat} {acc : List (String × Nat × Node)} {first : Bool}
    (hk : t.get? k = some 125) :
    readMembers t (f + 1) d start acc first k = .obj acc.reverse start (.closed (k + 1)) none := by
  rw [readMembers, skipBlank_of_some hk (by decide), hk]
  rfl

/-- The member at `k`: its quoted key, a colon, and a value whose node is `n`. -/
theorem readMembers_member {f d start k k' : Nat} {acc : List (String × Nat × Node)}
    {key : String} {n : Node} (hkey : t.Spells k (quote key))
    (hcolon : t.get? (k + (quote key).utf8ByteSize) = some 58)
    (hv : readValue t f d (k + (quote key).utf8ByteSize + 1) = n) (hr : n.resumeAt = some k') :
    readMembers t (f + 1) d start acc true k =
      readMembers t f d start ((key, k + (quote key).utf8ByteSize, n) :: acc) false k' := by
  have hq := get?_of_spells_quote hkey
  rw [readMembers, skipBlank_of_some hq (by decide), hq]
  simp [hq, readString_quote hkey, skipBlank_of_some hcolon (by decide), hcolon, hv, hr]

/-- What follows a run of items: a comma, or the closing bracket. -/
theorem after_items_byte {k : Nat} {rest : List Json} (h : t.Spells k (itemsAfter rest ++ "]")) :
    t.get? k = some 44 ∨ t.get? k = some 93 := by
  cases rest with
  | nil => exact .inr (get?_of_spells_char (c := ']') (s := "") (by decide) (by simpa [itemsAfter] using h))
  | cons x rest =>
    rw [itemsAfter_cons, String.append_assoc, String.append_assoc] at h
    exact .inl (get?_of_spells_char (c := ',') (by decide) h)

/-- What follows a run of members: a comma, or the closing brace. -/
theorem after_members_byte {k : Nat} {rest : List (String × Json)}
    (h : t.Spells k (membersAfter rest ++ "\x7d")) : t.get? k = some 44 ∨ t.get? k = some 125 := by
  cases rest with
  | nil =>
    exact .inr (get?_of_spells_char (c := '}') (s := "") (by decide) (by simpa [membersAfter] using h))
  | cons kv rest =>
    obtain ⟨key, v⟩ := kv
    rw [membersAfter_cons, String.append_assoc, String.append_assoc, String.append_assoc,
      String.append_assoc] at h
    exact .inl (get?_of_spells_char (c := ',') (by decide) h)

/-- The first byte of a written value opens it: never a blank, never a closing bracket. -/
theorem WrittenAt.first_byte {j : Json} (h : WrittenAt t i j) (hn : NumberOnWire j) :
    ∃ b, t.get? i = some b ∧ b ≠ 93 ∧ isBlank b = false := by
  have hs := h.spells
  cases j with
  | null => exact ⟨110, (readWord_of_spells (w := [117, 108, 108]) rfl hs).1, by decide, by decide⟩
  | bool b =>
    cases b with
    | true => exact ⟨116, (readWord_of_spells (w := [114, 117, 101]) rfl hs).1, by decide, by decide⟩
    | false =>
      exact ⟨102, (readWord_of_spells (w := [97, 108, 115, 101]) rfl hs).1, by decide, by decide⟩
  | num n =>
    obtain ⟨b, hb, hsign, -⟩ := Number.OnWire.reads hn hs h.closes
    obtain ⟨-, -, -, hnb⟩ := sign_byte hsign
    refine ⟨b, hb, ?_, hnb⟩
    rcases hsign with rfl | hd
    · decide
    · rintro rfl; revert hd; decide
  | str s' => exact ⟨34, get?_of_spells_quote hs, by decide, by decide⟩
  | arr items =>
    rw [compact_arr, String.append_assoc] at hs
    exact ⟨91, get?_of_spells_char (c := '[') (by decide) hs, by decide, by decide⟩
  | obj fs =>
    rw [compact_obj, String.append_assoc] at hs
    exact ⟨123, get?_of_spells_char (c := '{') (by decide) hs, by decide, by decide⟩

/-- The items after the first, read one by one after their commas up to the closing
bracket. -/
theorem readItems_after {d start : Nat} :
    ∀ (rest : List Json) (fuel i : Nat) (acc : List Node), (∀ f < fuel, ReadsBackAt t f) →
    AllItems NumberOnWire rest → d + nestingItems rest ≤ depthLimit →
    t.Spells i (itemsAfter rest ++ "]") → (itemsAfter rest ++ "]").utf8ByteSize ≤ fuel →
    readItems t fuel d start acc false i =
      .arr (acc.reverse ++ nodesAt rest (i + 1)) start
        (.closed (i + (itemsAfter rest).utf8ByteSize + 1)) none := by
  intro rest
  induction rest with
  | nil =>
    intro fuel i acc _ _ _ h hsize
    have hb : t.get? i = some 93 :=
      get?_of_spells_char (c := ']') (s := "") (by decide) (by simpa [itemsAfter] using h)
    obtain ⟨f, rfl⟩ : ∃ f, fuel = f + 1 :=
      ⟨fuel - 1, by simp [itemsAfter, show "]".utf8ByteSize = 1 from rfl] at hsize; omega⟩
    rw [readItems_close hb]
    simp [nodesAt, itemsAfter]
  | cons x rest ih =>
    intro fuel i acc hv hall hdepth h hsize
    simp only [AllItems] at hall
    obtain ⟨hx, hrest⟩ := hall
    simp only [nestingItems] at hdepth
    rw [itemsAfter_cons, String.append_assoc, String.append_assoc, spells_append, spells_append,
      show ",".utf8ByteSize = 1 from rfl] at h
    obtain ⟨hcomma, hxs, hts⟩ := h
    have hk : t.get? i = some 44 := by
      simpa using (spells_iff_bytes (l := [44]) rfl).mp hcomma 0 (by decide)
    simp only [itemsAfter_cons, String.utf8ByteSize_append, show ",".utf8ByteSize = 1 from rfl,
      show "]".utf8ByteSize = 1 from rfl] at hsize ⊢
    obtain ⟨f, rfl⟩ : ∃ f, fuel = f + 1 := ⟨fuel - 1, by omega⟩
    have hw : WrittenAt t (i + 1) x := by
      refine ⟨hxs, ?_⟩
      rcases after_items_byte hts with hb | hb <;> simp [Text.Closes, hb]
    obtain ⟨b, hb, hb93, hnb⟩ := hw.first_byte hx.self
    have hread := hv f (by omega) x d (i + 1) hx (by omega) hw (by omega)
    rw [readItems_comma hk hb hb93 hnb hread (resumeAt_nodeAt x (i + 1)),
      ih f _ _ (fun f' hf' => hv f' (by omega)) hrest (by omega) hts
        (by simp only [String.utf8ByteSize_append, show "]".utf8ByteSize = 1 from rfl]; omega)]
    simp only [List.reverse_cons, List.append_assoc, List.singleton_append, nodesAt]
    congr 3
    omega

/-- The items of an array, from the first, read up to the closing bracket. -/
theorem readItems_written {d start : Nat} (items : List Json) (fuel i : Nat)
    (hv : ∀ f < fuel, ReadsBackAt t f) (hall : AllItems NumberOnWire items)
    (hdepth : d + nestingItems items ≤ depthLimit) (h : t.Spells i (compactItems items ++ "]"))
    (hsize : (compactItems items ++ "]").utf8ByteSize < fuel) :
    readItems t fuel d start [] true i =
      .arr (nodesAt items i) start (.closed (i + (compactItems items).utf8ByteSize + 1)) none := by
  have hclose : "]".utf8ByteSize = 1 := rfl
  cases items with
  | nil =>
    have hb : t.get? i = some 93 :=
      get?_of_spells_char (c := ']') (s := "") (by decide) (by simpa [compactItems] using h)
    obtain ⟨f, rfl⟩ : ∃ f, fuel = f + 1 :=
      ⟨fuel - 1, by simp [compactItems, hclose] at hsize; omega⟩
    rw [readItems_close hb]
    simp [nodesAt, compactItems]
  | cons x rest =>
    simp only [AllItems] at hall
    obtain ⟨hx, hrest⟩ := hall
    simp only [nestingItems] at hdepth
    rw [compactItems_cons, String.append_assoc, spells_append] at h
    obtain ⟨hxs, hts⟩ := h
    simp only [compactItems_cons, String.utf8ByteSize_append, hclose] at hsize ⊢
    obtain ⟨f, rfl⟩ : ∃ f, fuel = f + 1 := ⟨fuel - 1, by omega⟩
    have hw : WrittenAt t i x := by
      refine ⟨hxs, ?_⟩
      rcases after_items_byte hts with hb | hb <;> simp [Text.Closes, hb]
    obtain ⟨b, hb, hb93, hnb⟩ := hw.first_byte hx.self
    have hread := hv f (by omega) x d i hx (by omega) hw (by omega)
    rw [readItems_first hb hb93 hnb hread (resumeAt_nodeAt x i),
      readItems_after rest f _ _ (fun f' hf' => hv f' (by omega)) hrest (by omega) hts
        (by simp only [String.utf8ByteSize_append, hclose]; omega)]
    simp only [List.reverse_cons, List.reverse_nil, List.nil_append, List.singleton_append, nodesAt]
    congr 2
    omega

theorem readMembers_comma {f d start k : Nat} {acc : List (String × Nat × Node)}
    (hk : t.get? k = some 44) (hq : t.get? (k + 1) = some 34) :
    readMembers t (f + 1) d start acc false k = readMembers t (f + 1) d start acc true (k + 1) := by
  rw [readMembers, readMembers, skipBlank_of_some hk (by decide), hk,
    skipBlank_of_some hq (by decide), hq]
  simp [hq]

/-- One member from its key: the key, the colon, and the value, up to the byte after it. -/
theorem readMembers_step {f d start k : Nat} {acc : List (String × Nat × Node)} {key : String}
    {v : Json} {rest : String} (hv : ReadsBackAt t f) (hall : All NumberOnWire v)
    (hdepth : d + nesting v ≤ depthLimit)
    (h : t.Spells k (quote key ++ (":" ++ (compact v ++ rest))))
    (hafter : t.get? (k + (quote key).utf8ByteSize + 1 + (compact v).utf8ByteSize) = some 44 ∨
      t.get? (k + (quote key).utf8ByteSize + 1 + (compact v).utf8ByteSize) = some 125)
    (hsize : (compact v).utf8ByteSize < f) :
    readMembers t (f + 1) d start acc true k =
      readMembers t f d start ((key, k + (quote key).utf8ByteSize,
        nodeAt v (k + (quote key).utf8ByteSize + 1)) :: acc) false
        (k + (quote key).utf8ByteSize + 1 + (compact v).utf8ByteSize) := by
  rw [spells_append, spells_append, spells_append, show ":".utf8ByteSize = 1 from rfl] at h
  obtain ⟨hkey, hcolon, hvs, -⟩ := h
  have hc : t.get? (k + (quote key).utf8ByteSize) = some 58 := by
    simpa using (spells_iff_bytes (l := [58]) rfl).mp hcolon 0 (by decide)
  have hw : WrittenAt t (k + (quote key).utf8ByteSize + 1) v := by
    refine ⟨hvs, ?_⟩
    rcases hafter with hb | hb <;> simp [Text.Closes, hb]
  exact readMembers_member hkey hc (hv v d _ hall hdepth hw hsize) (resumeAt_nodeAt v _)

/-- The members after the first, read one by one after their commas up to the closing
brace. -/
theorem readMembers_after {d start : Nat} :
    ∀ (rest : List (String × Json)) (fuel i : Nat) (acc : List (String × Nat × Node)),
    (∀ f < fuel, ReadsBackAt t f) → AllFields NumberOnWire rest →
    d + nestingFields rest ≤ depthLimit → t.Spells i (membersAfter rest ++ "\x7d") →
    (membersAfter rest ++ "\x7d").utf8ByteSize ≤ fuel →
    readMembers t fuel d start acc false i =
      .obj (acc.reverse ++ memberNodesAt rest (i + 1)) start
        (.closed (i + (membersAfter rest).utf8ByteSize + 1)) none := by
  have hclose : "\x7d".utf8ByteSize = 1 := rfl
  intro rest
  induction rest with
  | nil =>
    intro fuel i acc _ _ _ h hsize
    have hb : t.get? i = some 125 :=
      get?_of_spells_char (c := '}') (s := "") (by decide) (by simpa [membersAfter] using h)
    obtain ⟨f, rfl⟩ : ∃ f, fuel = f + 1 :=
      ⟨fuel - 1, by simp [membersAfter, hclose] at hsize; omega⟩
    rw [readMembers_close hb]
    simp [memberNodesAt, membersAfter]
  | cons kv rest ih =>
    obtain ⟨key, v⟩ := kv
    intro fuel i acc hv hall hdepth h hsize
    simp only [AllFields] at hall
    obtain ⟨hx, hrest⟩ := hall
    simp only [nestingFields] at hdepth
    rw [membersAfter_cons] at h hsize ⊢
    simp only [String.append_assoc] at h
    rw [spells_append, show ",".utf8ByteSize = 1 from rfl] at h
    obtain ⟨hcomma, hmember⟩ := h
    have hparts := hmember
    rw [spells_append, spells_append, spells_append, show ":".utf8ByteSize = 1 from rfl] at hparts
    obtain ⟨hkey, -, -, hts⟩ := hparts
    have hk : t.get? i = some 44 := by
      simpa using (spells_iff_bytes (l := [44]) rfl).mp hcomma 0 (by decide)
    simp only [String.utf8ByteSize_append, show ",".utf8ByteSize = 1 from rfl,
      show ":".utf8ByteSize = 1 from rfl, hclose] at hsize ⊢
    obtain ⟨f, rfl⟩ : ∃ f, fuel = f + 1 := ⟨fuel - 1, by omega⟩
    have hqsize := two_le_quote_size key
    rw [readMembers_comma hk (get?_of_spells_quote hkey),
      readMembers_step (hv f (by omega)) hx (by omega) hmember (after_members_byte hts) (by omega),
      ih f _ _ (fun f' hf' => hv f' (by omega)) hrest (by omega) hts
        (by simp only [String.utf8ByteSize_append, hclose]; omega)]
    simp only [List.reverse_cons, List.append_assoc, List.singleton_append, memberNodesAt]
    congr 3
    omega

/-- The members of an object, from the first, read up to the closing brace. -/
theorem readMembers_written {d start : Nat} (fs : List (String × Json)) (fuel i : Nat)
    (hv : ∀ f < fuel, ReadsBackAt t f) (hall : AllFields NumberOnWire fs)
    (hdepth : d + nestingFields fs ≤ depthLimit) (h : t.Spells i (compactFields fs ++ "\x7d"))
    (hsize : (compactFields fs ++ "\x7d").utf8ByteSize < fuel) :
    readMembers t fuel d start [] true i =
      .obj (memberNodesAt fs i) start (.closed (i + (compactFields fs).utf8ByteSize + 1)) none := by
  have hclose : "\x7d".utf8ByteSize = 1 := rfl
  cases fs with
  | nil =>
    have hb : t.get? i = some 125 :=
      get?_of_spells_char (c := '}') (s := "") (by decide) (by simpa [compactFields] using h)
    obtain ⟨f, rfl⟩ : ∃ f, fuel = f + 1 :=
      ⟨fuel - 1, by simp [compactFields, hclose] at hsize; omega⟩
    rw [readMembers_close hb]
    simp [memberNodesAt, compactFields]
  | cons kv rest =>
    obtain ⟨key, v⟩ := kv
    simp only [AllFields] at hall
    obtain ⟨hx, hrest⟩ := hall
    simp only [nestingFields] at hdepth
    rw [compactFields_cons] at h hsize ⊢
    simp only [String.append_assoc] at h
    have hparts := h
    rw [spells_append, spells_append, spells_append, show ":".utf8ByteSize = 1 from rfl] at hparts
    obtain ⟨-, -, -, hts⟩ := hparts
    simp only [String.utf8ByteSize_append, show ":".utf8ByteSize = 1 from rfl, hclose] at hsize ⊢
    obtain ⟨f, rfl⟩ : ∃ f, fuel = f + 1 := ⟨fuel - 1, by omega⟩
    rw [readMembers_step (hv f (by omega)) hx (by omega) h (after_members_byte hts) (by omega),
      readMembers_after rest f _ _ (fun f' hf' => hv f' (by omega)) hrest (by omega) hts
        (by simp only [String.utf8ByteSize_append, hclose]; omega)]
    simp only [List.reverse_cons, List.reverse_nil, List.nil_append, List.singleton_append,
      memberNodesAt]
    congr 2
    omega

/-- The compact text of every value whose numbers the wire carries, nested no deeper than
the reader allows, reads back as that value's node, given more fuel than its length. -/
theorem readsBackAt (fuel : Nat) : ReadsBackAt t fuel := by
  induction fuel using Nat.strong_induction_on with
  | _ fuel ih =>
    intro j d i hall hdepth hw hsize
    obtain ⟨f, rfl⟩ : ∃ f, fuel = f + 1 := ⟨fuel - 1, by omega⟩
    cases j with
    | null => exact readValue_null hw.spells
    | bool b => exact readValue_bool b hw.spells
    | num n => exact readValue_num hall.self hw.spells hw.closes
    | str s => exact readValue_str hw.spells
    | arr items =>
      -- the bracket, then the items read by `readItems_written`
      have hs := hw.spells
      rw [compact_arr, String.append_assoc, spells_append, show "[".utf8ByteSize = 1 from rfl]
        at hs
      obtain ⟨hopen, hbody⟩ := hs
      have hb : t.get? i = some 91 := by
        simpa using (spells_iff_bytes (l := [91]) rfl).mp hopen 0 (by decide)
      simp only [nesting] at hdepth
      simp only [All] at hall
      simp only [compact_arr, String.utf8ByteSize_append, show "[".utf8ByteSize = 1 from rfl,
        show "]".utf8ByteSize = 1 from rfl] at hsize
      rw [readValue_arr (by omega) hb, readItems_written items f (i + 1)
        (fun m hm => ih m (by omega)) hall.2 (by omega) hbody
        (by simp only [String.utf8ByteSize_append, show "]".utf8ByteSize = 1 from rfl]; omega)]
      simp only [nodeAt, compact_arr, String.utf8ByteSize_append,
        show "[".utf8ByteSize = 1 from rfl, show "]".utf8ByteSize = 1 from rfl]
      congr 2
      omega
    | obj fs =>
      -- the brace, then the members read by `readMembers_written`
      have hs := hw.spells
      rw [compact_obj, String.append_assoc, spells_append,
        show "\x7b".utf8ByteSize = 1 from rfl] at hs
      obtain ⟨hopen, hbody⟩ := hs
      have hb : t.get? i = some 123 := by
        simpa using (spells_iff_bytes (l := [123]) rfl).mp hopen 0 (by decide)
      simp only [nesting] at hdepth
      simp only [All] at hall
      simp only [compact_obj, String.utf8ByteSize_append, show "\x7b".utf8ByteSize = 1 from rfl,
        show "\x7d".utf8ByteSize = 1 from rfl] at hsize
      rw [readValue_obj (by omega) hb, readMembers_written fs f (i + 1)
        (fun m hm => ih m (by omega)) hall.2 (by omega) hbody
        (by simp only [String.utf8ByteSize_append, show "\x7d".utf8ByteSize = 1 from rfl]; omega)]
      simp only [nodeAt, compact_obj, String.utf8ByteSize_append,
        show "\x7b".utf8ByteSize = 1 from rfl, show "\x7d".utf8ByteSize = 1 from rfl]
      congr 2
      omega

end Dispatch

/-! ## Whole texts and their values -/

section Document

open Text

/-- A written value whose numbers the wire carries and which nests no deeper than the
reader allows reads back as its node, with nothing after it. -/
theorem read_compact {j : Json} (hall : All NumberOnWire j) (hdepth : nesting j ≤ depthLimit) :
    (Document.read (compact j)).root = nodeAt j 0 ∧ (Document.read (compact j)).trailing = none := by
  have hend : (⟨(compact j).toUTF8⟩ : Text).get? (compact j).utf8ByteSize = none :=
    get?_size ⟨(compact j).toUTF8⟩
  have hw : WrittenAt ⟨(compact j).toUTF8⟩ 0 j := ⟨spells_self _, by rw [Nat.zero_add]; exact .inl hend⟩
  have hroot : readValue ⟨(compact j).toUTF8⟩ (2 * (⟨(compact j).toUTF8⟩ : Text).size + 4) 0 0 =
      nodeAt j 0 :=
    readsBackAt _ j 0 0 hall (by omega) hw (by rw [size_ofString]; omega)
  refine ⟨hroot, ?_⟩
  simp only [Document.read, hroot, resumeAt_nodeAt, Nat.zero_add,
    skipBlank_of_get (t := ⟨(compact j).toUTF8⟩) (fun b hb => by rw [hend] at hb; cases hb)]
  rw [if_neg (by rw [size_ofString]; omega)]

end Document

/-! ## The value of a node -/

/-- A key above every key of a sorted member list goes at its end. -/
theorem insertField_of_lt (k : String) (v : Json) :
    ∀ acc : List (String × Json), (∀ kv ∈ acc, kv.1 < k) → insertField k v acc = acc ++ [(k, v)] := by
  intro acc
  induction acc with
  | nil => intro _; rfl
  | cons kv rest ih =>
    intro h
    obtain ⟨k', v'⟩ := kv
    have hlt : k' < k := h (k', v') (by simp)
    rw [insertField, if_neg (lt_asymm hlt), if_neg (ne_of_gt hlt),
      ih (fun kv hkv => h kv (by simp [hkv]))]
    rfl

theorem foldl_insertField (fs : List (String × Json)) :
    ∀ acc : List (String × Json), ((acc ++ fs).map Prod.fst).Pairwise (· < ·) →
      fs.foldl (fun acc kv => insertField kv.1 kv.2 acc) acc = acc ++ fs := by
  induction fs with
  | nil => intro acc _; simp
  | cons kv rest ih =>
    intro acc h
    have hlt : ∀ kv' ∈ acc, kv'.1 < kv.1 := by
      intro kv' hkv'
      rw [List.map_append, List.pairwise_append] at h
      exact h.2.2 _ (List.mem_map_of_mem hkv') _ (by simp)
    rw [List.foldl_cons, insertField_of_lt kv.1 kv.2 acc hlt, ih (acc ++ [(kv.1, kv.2)])
      (by simpa using h)]
    simp

/-- An object whose keys strictly ascend is its own sorted form. -/
theorem object_of_ascending {fs : List (String × Json)} (h : (fs.map Prod.fst).Pairwise (· < ·)) :
    Json.object fs = .obj fs := by
  rw [Json.object, foldl_insertField fs [] (by simpa using h), List.nil_append]

mutual
/-- The node of a value the wire carries shows that value. -/
theorem toJson_nodeAt : ∀ (j : Json) (i : Nat), OnWire j → (nodeAt j i).toJson = .ok j
  | .null, _, _ => rfl
  | .bool _, _, _ => rfl
  | .num _, _, _ => rfl
  | .str _, _, _ => rfl
  | .arr items, i, h => by
    rw [nodeAt, Node.toJson, itemsToJson_nodesAt items (i + 1) h.2]
    rfl
  | .obj fs, i, h => by
    rw [nodeAt, Node.toJson, membersToJson_memberNodesAt fs (i + 1) h.2]
    show Except.ok (Json.object fs) = _
    rw [object_of_ascending h.1]

theorem itemsToJson_nodesAt : ∀ (items : List Json) (i : Nat), AllItems OnWireAt items →
    Node.itemsToJson (nodesAt items i) = .ok items
  | [], _, _ => rfl
  | j :: rest, i, h => by
    rw [nodesAt, Node.itemsToJson, toJson_nodeAt j i h.1, itemsToJson_nodesAt rest _ h.2]
    rfl

theorem membersToJson_memberNodesAt : ∀ (fs : List (String × Json)) (i : Nat),
    AllFields OnWireAt fs → Node.membersToJson (memberNodesAt fs i) = .ok fs
  | [], _, _ => rfl
  | (k, j) :: rest, i, h => by
    rw [memberNodesAt, Node.membersToJson, toJson_nodeAt j _ h.1, membersToJson_memberNodesAt rest _ h.2]
    rfl
end

end Tether.Json
