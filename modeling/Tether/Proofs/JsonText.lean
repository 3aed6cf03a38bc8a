import Mathlib
import Tether.Json.Read
import Tether.Json.Write
/-!
# Proofs.JsonText — written JSON text, read back piece by piece

The reader works on bytes at offsets; the writer produces strings.  `Text.Spells t i s`
ties the two: the bytes of `s` stand in `t` from offset `i`.  Each lemma here reads back
one kind of written piece wherever it stands: a quoted string (`readString_quote`), a
natural number (`readNumber_nat`), a negative integer (`readNumber_neg`), a literal word
(`readWord_ok`).

A double is different: its shortest digits need not read back as the same double (the
reader rounds twice).  What is proved for it is locality: the number readers look only at
the number's bytes and the byte after it, so a number that reads back from a text of its
own reads back the same inside any text where a closing byte follows it
(`Text.Embeds.readNumber_ok`).
-/

namespace Tether.Json

set_option autoImplicit false

namespace Text

variable {t : Text} {i : Nat}

/-- The bytes of `s` stand in `t` from offset `i`. -/
def Spells (t : Text) (i : Nat) (s : String) : Prop :=
  ∀ k < s.utf8ByteSize, t.get? (i + k) = s.toByteArray[k]?

theorem getElem?_append_bytes {a b : ByteArray} {k : Nat} :
    (a ++ b)[k]? = if k < a.size then a[k]? else b[k - a.size]? := by
  split
  · rename_i hk
    rw [getElem?_pos (a ++ b) k (by rw [ByteArray.size_append]; omega), getElem?_pos a k hk,
      ByteArray.getElem_append_left hk]
  · rename_i hk
    by_cases hb : k - a.size < b.size
    · rw [getElem?_pos (a ++ b) k (by rw [ByteArray.size_append]; omega), getElem?_pos b _ hb,
        ByteArray.getElem_append_right (by omega)]
    · rw [getElem?_neg (a ++ b) k (by rw [ByteArray.size_append]; omega), getElem?_neg b _ hb]

theorem get?_eq_some_iff {b : UInt8} :
    t.get? i = some b ↔ ∃ h : i < t.bytes.size, t.bytes[i] = b := by
  unfold get?
  simp only [getElem?_def]
  split
  · simp_all
  · simp only [reduceCtorEq, false_iff]
    rintro ⟨h, -⟩
    omega

theorem spells_append {a b : String} :
    t.Spells i (a ++ b) ↔ t.Spells i a ∧ t.Spells (i + a.utf8ByteSize) b := by
  unfold Spells
  simp only [String.utf8ByteSize, String.toByteArray_append, ByteArray.size_append, getElem?_append_bytes]
  constructor
  · intro h
    refine ⟨fun k hk => ?_, fun k hk => ?_⟩
    · rw [h k (by omega), if_pos hk]
    · rw [Nat.add_assoc, h (a.toByteArray.size + k) (by omega), if_neg (by omega)]
      simp
  · rintro ⟨ha, hb⟩ k hk
    split
    · exact ha k ‹_›
    · have := hb (k - a.toByteArray.size) (by omega)
      rwa [show i + a.toByteArray.size + (k - a.toByteArray.size) = i + k by omega] at this

theorem spells_ofList_cons {c : Char} {cs : List Char} :
    t.Spells i (String.ofList (c :: cs)) ↔
      t.Spells i (String.singleton c) ∧ t.Spells (i + c.utf8Size) (String.ofList cs) := by
  rw [String.ofList_cons, spells_append, String.utf8ByteSize_singleton]

theorem utf8Size_of_lt {c : Char} (hc : c.toNat < 128) : c.utf8Size = 1 :=
  Char.utf8Size_eq_one_iff.mpr (by rw [UInt32.le_iff_toNat_le]; exact Nat.lt_succ_iff.mp hc)

theorem spells_singleton_of_lt {c : Char} (hc : c.toNat < 128) :
    t.Spells i (String.singleton c) ↔ t.get? i = some c.toNat.toUInt8 := by
  have hb : (String.singleton c).toByteArray = [c.toNat.toUInt8].toByteArray := by
    rw [String.singleton_eq_ofList, String.toByteArray_ofList, List.utf8Encode_singleton,
      String.utf8EncodeChar_eq_singleton (utf8Size_of_lt hc)]
    rfl
  unfold Spells
  rw [String.utf8ByteSize, hb]
  constructor
  · intro h
    simpa using h 0 (by simp)
  · intro h k hk
    have : k = 0 := by simp at hk; omega
    subst this
    simpa using h

theorem getElem?_toByteArray (l : List UInt8) (m : Nat) : l.toByteArray[m]? = l[m]? := by
  by_cases hm : m < l.length
  · rw [getElem?_pos _ m (by rw [List.size_toByteArray]; exact hm), List.getElem?_eq_getElem hm,
      List.getElem_toByteArray]
  · rw [getElem?_neg _ m (by rw [List.size_toByteArray]; exact hm), List.getElem?_eq_none (by omega)]

theorem Spells.singleton {c : Char} (h : t.Spells i (String.singleton c)) :
    ∀ m < (String.utf8EncodeChar c).length, t.get? (i + m) = (String.utf8EncodeChar c)[m]? := by
  intro m hm
  have hb : (String.singleton c).toByteArray = (String.utf8EncodeChar c).toByteArray := by
    rw [String.singleton_eq_ofList, String.toByteArray_ofList, List.utf8Encode_singleton]
  have := h m (by rw [String.utf8ByteSize_singleton, ← String.length_utf8EncodeChar]; exact hm)
  rwa [hb, getElem?_toByteArray] at this

end Text

open Text

variable {t : Text} {i : Nat}

/-! ## Strings -/

/-- Bytes that need no escape are copied one by one. -/
theorem readString_go_raw (t : Text) (bs : List UInt8) : ∀ (fuel : Nat) (acc : ByteArray) (k : Nat),
    (∀ b ∈ bs, 32 ≤ b.toNat ∧ b ≠ 34 ∧ b ≠ 92) → (∀ m < bs.length, t.get? (k + m) = bs[m]?) →
    readString.go t (fuel + bs.length) acc k =
      readString.go t fuel (acc ++ bs.toByteArray) (k + bs.length) := by
  induction bs with
  | nil =>
    intro fuel acc k _ _
    simp [ByteArray.append_empty]
  | cons b rest ih =>
    intro fuel acc k hb hget
    have hk : t.get? k = some b := by simpa using hget 0 (by simp)
    obtain ⟨hlo, h34, h92⟩ := hb b (by simp)
    have hlt : ¬ b < 32 := by rw [UInt8.lt_iff_toNat_lt]; simpa using hlo
    rw [List.length_cons, ← Nat.add_assoc, readString.go, hk]
    simp only [h34, h92, hlt, if_false]
    rw [ih fuel (acc.push b) (k + 1) (fun x hx => hb x (by simp [hx]))
      (fun m hm => by simpa [Nat.add_assoc, Nat.add_comm 1] using hget (m + 1) (by simp; omega))]
    rw [← ByteArray.append_toByteArray_singleton, ByteArray.append_assoc, ← List.toByteArray_append]
    simp [Nat.add_assoc, Nat.add_comm 1]

theorem hexDigit_facts : ∀ n < 16,
    (hexDigit n).toNat < 128 ∧ hexValue (hexDigit n).toNat.toUInt8 = some n := by
  decide

theorem utf8Encode_singleton_of_lt {c : Char} (hc : c.toNat < 128) :
    [c].utf8Encode = [c.toNat.toUInt8].toByteArray := by
  rw [List.utf8Encode_singleton, String.utf8EncodeChar_eq_singleton (utf8Size_of_lt hc)]
  rfl

/-- An escape that stands for one byte moves the reader past it with that byte kept. -/
theorem readString_go_escape {F : Nat} {acc : ByteArray} {k j : Nat} {y : UInt8}
    (hk : t.get? k = some 92) (he : readEscape t (k + 1) = .ok ([y], j)) :
    readString.go t (F + 1) acc k = readString.go t F (acc.push y) j := by
  rw [readString.go, hk]
  simp [he]

/-- A two-character escape `\x` standing for the byte `y`. -/
theorem readString_go_escape2 {F : Nat} {acc : ByteArray} {k : Nat} {x : Char} {y : UInt8}
    (hx : x.toNat < 128) (he : ∀ j, t.get? j = some x.toNat.toUInt8 → readEscape t j = .ok ([y], j + 1))
    (h : t.Spells k (String.ofList ['\\', x])) :
    readString.go t (F + 1) acc k = readString.go t F (acc.push y) (k + 2) := by
  simp only [spells_ofList_cons, spells_singleton_of_lt (show '\\'.toNat < 128 by decide),
    spells_singleton_of_lt hx] at h
  obtain ⟨hk, hk1, -⟩ := h
  rw [utf8Size_of_lt (show '\\'.toNat < 128 by decide)] at hk1
  exact readString_go_escape hk (he _ hk1)

theorem utf8ByteSize_ofList_cons (c : Char) (cs : List Char) :
    (String.ofList (c :: cs)).utf8ByteSize = c.utf8Size + (String.ofList cs).utf8ByteSize := by
  rw [String.ofList_cons, String.utf8ByteSize_append, String.utf8ByteSize_singleton]

theorem high_bytes (c : Char) (hc : 127 < c.toNat) : ∀ b ∈ String.utf8EncodeChar c, 128 ≤ b.toNat := by
  have hlt : c.toNat < 0x110000 := by
    have := c.valid; unfold Char.toNat; unfold UInt32.isValidChar Nat.isValidChar at this; omega
  unfold String.utf8EncodeChar
  simp only [Char.toNat] at hc hlt
  intro b hb
  simp only at hb
  split at hb
  · omega
  · split at hb
    · simp only [List.mem_cons, List.not_mem_nil, or_false] at hb
      rcases hb with rfl | rfl <;> simp [UInt8.toNat_ofNat] <;> omega
    · split at hb
      · simp only [List.mem_cons, List.not_mem_nil, or_false] at hb
        rcases hb with rfl | rfl | rfl <;> simp [UInt8.toNat_ofNat] <;> omega
      · simp only [List.mem_cons, List.not_mem_nil, or_false] at hb
        rcases hb with rfl | rfl | rfl | rfl <;> simp [UInt8.toNat_ofNat] <;> omega

theorem readHex4_of {i a b c d : Nat} {x y z w : UInt8} (hx : t.get? i = some x)
    (hy : t.get? (i + 1) = some y) (hz : t.get? (i + 2) = some z) (hw : t.get? (i + 3) = some w)
    (ha : hexValue x = some a) (hb : hexValue y = some b) (hc : hexValue z = some c)
    (hd : hexValue w = some d) :
    readHex4 t i = .ok (((a * 16 + b) * 16 + c) * 16 + d, i + 4) := by
  have hsize : i + 3 < t.bytes.size := (Text.get?_eq_some_iff.mp hw).1
  have hfits : ¬ t.size < i + 4 := by
    show ¬ t.bytes.size < i + 4
    omega
  unfold readHex4
  rw [if_neg hfits]
  simp [hx, hy, hz, hw, ha, hb, hc, hd]

theorem readUnicodeEscape_of_lt {i j n : Nat} (h : readHex4 t i = .ok (n, j)) (hn : n < 0xD800) :
    readUnicodeEscape t i = .ok (utf8Bytes n, j) := by
  unfold readUnicodeEscape
  simp only [h, bind, Except.bind, pure, Except.pure]
  rw [if_neg (by omega), if_pos (.inl hn)]

/-- Reading the escaped form of one character keeps the character's bytes. -/
theorem readString_go_char (c : Char) (F : Nat) (acc : ByteArray) (k : Nat)
    (h : t.Spells k (String.ofList (escapeChar c)))
    (hF : (String.ofList (escapeChar c)).utf8ByteSize ≤ F + 1) :
    ∃ F', F + 1 - (String.ofList (escapeChar c)).utf8ByteSize ≤ F' ∧
      readString.go t (F + 1) acc k = readString.go t F' (acc ++ [c].utf8Encode)
        (k + (String.ofList (escapeChar c)).utf8ByteSize) := by
  -- the short escapes `\x`, each standing for one byte
  have short : ∀ (x : Char) (y : UInt8), escapeChar c = ['\\', x] → x.toNat < 128 →
      [c].utf8Encode = [y].toByteArray →
      (∀ j, t.get? j = some x.toNat.toUInt8 → readEscape t j = .ok ([y], j + 1)) →
      ∃ F', F + 1 - (String.ofList (escapeChar c)).utf8ByteSize ≤ F' ∧
        readString.go t (F + 1) acc k = readString.go t F' (acc ++ [c].utf8Encode)
          (k + (String.ofList (escapeChar c)).utf8ByteSize) := by
    intro x y he hx hc hr
    rw [he] at h ⊢
    have hsize : (String.ofList ['\\', x]).utf8ByteSize = 2 := by
      rw [utf8ByteSize_ofList_cons, utf8ByteSize_ofList_cons, utf8Size_of_lt hx,
        utf8Size_of_lt (show '\\'.toNat < 128 by decide)]
      rfl
    refine ⟨F, by omega, ?_⟩
    rw [readString_go_escape2 hx hr h, hc, ByteArray.append_toByteArray_singleton, hsize]
  by_cases h1 : c = '"'
  · subst h1
    exact short '"' 34 (by decide) (by decide) (by decide) (fun j hj => by simp [readEscape, hj])
  by_cases h2 : c = '\\'
  · subst h2
    exact short '\\' 92 (by decide) (by decide) (by decide) (fun j hj => by simp [readEscape, hj])
  by_cases h3 : c = '\n'
  · subst h3
    exact short 'n' 10 (by decide) (by decide) (by decide) (fun j hj => by simp [readEscape, hj])
  by_cases h4 : c = '\r'
  · subst h4
    exact short 'r' 13 (by decide) (by decide) (by decide) (fun j hj => by simp [readEscape, hj])
  by_cases h5 : c = '\t'
  · subst h5
    exact short 't' 9 (by decide) (by decide) (by decide) (fun j hj => by simp [readEscape, hj])
  by_cases h6 : c.toNat = 8
  · have hc : c.toNat < 128 := by omega
    refine short 'b' 8 (by simp [escapeChar, h1, h2, h3, h4, h5, h6]) (by decide)
      (by rw [utf8Encode_singleton_of_lt hc, h6]; rfl) (fun j hj => by simp [readEscape, hj])
  by_cases h7 : c.toNat = 12
  · have hc : c.toNat < 128 := by omega
    refine short 'f' 12 (by simp [escapeChar, h1, h2, h3, h4, h5, h7]) (by decide)
      (by rw [utf8Encode_singleton_of_lt hc, h7]; rfl) (fun j hj => by simp [readEscape, hj])
  by_cases h8 : c.toNat < 32
  · -- `\u00xy`, with the code point in two lowercase hex digits
    have he : escapeChar c =
        ['\\', 'u', '0', '0', hexDigit (c.toNat / 16), hexDigit (c.toNat % 16)] := by
      simp [escapeChar, h1, h2, h3, h4, h5, h6, h7, h8]
    obtain ⟨hd1, hv1⟩ := hexDigit_facts (c.toNat / 16) (by omega)
    obtain ⟨hd2, hv2⟩ := hexDigit_facts (c.toNat % 16) (by omega)
    have hb : '\\'.toNat < 128 := by decide
    have hu : 'u'.toNat < 128 := by decide
    have h0 : '0'.toNat < 128 := by decide
    rw [he] at h ⊢
    simp only [spells_ofList_cons, spells_singleton_of_lt hb, spells_singleton_of_lt hu,
      spells_singleton_of_lt h0, spells_singleton_of_lt hd1, spells_singleton_of_lt hd2,
      utf8Size_of_lt hb, utf8Size_of_lt hu, utf8Size_of_lt h0, utf8Size_of_lt hd1] at h
    obtain ⟨hk0, hk1, hk2, hk3, hk4, hk5, -⟩ := h
    have hsize : (String.ofList ['\\', 'u', '0', '0', hexDigit (c.toNat / 16),
        hexDigit (c.toNat % 16)]).utf8ByteSize = 6 := by
      simp only [utf8ByteSize_ofList_cons, utf8Size_of_lt hb, utf8Size_of_lt hu, utf8Size_of_lt h0,
        utf8Size_of_lt hd1, utf8Size_of_lt hd2]
      rfl
    have hhex := readHex4_of (i := k + 2) (by simpa using hk2) (by simpa using hk3)
      (by simpa [Nat.add_assoc] using hk4) (by simpa [Nat.add_assoc] using hk5)
      (show hexValue ('0'.toNat.toUInt8) = some 0 by decide)
      (show hexValue ('0'.toNat.toUInt8) = some 0 by decide) hv1 hv2
    have hn : ((0 * 16 + 0) * 16 + c.toNat / 16) * 16 + c.toNat % 16 = c.toNat := by omega
    rw [hn] at hhex
    have hr : readEscape t (k + 1) = .ok ([c.toNat.toUInt8], k + 6) := by
      unfold readEscape
      rw [show t.get? (k + 1) = some 117 by simpa using hk1]
      simp only [show ((117 : UInt8) = 34 ∨ (117 : UInt8) = 92 ∨ (117 : UInt8) = 47) ↔ False by decide]
      rw [readUnicodeEscape_of_lt (by simpa [Nat.add_assoc] using hhex) (by omega)]
      simp [utf8Bytes, show c.toNat < 128 by omega]
    refine ⟨F, by omega, ?_⟩
    rw [readString_go_escape hk0 hr, utf8Encode_singleton_of_lt (by omega),
      ByteArray.append_toByteArray_singleton, hsize]
  · -- every other character stands for itself, in its own UTF-8 bytes
    have he : escapeChar c = [c] := by simp [escapeChar, h1, h2, h3, h4, h5, h6, h7, h8]
    have hsize : (String.ofList [c]).utf8ByteSize = c.utf8Size := by
      rw [← String.singleton_eq_ofList, String.utf8ByteSize_singleton]
    rw [he, hsize] at hF ⊢
    rw [he, ← String.singleton_eq_ofList] at h
    have hbytes : ∀ b ∈ String.utf8EncodeChar c, 32 ≤ b.toNat ∧ b ≠ 34 ∧ b ≠ 92 := by
      by_cases hc : c.toNat < 128
      · rw [String.utf8EncodeChar_eq_singleton (utf8Size_of_lt hc)]
        intro b hb
        simp only [List.mem_cons, List.not_mem_nil, or_false] at hb
        subst hb
        have hval : c.val.toUInt8.toNat = c.toNat := by
          rw [UInt32.toNat_toUInt8]
          exact Nat.mod_eq_of_lt (show c.toNat < 256 by omega)
        refine ⟨by omega, fun h => h1 (Char.toNat_inj.mp ?_), fun h => h2 (Char.toNat_inj.mp ?_)⟩
        · rw [← hval, h]; rfl
        · rw [← hval, h]; rfl
      · intro b hb
        have hhigh := high_bytes c (by omega) b hb
        refine ⟨by omega, ?_, ?_⟩
        · rintro rfl; simp at hhigh
        · rintro rfl; simp at hhigh
    refine ⟨F + 1 - c.utf8Size, Nat.le_refl _, ?_⟩
    have hgo := readString_go_raw t (String.utf8EncodeChar c) (F + 1 - c.utf8Size) acc k hbytes
      h.singleton
    rw [String.length_utf8EncodeChar, Nat.sub_add_cancel hF] at hgo
    rw [hgo, List.utf8Encode_singleton]

/-- Reading the escaped form of a run of characters keeps their bytes, one fuel a byte. -/
theorem readString_go_escaped (cs : List Char) : ∀ (F : Nat) (acc : ByteArray) (k : Nat),
    t.Spells k (String.ofList (cs.flatMap escapeChar)) →
    (String.ofList (cs.flatMap escapeChar)).utf8ByteSize < F →
    ∃ F', F - (String.ofList (cs.flatMap escapeChar)).utf8ByteSize ≤ F' ∧
      readString.go t F acc k = readString.go t F' (acc ++ cs.utf8Encode)
        (k + (String.ofList (cs.flatMap escapeChar)).utf8ByteSize) := by
  induction cs with
  | nil =>
    intro F acc k _ _
    exact ⟨F, by simp, by simp [ByteArray.append_empty]⟩
  | cons c cs ih =>
    intro F acc k h hF
    rw [List.flatMap_cons, String.ofList_append, spells_append] at h
    rw [List.flatMap_cons, String.ofList_append, String.utf8ByteSize_append] at hF ⊢
    obtain ⟨hc, hrest⟩ := h
    obtain ⟨F0, rfl⟩ : ∃ F0, F = F0 + 1 := ⟨F - 1, by omega⟩
    obtain ⟨F1, hF1, hstep⟩ := readString_go_char c F0 acc k hc (by omega)
    obtain ⟨F2, hF2, hrun⟩ := ih F1 (acc ++ [c].utf8Encode) _ hrest (by omega)
    refine ⟨F2, by omega, ?_⟩
    rw [hstep, hrun, ByteArray.append_assoc, ← List.utf8Encode_cons, Nat.add_assoc]

theorem fromUTF8?_toByteArray (s : String) : String.fromUTF8? s.toByteArray = some s := by
  unfold String.fromUTF8?
  rw [dif_pos s.isValidUTF8]
  rfl

theorem quote_eq (s : String) : quote s =
    String.singleton '"' ++ String.ofList (s.toList.flatMap escapeChar) ++ String.singleton '"' := by
  rw [quote, String.ofList_cons, String.ofList_append, String.append_assoc,
    String.singleton_eq_ofList]

/-- A quoted string reads back as itself, ending right after its closing quote. -/
theorem readString_quote {s : String} {i : Nat} (h : t.Spells i (quote s)) :
    readString t (i + 1) = .ok (s, i + (quote s).utf8ByteSize) := by
  have hq : '"'.toNat < 128 := by decide
  rw [quote_eq] at h ⊢
  simp only [spells_append, spells_singleton_of_lt hq] at h
  obtain ⟨⟨-, hbody⟩, hclose⟩ := h
  simp only [String.utf8ByteSize_append, String.utf8ByteSize_singleton, utf8Size_of_lt hq] at hbody hclose ⊢
  have hsize := (Text.get?_eq_some_iff.mp hclose).1
  obtain ⟨F, hF, hrun⟩ := readString_go_escaped s.toList t.size ByteArray.empty (i + 1) hbody
    (by unfold Text.size; omega)
  obtain ⟨F', rfl⟩ : ∃ F', F = F' + 1 := ⟨F - 1, by unfold Text.size at hF; omega⟩
  have hs : s.toList.utf8Encode = s.toByteArray := by
    rw [← String.toByteArray_ofList, String.ofList_toList]
  rw [← Nat.add_assoc] at hclose
  rw [readString, hrun, readString.go, hclose]
  simp [hs, fromUTF8?_toByteArray, ByteArray.empty_append]
  omega

/-! ## Integers -/

/-- What may follow a value in written text: the end, a comma or a closing bracket. -/
def Text.Closes (t : Text) (k : Nat) : Prop :=
  t.get? k = none ∨ t.get? k = some 44 ∨ t.get? k = some 93 ∨ t.get? k = some 125

/-- A closing byte is none of the bytes a number goes on with. -/
theorem Text.Closes.byte {k : Nat} (h : t.Closes k) {b : UInt8} (hb : t.get? k = some b) :
    isDigitByte b = false ∧ b ≠ 46 ∧ b ≠ 101 ∧ b ≠ 69 ∧ b ≠ 43 ∧ b ≠ 45 := by
  rcases h with h | h | h | h <;> rw [h] at hb <;> cases hb <;> decide

theorem Text.Closes.isAt {k : Nat} (h : t.Closes k) {c : Char} (hc : c ∈ ['.', 'e', 'E']) :
    t.isAt k c = false := by
  simp only [List.mem_cons, List.not_mem_nil, or_false] at hc
  unfold Text.isAt
  rcases h with h | h | h | h <;> rw [h] <;> rcases hc with rfl | rfl | rfl <;> decide

theorem isDigit_bounds {c : Char} (h : c.isDigit) : 48 ≤ c.toNat ∧ c.toNat ≤ 57 := by
  simp only [Char.isDigit, Bool.and_eq_true, decide_eq_true_eq] at h
  exact ⟨h.1, h.2⟩

theorem overflows_iff {acc d limit : Nat} (hd : d < 10) :
    overflows acc d limit = true ↔ limit < acc * 10 + d := by
  unfold overflows
  simp only [Bool.and_eq_true, decide_eq_true_eq, Bool.or_eq_true]
  omega

theorem le_ofDigitChars (ds : List Char) (init : Nat) : init ≤ Nat.ofDigitChars 10 ds init := by
  rw [Nat.ofDigitChars_eq_ofDigitChars_zero]
  have := Nat.one_le_pow ds.length 10 (by omega)
  calc init ≤ 10 ^ ds.length * init := Nat.le_mul_of_pos_left init this
    _ ≤ _ := Nat.le_add_right _ _

/-- The digit loop of an integer accumulates the digits it reads while they fit 64 bits. -/
theorem readNumber_go_digits (positive : Bool) (ds : List Char) (hds : ∀ c ∈ ds, c.isDigit) :
    ∀ (fuel sig k : Nat), t.Spells k (String.ofList ds) → Nat.ofDigitChars 10 ds sig ≤ u64Max →
    readNumber.go t positive (fuel + ds.length) sig k =
      readNumber.go t positive fuel (Nat.ofDigitChars 10 ds sig) (k + ds.length) := by
  induction ds with
  | nil => intro fuel sig k _ _; rfl
  | cons c rest ih =>
    intro fuel sig k h hmax
    obtain ⟨hlo, hhi⟩ := isDigit_bounds (hds c (by simp))
    have hc : c.toNat < 128 := by omega
    rw [spells_ofList_cons, spells_singleton_of_lt hc, utf8Size_of_lt hc] at h
    obtain ⟨hk, hrest⟩ := h
    rw [Nat.ofDigitChars_cons] at hmax ⊢
    have hbyte : (c.toNat.toUInt8).toNat = c.toNat := UInt8.toNat_ofNat_of_lt' (by rw [UInt8.size]; omega)
    have hdigit : isDigitByte c.toNat.toUInt8 = true := by
      simp only [isDigitByte, Bool.and_eq_true, decide_eq_true_eq, UInt8.le_iff_toNat_le, hbyte]
      exact ⟨hlo, hhi⟩
    have hfit : overflows sig (c.toNat - 48) u64Max = false := by
      have := le_ofDigitChars rest (10 * sig + (c.toNat - '0'.toNat))
      rw [Bool.eq_false_iff, ne_eq, overflows_iff (by omega)]
      simp only [Char.reduceToNat] at this hmax
      omega
    rw [List.length_cons, ← Nat.add_assoc, readNumber.go, hk]
    simp only [hdigit, hfit, if_true, Bool.false_eq_true, if_false, hbyte]
    rw [show sig * 10 + (c.toNat - 48) = 10 * sig + (c.toNat - '0'.toNat) by simp; omega]
    rw [ih (fun x hx => hds x (by simp [hx])) fuel _ (k + 1) hrest hmax]
    rw [Nat.add_assoc, Nat.add_comm 1]

theorem utf8ByteSize_ofList_ascii (cs : List Char) (h : ∀ c ∈ cs, c.toNat < 128) :
    (String.ofList cs).utf8ByteSize = cs.length := by
  induction cs with
  | nil => rfl
  | cons c rest ih =>
    rw [utf8ByteSize_ofList_cons, utf8Size_of_lt (h c (by simp)),
      ih (fun x hx => h x (by simp [hx])), List.length_cons, Nat.add_comm]

theorem toDigits_ascii (n : Nat) : ∀ c ∈ Nat.toDigits 10 n, c.isDigit ∧ c.toNat < 128 := by
  intro c hc
  have hd := Nat.isDigit_of_mem_toDigits (by omega) (by omega) hc
  exact ⟨hd, by have := isDigit_bounds hd; omega⟩

/-- The written digits of a positive number do not start with `0`. -/
theorem toDigits_head_ne_zero : ∀ n, 0 < n → (Nat.toDigits 10 n).head? ≠ some '0' := by
  intro n
  induction n using Nat.strongRecOn with
  | _ n ih =>
    intro hn
    by_cases h10 : n < 10
    · rw [Nat.toDigits_of_lt_base h10]
      have : ∀ m < 10, 0 < m → some m.digitChar ≠ some '0' := by decide
      exact this n h10 hn
    · rw [Nat.toDigits_of_base_le (by omega) (by omega), List.head?_append]
      have hhead := ih (n / 10) (by omega) (by omega)
      cases h : Nat.toDigits 10 (n / 10) with
      | nil => exact absurd h Nat.toDigits_ne_nil
      | cons x xs => simpa [h] using hhead

theorem readNumberTail_closes {k : Nat} (hc : t.Closes k) (positive : Bool) (sig : Nat) :
    readNumberTail t positive sig k =
      if positive then .ok (.nat sig, k)
      else if sig = 0 then .ok (.float (-0.0), k)
      else if sig ≤ Nat.pow 2 63 then .ok (.neg (-(sig : Int)), k)
      else .ok (.float (-(Decimal.floatOfNat sig)), k) := by
  simp [readNumberTail, hc.isAt (c := '.') (by simp), hc.isAt (c := 'e') (by simp),
    hc.isAt (c := 'E') (by simp)]

theorem readNumber_go_closes {k f sig : Nat} (positive : Bool) (hc : t.Closes k) :
    readNumber.go t positive (f + 1) sig k = readNumberTail t positive sig k := by
  rw [readNumber.go]
  cases hb : t.get? k with
  | none => rfl
  | some b => simp [(hc.byte hb).1]

theorem Text.Spells.le_size {s : String} (h : t.Spells i s) (hs : 0 < s.utf8ByteSize) :
    i + s.utf8ByteSize ≤ t.size := by
  have hlast := h (s.utf8ByteSize - 1) (by omega)
  rw [getElem?_pos s.toByteArray _ (by simp only [String.utf8ByteSize] at hs ⊢; omega)] at hlast
  have := (Text.get?_eq_some_iff.mp hlast).1
  unfold Text.size
  omega

/-- The digits of a number that fits 64 bits read as that number, up to the byte after
them. -/
theorem readNumber_toString {n i : Nat} (positive : Bool) (hn : n ≤ u64Max)
    (h : t.Spells i (toString n)) (hc : t.Closes (i + (toString n).utf8ByteSize)) :
    readNumber t positive i = readNumberTail t positive n (i + (toString n).utf8ByteSize) := by
  have hascii := toDigits_ascii n
  have hlen := utf8ByteSize_ofList_ascii _ (fun c hc => (hascii c hc).2)
  have hsize := h.le_size (by rw [Nat.toString_eq_ofList_toDigits, hlen]; exact Nat.length_toDigits_pos)
  simp only [Nat.toString_eq_ofList_toDigits, hlen] at h hc hsize ⊢
  by_cases hn0 : n = 0
  · -- `0` alone: the byte after it closes the number
    subst hn0
    simp only [Nat.toDigits_zero, List.length_singleton] at h hc ⊢
    rw [← String.singleton_eq_ofList, spells_singleton_of_lt (by decide)] at h
    unfold readNumber
    rw [h]
    rcases hc with hb | hb | hb | hb <;> simp [hb, isDigitByte]
  have hval := Nat.ofDigitChars_ten_toDigits (n := n)
  have hhead := toDigits_head_ne_zero n (by omega)
  cases hds : Nat.toDigits 10 n with
  | nil => exact absurd hds Nat.toDigits_ne_nil
  | cons d rest =>
    rw [hds] at h hc hsize hval hhead hascii
    obtain ⟨⟨hdigit, hd⟩, hrest⟩ : (d.isDigit ∧ d.toNat < 128) ∧ ∀ c ∈ rest, c.isDigit ∧ c.toNat < 128 :=
      ⟨hascii d (by simp), fun c hc => hascii c (by simp [hc])⟩
    have hbyte : (d.toNat.toUInt8).toNat = d.toNat := UInt8.toNat_ofNat_of_lt' (by rw [UInt8.size]; omega)
    obtain ⟨hlo, hhi⟩ := isDigit_bounds hdigit
    have hd0 : d.toNat ≠ 48 := fun h0 =>
      hhead (by rw [List.head?_cons, Char.toNat_inj.mp (show d.toNat = '0'.toNat from h0)])
    rw [spells_ofList_cons, spells_singleton_of_lt hd, utf8Size_of_lt hd] at h
    obtain ⟨hk, hspells⟩ := h
    rw [Nat.ofDigitChars_cons] at hval
    simp only [Char.reduceToNat, Nat.mul_zero, Nat.zero_add] at hval
    have hfirst : ¬ d.toNat.toUInt8 = 48 := fun h48 => hd0 (by rw [← hbyte, h48]; rfl)
    have hdig : isDigitByte d.toNat.toUInt8 = true := by
      simp only [isDigitByte, Bool.and_eq_true, decide_eq_true_eq, UInt8.le_iff_toNat_le, hbyte]
      exact ⟨hlo, hhi⟩
    unfold readNumber
    rw [hk]
    simp only [hfirst, if_false, hdig, if_true, hbyte]
    obtain ⟨F, hF⟩ : ∃ F, t.size = F + 1 + rest.length := ⟨t.size - 1 - rest.length, by
      simp only [List.length_cons] at hsize; omega⟩
    rw [hF, readNumber_go_digits positive rest (fun c hc => (hrest c hc).1) (F + 1)
      (d.toNat - 48) (i + 1) hspells (by omega)]
    rw [hval, readNumber_go_closes positive (by simpa [Nat.add_assoc, Nat.add_comm 1] using hc)]
    simp [Nat.add_assoc, Nat.add_comm 1]

/-- A natural number below `2 ^ 64` reads back from its digits. -/
theorem readNumber_nat {n i : Nat} (hn : n < 2 ^ 64) (h : t.Spells i (toString n))
    (hc : t.Closes (i + (toString n).utf8ByteSize)) :
    readNumber t true i = .ok (.nat n, i + (toString n).utf8ByteSize) := by
  rw [readNumber_toString true (by unfold u64Max; simp only [Nat.pow_eq]; omega) h hc,
    readNumberTail_closes hc]
  rfl

theorem toString_negSucc (m : Nat) : toString (Int.negSucc m) = "-" ++ toString (m + 1) := rfl

/-- A negative integer not below `-2 ^ 63` reads back from its minus sign and digits. -/
theorem readNumber_neg {n : Int} {i : Nat} (hlo : -2 ^ 63 ≤ n) (hneg : n < 0)
    (h : t.Spells i (toString n)) (hc : t.Closes (i + (toString n).utf8ByteSize)) :
    t.get? i = some 45 ∧ readNumber t false (i + 1) = .ok (.neg n, i + (toString n).utf8ByteSize) := by
  obtain ⟨m, rfl⟩ := Int.eq_negSucc_of_lt_zero hneg
  have hm : m + 1 ≤ 2 ^ 63 := by omega
  rw [toString_negSucc, show "-" = String.singleton '-' from rfl] at h hc ⊢
  rw [spells_append, spells_singleton_of_lt (by decide)] at h
  rw [String.utf8ByteSize_append, String.utf8ByteSize_singleton,
    utf8Size_of_lt (show '-'.toNat < 128 by decide)] at hc ⊢
  obtain ⟨hk, hdigits⟩ := h
  rw [String.utf8ByteSize_singleton, utf8Size_of_lt (show '-'.toNat < 128 by decide)] at hdigits
  refine ⟨hk, ?_⟩
  rw [← Nat.add_assoc] at hc ⊢
  rw [readNumber_toString false (by unfold u64Max; simp only [Nat.pow_eq]; omega) hdigits hc,
    readNumberTail_closes hc]
  simp only [Bool.false_eq_true, if_false, Nat.add_one_ne_zero, Nat.pow_eq]
  rw [if_pos (by omega)]
  rfl

/-! ## Numbers read where they stand

The number readers look at the bytes of the number and at the one byte after it, never
further: a number read alone, from a text of its own, reads the same inside a larger text
where a closing byte follows it. -/

namespace Text

/-- The text `u` stands in `t` from offset `i`, and what follows it there closes a value. -/
structure Embeds (u t : Text) (i : Nat) : Prop where
  bytes : ∀ m < u.size, t.get? (i + m) = u.get? m
  closes : t.Closes (i + u.size)

variable {u : Text} {i : Nat}

theorem get?_size (u : Text) : u.get? u.size = none := by
  unfold get? size
  exact getElem?_neg _ _ (Nat.lt_irrefl _)

theorem lt_size_of_get? {p : Nat} {b : UInt8} (h : u.get? p = some b) : p < u.size :=
  (get?_eq_some_iff.mp h).1

/-- The byte at `p` of the embedded text, seen in both texts: the same byte, or the end of
`u` where `t` has a closing byte. -/
theorem Embeds.get (e : u.Embeds t i) {p : Nat} (hp : p ≤ u.size) :
    (∃ b, u.get? p = some b ∧ t.get? (i + p) = some b) ∨ (u.get? p = none ∧ t.Closes (i + p)) := by
  by_cases hlt : p < u.size
  · left
    obtain ⟨b, hb⟩ : ∃ b, u.get? p = some b := ⟨u.bytes[p], get?_eq_some_iff.mpr ⟨hlt, rfl⟩⟩
    exact ⟨b, hb, (e.bytes p hlt).trans hb⟩
  · right
    obtain rfl : p = u.size := by omega
    exact ⟨u.get?_size, e.closes⟩

theorem Embeds.size_le (e : u.Embeds t i) : u.size ≤ t.size := by
  rcases Nat.eq_zero_or_pos u.size with h | h
  · omega
  · have hlast : u.size - 1 < u.bytes.size := by unfold size at h ⊢; omega
    obtain ⟨b, hb⟩ : ∃ b, u.get? (u.size - 1) = some b :=
      ⟨u.bytes[u.size - 1], get?_eq_some_iff.mpr ⟨hlast, rfl⟩⟩
    have := lt_size_of_get? ((e.bytes _ (by omega)).trans hb)
    omega

theorem Embeds.isAt (e : u.Embeds t i) {p : Nat} (hp : p ≤ u.size) {c : Char}
    (hc : c ∈ ['.', 'e', 'E', '+', '-']) : t.isAt (i + p) c = u.isAt p c := by
  unfold Text.isAt
  simp only [List.mem_cons, List.not_mem_nil, or_false] at hc
  rcases e.get hp with ⟨b, hu, ht⟩ | ⟨hu, hcl⟩
  · rw [hu, ht]
  · rw [hu]
    rcases hcl with h | h | h | h <;> rw [h] <;> rcases hc with rfl | rfl | rfl | rfl | rfl <;> decide

theorem Embeds.skipDigits_go (e : u.Embeds t i) : ∀ (fu ft p : Nat), p ≤ u.size →
    u.size ≤ p + fu → fu ≤ ft → skipDigits.go t ft (i + p) = i + skipDigits.go u fu p := by
  intro fu
  induction fu with
  | zero =>
    intro ft p hp hfu _
    obtain rfl : p = u.size := by omega
    cases ft with
    | zero => rfl
    | succ f =>
      rw [skipDigits.go, skipDigits.go]
      rcases e.closes with h | h | h | h <;> simp [h, isDigitByte]
  | succ f ih =>
    intro ft p hp hfu hft
    obtain ⟨f', rfl⟩ : ∃ f', ft = f' + 1 := ⟨ft - 1, by omega⟩
    rw [skipDigits.go, skipDigits.go]
    rcases e.get hp with ⟨b, hu, ht⟩ | ⟨hu, hcl⟩
    · have hlt := lt_size_of_get? hu
      rw [hu, ht]
      by_cases hd : isDigitByte b = true
      · simp only [hd, ↓reduceIte]
        rw [Nat.add_assoc, ih f' (p + 1) (by omega) (by omega) (by omega)]
      · simp only [hd, ↓reduceIte, Bool.false_eq_true]
    · rw [hu]
      rcases hcl with h | h | h | h <;> simp [h, isDigitByte]

theorem Embeds.skipDigits (e : u.Embeds t i) {p : Nat} (hp : p ≤ u.size) :
    t.skipDigits (i + p) = i + u.skipDigits p :=
  e.skipDigits_go u.size t.size p hp (by omega) e.size_le

theorem skipDigits_go_le : ∀ (f p : Nat), p ≤ u.size → skipDigits.go u f p ≤ u.size := by
  intro f
  induction f with
  | zero => intro p hp; exact hp
  | succ f ih =>
    intro p hp
    rw [skipDigits.go]
    cases hb : u.get? p with
    | none => exact hp
    | some b =>
      have := lt_size_of_get? hb
      by_cases hd : isDigitByte b = true
      · simp only [hd, ↓reduceIte]
        exact ih (p + 1) (by omega)
      · simp only [hd, ↓reduceIte, Bool.false_eq_true]
        exact hp

theorem skipDigits_le {p : Nat} (hp : p ≤ u.size) : u.skipDigits p ≤ u.size :=
  skipDigits_go_le u.size p hp

theorem ok_inj {a b : Number × Nat} (h : (Except.ok a : Except SyntaxError _) = .ok b) : a = b := by
  cases h; rfl

theorem finishFloat_shift {positive : Bool} {sig : Nat} {exp : Int} {k r : Nat} {n : Number}
    (h : finishFloat u positive sig exp k = .ok (n, r)) :
    finishFloat t positive sig exp (i + k) = .ok (n, i + r) := by
  unfold finishFloat at h ⊢
  cases hf : floatOfParts positive sig exp with
  | none => rw [hf] at h; cases h
  | some f =>
    simp only [hf] at h ⊢
    cases ok_inj h
    rfl

theorem Embeds.readExponent_go (e : u.Embeds t i) (positive : Bool) (sig : Nat) (start : Int) :
    ∀ (fu ft ex k : Nat) (pe : Bool) {n : Number} {r : Nat}, k ≤ u.size → fu ≤ ft →
    readExponent.go u positive sig start fu ex k pe = .ok (n, r) →
    readExponent.go t positive sig start ft ex (i + k) pe = .ok (n, i + r) := by
  intro fu
  induction fu with
  | zero => intro ft ex k pe n r _ _ h; cases h
  | succ f ih =>
    intro ft ex k pe n r hk hft h
    obtain ⟨f', rfl⟩ : ∃ f', ft = f' + 1 := ⟨ft - 1, by omega⟩
    rw [readExponent.go] at h ⊢
    rcases e.get hk with ⟨b, hu, ht⟩ | ⟨hu, hcl⟩
    · have hlt := lt_size_of_get? hu
      rw [hu] at h
      rw [ht]
      by_cases hd : isDigitByte b = true
      · simp only [hd, ↓reduceIte] at h ⊢
        by_cases hov : overflows ex (b.toNat - 48) i32Max.toNat = true
        · simp only [hov, ↓reduceIte] at h ⊢
          split at h
          · cases h
          · cases ok_inj h
            rw [Nat.add_assoc, e.skipDigits (by omega), if_neg ‹_›]
        · simp only [hov, ↓reduceIte, Bool.false_eq_true] at h ⊢
          rw [Nat.add_assoc]
          exact ih f' _ (k + 1) pe (by omega) (by omega) h
      · simp only [hd, ↓reduceIte, Bool.false_eq_true] at h ⊢
        exact finishFloat_shift h
    · rw [hu] at h
      rcases hcl with hb | hb | hb | hb <;> simp only [hb, isDigitByte] <;> exact finishFloat_shift h

theorem lt_size_of_isAt {p : Nat} {c : Char} (h : u.isAt p c = true) : p < u.size := by
  unfold isAt at h
  cases hb : u.get? p with
  | none => rw [hb] at h; cases h
  | some b => exact lt_size_of_get? hb

/-- The sign of an exponent, at `p`, and where its digits start. -/
def exponentSign (u : Text) (p : Nat) : Bool × Nat :=
  if u.isAt p '+' = true then (true, p + 1) else if u.isAt p '-' = true then (false, p + 1)
  else (true, p)

theorem exponentSign_le {p : Nat} (hp : p ≤ u.size) : (u.exponentSign p).2 ≤ u.size := by
  unfold exponentSign
  split
  · have := lt_size_of_isAt ‹_›; simp only; omega
  · split
    · have := lt_size_of_isAt ‹_›; simp only; omega
    · exact hp

theorem Embeds.exponentSign (e : u.Embeds t i) {p : Nat} (hp : p ≤ u.size) :
    t.exponentSign (i + p) = ((u.exponentSign p).1, i + (u.exponentSign p).2) := by
  unfold Text.exponentSign
  rw [e.isAt hp (c := '+') (by simp), e.isAt hp (c := '-') (by simp)]
  split
  · rfl
  · split <;> rfl

theorem exponentSign_fold (p : Nat) :
    (if u.isAt p '+' = true then (true, p + 1) else if u.isAt p '-' = true then (false, p + 1)
      else (true, p)) = u.exponentSign p := rfl

theorem Embeds.readExponent_ok (e : u.Embeds t i) {positive : Bool} {sig : Nat} {start : Int}
    {q r : Nat} {n : Number} (hq : q < u.size) (h : readExponent u positive sig start q = .ok (n, r)) :
    readExponent t positive sig start (i + q) = .ok (n, i + r) := by
  unfold Json.readExponent at h ⊢
  simp only [exponentSign_fold] at h ⊢
  have hle := exponentSign_le (u := u) (p := q + 1) (by omega)
  rw [Nat.add_assoc, e.exponentSign (by omega)]
  generalize u.exponentSign (q + 1) = sgn at h hle ⊢
  obtain ⟨pe, j⟩ := sgn
  simp only at h hle ⊢
  rcases e.get hle with ⟨b, hu, ht⟩ | ⟨hu, -⟩
  · rw [hu] at h
    rw [ht]
    have hlt := lt_size_of_get? hu
    by_cases hd : isDigitByte b = true
    · simp only [hd, Bool.not_true, Bool.false_eq_true, ↓reduceIte] at h ⊢
      rw [Nat.add_assoc]
      exact e.readExponent_go positive sig start _ _ _ _ pe (by omega) e.size_le h
    · simp only [hd, Bool.not_false, ↓reduceIte] at h
      cases h
  · rw [hu] at h
    cases h

theorem lt_size_of_isAt_or {p : Nat} {c d : Char} (h : (u.isAt p c || u.isAt p d) = true) :
    p < u.size := by
  rcases Bool.or_eq_true_iff.mp h with h | h <;> exact lt_size_of_isAt h

theorem Embeds.fractionTail_ok (e : u.Embeds t i) {positive : Bool} {sig : Nat} {exp : Int}
    {k r : Nat} {n : Number} (hk : k ≤ u.size)
    (h : readFraction.tail u positive sig exp k = .ok (n, r)) :
    readFraction.tail t positive sig exp (i + k) = .ok (n, i + r) := by
  unfold readFraction.tail at h ⊢
  rw [e.isAt hk (c := 'e') (by simp), e.isAt hk (c := 'E') (by simp)]
  split at h
  · rw [if_pos ‹_›]
    exact e.readExponent_ok (lt_size_of_isAt_or ‹_›) h
  · rw [if_neg ‹_›]
    exact finishFloat_shift h

theorem Embeds.readFraction_go (e : u.Embeds t i) (positive : Bool) (before : Int) :
    ∀ (fu ft sig after k : Nat) {n : Number} {r : Nat}, k ≤ u.size → fu ≤ ft →
    readFraction.go u positive before fu sig after k = .ok (n, r) →
    readFraction.go t positive before ft sig after (i + k) = .ok (n, i + r) := by
  intro fu
  induction fu with
  | zero => intro ft sig after k n r _ _ h; cases h
  | succ f ih =>
    intro ft sig after k n r hk hft h
    obtain ⟨f', rfl⟩ : ∃ f', ft = f' + 1 := ⟨ft - 1, by omega⟩
    rw [readFraction.go] at h ⊢
    rcases e.get hk with ⟨b, hu, ht⟩ | ⟨hu, hcl⟩
    · have hlt := lt_size_of_get? hu
      rw [hu] at h
      rw [ht]
      by_cases hd : isDigitByte b = true
      · simp only [hd, ↓reduceIte] at h ⊢
        by_cases hov : overflows sig (b.toNat - 48) u64Max = true
        · simp only [hov, ↓reduceIte] at h ⊢
          rw [e.skipDigits hk]
          exact e.fractionTail_ok (skipDigits_le hk) h
        · simp only [hov, ↓reduceIte, Bool.false_eq_true] at h ⊢
          rw [Nat.add_assoc]
          exact ih f' _ _ (k + 1) (by omega) (by omega) h
      · by_cases ha : after = 0
        · simp only [hd, ha, ↓reduceIte, Bool.false_eq_true] at h
          cases h
        · simp only [hd, ha, ↓reduceIte, Bool.false_eq_true] at h ⊢
          exact e.fractionTail_ok hk h
    · rw [hu] at h
      by_cases ha : after = 0
      · simp only [ha, ↓reduceIte] at h
        cases h
      · simp only [ha, ↓reduceIte] at h
        cases hb : t.get? (i + k) with
        | none => simpa only [ha, ↓reduceIte] using e.fractionTail_ok hk h
        | some b =>
          simpa only [(hcl.byte hb).1, ha, ↓reduceIte, Bool.false_eq_true] using e.fractionTail_ok hk h

theorem Embeds.readFraction_ok (e : u.Embeds t i) {positive : Bool} {sig : Nat} {before : Int}
    {q r : Nat} {n : Number} (hq : q < u.size)
    (h : readFraction u positive sig before q = .ok (n, r)) :
    readFraction t positive sig before (i + q) = .ok (n, i + r) := by
  unfold readFraction at h ⊢
  rw [Nat.add_assoc]
  exact e.readFraction_go positive before _ _ sig 0 (q + 1) (by omega) e.size_le h

theorem Embeds.readLongInteger_go (e : u.Embeds t i) (positive : Bool) (sig : Nat) :
    ∀ (fu ft extra k : Nat) {n : Number} {r : Nat}, k ≤ u.size → fu ≤ ft →
    readLongInteger.go u positive sig fu extra k = .ok (n, r) →
    readLongInteger.go t positive sig ft extra (i + k) = .ok (n, i + r) := by
  intro fu
  induction fu with
  | zero => intro ft extra k n r _ _ h; cases h
  | succ f ih =>
    intro ft extra k n r hk hft h
    obtain ⟨f', rfl⟩ : ∃ f', ft = f' + 1 := ⟨ft - 1, by omega⟩
    rw [readLongInteger.go] at h ⊢
    rcases e.get hk with ⟨b, hu, ht⟩ | ⟨hu, hcl⟩
    · have hlt := lt_size_of_get? hu
      rw [hu] at h
      rw [ht]
      by_cases hd : isDigitByte b = true
      · simp only [hd, ↓reduceIte] at h ⊢
        rw [Nat.add_assoc]
        exact ih f' _ (k + 1) (by omega) (by omega) h
      · simp only [hd, ↓reduceIte, Bool.false_eq_true] at h ⊢
        split at h
        · rw [if_pos ‹_›]
          exact e.readFraction_ok hlt h
        · rw [if_neg ‹_›]
          split at h
          · rw [if_pos ‹_›]
            exact e.readExponent_ok hlt h
          · rw [if_neg ‹_›]
            exact finishFloat_shift h
    · rw [hu] at h
      cases hb : t.get? (i + k) with
      | none => exact finishFloat_shift h
      | some b =>
        obtain ⟨hd, h46, h101, h69, -⟩ := hcl.byte hb
        simpa only [hd, h46, h101, h69, ↓reduceIte, Bool.false_eq_true, Bool.or_eq_true,
          beq_iff_eq, or_self, decide_false] using finishFloat_shift h

theorem Embeds.readLongInteger_ok (e : u.Embeds t i) {positive : Bool} {sig : Nat}
    {q r : Nat} {n : Number} (hq : q ≤ u.size)
    (h : readLongInteger u positive sig q = .ok (n, r)) :
    readLongInteger t positive sig (i + q) = .ok (n, i + r) :=
  e.readLongInteger_go positive sig _ _ 0 q hq e.size_le h

theorem Embeds.readNumberTail_ok (e : u.Embeds t i) {positive : Bool} {sig q r : Nat}
    {n : Number} (hq : q ≤ u.size) (h : readNumberTail u positive sig q = .ok (n, r)) :
    readNumberTail t positive sig (i + q) = .ok (n, i + r) := by
  unfold readNumberTail at h ⊢
  rw [e.isAt hq (c := '.') (by simp), e.isAt hq (c := 'e') (by simp),
    e.isAt hq (c := 'E') (by simp)]
  split at h
  · rw [if_pos ‹_›]
    exact e.readFraction_ok (lt_size_of_isAt ‹_›) h
  · rw [if_neg ‹_›]
    split at h
    · rw [if_pos ‹_›]
      exact e.readExponent_ok (lt_size_of_isAt_or ‹_›) h
    · rw [if_neg ‹_›]
      split at h
      · cases ok_inj h; simp [*]
      · split at h
        · cases ok_inj h; simp [*]
        · split at h
          · cases ok_inj h; simp [*]
          · cases ok_inj h; simp [*]

theorem Embeds.readNumber_go (e : u.Embeds t i) (positive : Bool) :
    ∀ (fu ft sig k : Nat) {n : Number} {r : Nat}, k ≤ u.size → fu ≤ ft →
    readNumber.go u positive fu sig k = .ok (n, r) →
    readNumber.go t positive ft sig (i + k) = .ok (n, i + r) := by
  intro fu
  induction fu with
  | zero => intro ft sig k n r _ _ h; cases h
  | succ f ih =>
    intro ft sig k n r hk hft h
    obtain ⟨f', rfl⟩ : ∃ f', ft = f' + 1 := ⟨ft - 1, by omega⟩
    rw [readNumber.go] at h ⊢
    rcases e.get hk with ⟨b, hu, ht⟩ | ⟨hu, hcl⟩
    · have hlt := lt_size_of_get? hu
      rw [hu] at h
      rw [ht]
      by_cases hd : isDigitByte b = true
      · simp only [hd, ↓reduceIte] at h ⊢
        by_cases hov : overflows sig (b.toNat - 48) u64Max = true
        · simp only [hov, ↓reduceIte] at h ⊢
          exact e.readLongInteger_ok hk h
        · simp only [hov, ↓reduceIte, Bool.false_eq_true] at h ⊢
          rw [Nat.add_assoc]
          exact ih f' _ (k + 1) (by omega) (by omega) h
      · simp only [hd, ↓reduceIte, Bool.false_eq_true] at h ⊢
        exact e.readNumberTail_ok hk h
    · rw [hu] at h
      cases hb : t.get? (i + k) with
      | none => exact e.readNumberTail_ok hk h
      | some b =>
        simpa only [(hcl.byte hb).1, ↓reduceIte, Bool.false_eq_true] using e.readNumberTail_ok hk h

/-- A number read alone from its own text reads the same where it stands in a larger one. -/
theorem Embeds.readNumber_ok (e : u.Embeds t i) {positive : Bool} {q r : Nat} {n : Number}
    (hq : q ≤ u.size) (h : readNumber u positive q = .ok (n, r)) :
    readNumber t positive (i + q) = .ok (n, i + r) := by
  unfold readNumber at h ⊢
  rcases e.get hq with ⟨c, hu, ht⟩ | ⟨hu, -⟩
  · have hlt := lt_size_of_get? hu
    rw [hu] at h
    rw [ht]
    by_cases h48 : c = 48
    · simp only [h48, ↓reduceIte] at h ⊢
      rw [Nat.add_assoc]
      rcases e.get (p := q + 1) (by omega) with ⟨d, hu', ht'⟩ | ⟨hu', hcl⟩
      · rw [hu'] at h
        rw [ht']
        by_cases hd : isDigitByte d = true
        · simp only [hd, ↓reduceIte] at h
          cases h
        · simp only [hd, ↓reduceIte, Bool.false_eq_true] at h ⊢
          exact e.readNumberTail_ok (by omega) h
      · rw [hu'] at h
        cases hb : t.get? (i + (q + 1)) with
        | none => exact e.readNumberTail_ok (by omega) h
        | some b =>
          simpa only [(hcl.byte hb).1, ↓reduceIte, Bool.false_eq_true] using
            e.readNumberTail_ok (by omega) h
    · simp only [h48, ↓reduceIte] at h ⊢
      by_cases hd : isDigitByte c = true
      · simp only [hd, ↓reduceIte] at h ⊢
        rw [Nat.add_assoc]
        exact e.readNumber_go positive _ _ _ (q + 1) (by omega) e.size_le h
      · simp only [hd, ↓reduceIte, Bool.false_eq_true] at h
        cases h
  · rw [hu] at h
    cases h

theorem Spells.embeds {s : String} (h : t.Spells i s) (hc : t.Closes (i + s.utf8ByteSize)) :
    Embeds ⟨s.toUTF8⟩ t i where
  bytes m hm := h m hm
  closes := hc

theorem skipBlank_of_get {k : Nat} (h : ∀ b, t.get? k = some b → isBlank b = false) :
    t.skipBlank k = k := by
  unfold skipBlank
  cases t.size with
  | zero => rfl
  | succ f =>
    rw [skipBlank.go]
    cases hb : t.get? k with
    | none => rfl
    | some b => simp [h b hb]

theorem spells_iff_bytes {s : String} {l : List UInt8} (hs : s.toByteArray = l.toByteArray) :
    t.Spells i s ↔ ∀ m < l.length, t.get? (i + m) = l[m]? := by
  unfold Spells String.utf8ByteSize
  rw [hs, List.size_toByteArray]
  simp only [getElem?_toByteArray]

end Text

/-- A literal word reads when its bytes stand at `i`. -/
theorem readWord_ok (w : List UInt8) : ∀ i, (∀ m < w.length, t.get? (i + m) = w[m]?) →
    readWord t w i = .ok (i + w.length) := by
  induction w with
  | nil => intro i _; rfl
  | cons b rest ih =>
    intro i h
    have hb : t.get? i = some b := by simpa using h 0 (by simp)
    rw [readWord, hb]
    simp only [↓reduceIte]
    rw [ih (i + 1) (fun m hm => by simpa [Nat.add_assoc, Nat.add_comm 1] using h (m + 1) (by simp; omega))]
    simp [Nat.add_assoc, Nat.add_comm 1]

/-! ## Pieces of written text -/

theorem skipBlank_of_some {k : Nat} {b : UInt8} (hb : t.get? k = some b) (hnb : isBlank b = false) :
    t.skipBlank k = k :=
  skipBlank_of_get fun b' hb' => by rw [hb] at hb'; cases hb'; exact hnb

theorem readWord_of_spells {s : String} {b : UInt8} {w : List UInt8}
    (hs : s.toByteArray = (b :: w).toByteArray) (h : t.Spells i s) :
    t.get? i = some b ∧ readWord t w (i + 1) = .ok (i + 1 + w.length) := by
  have hbytes := (spells_iff_bytes hs).mp h
  refine ⟨by simpa using hbytes 0 (by simp), readWord_ok w (i + 1) fun m hm => ?_⟩
  simpa [Nat.add_assoc, Nat.add_comm 1] using hbytes (m + 1) (by simp; omega)

theorem get?_of_spells_quote {s : String} (h : t.Spells i (quote s)) : t.get? i = some 34 := by
  rw [quote_eq, spells_append, spells_append, spells_singleton_of_lt (by decide)] at h
  exact h.1.1

theorem get?_of_spells_char {k : Nat} {c : Char} {s : String} (hc : c.toNat < 128)
    (h : t.Spells k (String.singleton c ++ s)) : t.get? k = some c.toNat.toUInt8 := by
  rw [spells_append, spells_singleton_of_lt hc] at h
  exact h.1

theorem two_le_quote_size (s : String) : 2 ≤ (quote s).utf8ByteSize := by
  rw [quote_eq, String.utf8ByteSize_append, String.utf8ByteSize_append,
    String.utf8ByteSize_singleton, utf8Size_of_lt (by decide)]
  omega

theorem size_ofString (s : String) : (⟨s.toUTF8⟩ : Text).size = s.utf8ByteSize :=
  String.size_toByteArray

theorem spells_self (s : String) : (⟨s.toUTF8⟩ : Text).Spells 0 s := by
  intro k _
  rw [Nat.zero_add]
  rfl

end Tether.Json
