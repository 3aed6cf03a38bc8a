import Mathlib
import Tether.Proofs.JsonReadBack
/-!
# Proofs.PrettyReadBack — indented text reads back as the value written

The indented layout (`pretty`) puts a line break and two spaces per level before every item
and member, a space after every colon, and a line break and the container's own indentation
before its closing bracket.  The reader skips blanks before every value, comma, colon and
closing bracket, so the indented text of a value reads back as the value, only at other
offsets: `prettyNodeAt d j i` is the node made of `j` written at depth `d` from offset `i`,
and `prettyReadsBackAt` says the reader makes exactly it.

The proof follows the compact one (`Proofs.JsonReadBack`), with a run of blanks skipped
before each piece (`skipBlank_blanks`).  It is stated for values without numbers
(`NumberFree`): a number ends where a non-digit follows, and the number lemmas at hand are
stated for the closing bytes of the compact layout, where the indented layout may have a
line break.
-/

namespace Tether.Json

set_option autoImplicit false

/-! ## Where the pieces of indented text stand -/

/-- The line break and indentation before an item or a member at depth `d`, and before a
closing bracket at the depth of its container. -/
def gap (d : Nat) : String := "\n" ++ indentation d

/-- Items after the first, each after its comma and its line break. -/
def prettyItemsAfter (d : Nat) (items : List Json) : String :=
  String.join (items.map fun j => "," ++ gap d ++ pretty d j)

/-- Members after the first, each after its comma and its line break. -/
def prettyMembersAfter (d : Nat) (fs : List (String × Json)) : String :=
  String.join (fs.map fun kv => "," ++ gap d ++ quote kv.1 ++ ": " ++ pretty d kv.2)

mutual
/-- The node the reader makes of the indented text of a value at depth `d` written at
offset `i`. -/
def prettyNodeAt (d : Nat) : Json → Nat → Node
  | .null, i => nodeAt .null i
  | .bool b, i => nodeAt (.bool b) i
  | .num n, i => nodeAt (.num n) i
  | .str s, i => nodeAt (.str s) i
  | .arr items, i =>
    .arr (prettyNodesAt (d + 1) items (i + 1)) i
      (.closed (i + (pretty d (.arr items)).utf8ByteSize)) none
  | .obj fs, i =>
    .obj (prettyMemberNodesAt (d + 1) fs (i + 1)) i
      (.closed (i + (pretty d (.obj fs)).utf8ByteSize)) none

/-- The nodes of items at depth `d`, the first line break at `p`, a comma after each. -/
def prettyNodesAt (d : Nat) : List Json → Nat → List Node
  | [], _ => []
  | j :: rest, p =>
    prettyNodeAt d j (p + (gap d).utf8ByteSize) ::
      prettyNodesAt d rest (p + (gap d).utf8ByteSize + (pretty d j).utf8ByteSize + 1)

/-- The members of an object at depth `d`, the first line break at `p`: key, offset after
the key, value's node. -/
def prettyMemberNodesAt (d : Nat) : List (String × Json) → Nat → List (String × Nat × Node)
  | [], _ => []
  | (k, v) :: rest, p =>
    (k, p + (gap d).utf8ByteSize + (quote k).utf8ByteSize,
      prettyNodeAt d v (p + (gap d).utf8ByteSize + (quote k).utf8ByteSize + 2)) ::
      prettyMemberNodesAt d rest
        (p + (gap d).utf8ByteSize + (quote k).utf8ByteSize + 2 + (pretty d v).utf8ByteSize + 1)
end

/-- A value with no number anywhere in it. -/
def NumberFree (j : Json) : Prop := All (fun j => ∀ n, j ≠ .num n) j

theorem indentation_size (d : Nat) : (indentation d).utf8ByteSize = 2 * d := by
  unfold indentation
  rw [String.utf8ByteSize_ofList]
  induction 2 * d with
  | zero => rfl
  | succ n ih => simp [List.replicate_succ, ih, show ' '.utf8Size = 1 from rfl]

theorem gap_size (d : Nat) : (gap d).utf8ByteSize = 2 * d + 1 := by
  rw [gap, String.utf8ByteSize_append, indentation_size]
  simp only [show "\n".utf8ByteSize = 1 from rfl]
  omega

theorem prettyItems_cons (d : Nat) (j : Json) (rest : List Json) :
    prettyItems d (j :: rest) = indentation d ++ pretty d j ++ prettyItemsAfter d rest := by
  induction rest generalizing j with
  | nil => simp [prettyItems, prettyItemsAfter]
  | cons k rest ih =>
    simp only [prettyItems] at ih ⊢
    rw [ih k]
    simp only [prettyItemsAfter, gap, List.map_cons, String.join_cons, String.append_assoc]
    rw [← @String.append_assoc "," "\n", show ("," : String) ++ "\n" = ",\n" by decide]

theorem prettyFields_cons (d : Nat) (k : String) (j : Json) (rest : List (String × Json)) :
    prettyFields d ((k, j) :: rest) =
      indentation d ++ quote k ++ ": " ++ pretty d j ++ prettyMembersAfter d rest := by
  induction rest generalizing k j with
  | nil => simp [prettyFields, prettyMembersAfter]
  | cons kv rest ih =>
    obtain ⟨k', j'⟩ := kv
    simp only [prettyFields] at ih ⊢
    rw [ih k' j']
    simp only [prettyMembersAfter, gap, List.map_cons, String.join_cons, String.append_assoc]
    rw [← @String.append_assoc "," "\n", show ("," : String) ++ "\n" = ",\n" by decide]

theorem pretty_arr_cons (d : Nat) (j : Json) (rest : List Json) :
    pretty d (.arr (j :: rest)) =
      "[" ++ gap (d + 1) ++ pretty (d + 1) j ++ prettyItemsAfter (d + 1) rest ++ gap d ++ "]" := by
  rw [pretty, prettyItems_cons]
  · simp only [gap, String.append_assoc]
    rfl
  · exact List.cons_ne_nil _ _

theorem pretty_obj_cons (d : Nat) (k : String) (j : Json) (rest : List (String × Json)) :
    pretty d (.obj ((k, j) :: rest)) =
      "\x7b" ++ gap (d + 1) ++ quote k ++ ": " ++ pretty (d + 1) j ++
        prettyMembersAfter (d + 1) rest ++ gap d ++ "\x7d" := by
  rw [pretty, prettyFields_cons]
  · simp only [gap, String.append_assoc]
    rfl
  · exact List.cons_ne_nil _ _

theorem prettyItemsAfter_cons (d : Nat) (j : Json) (rest : List Json) :
    prettyItemsAfter d (j :: rest) = "," ++ gap d ++ pretty d j ++ prettyItemsAfter d rest := by
  simp [prettyItemsAfter, String.append_assoc]

theorem prettyMembersAfter_cons (d : Nat) (k : String) (j : Json) (rest : List (String × Json)) :
    prettyMembersAfter d ((k, j) :: rest) =
      "," ++ gap d ++ quote k ++ ": " ++ pretty d j ++ prettyMembersAfter d rest := by
  simp [prettyMembersAfter, String.append_assoc]

theorem resumeAt_prettyNodeAt (d : Nat) (j : Json) (i : Nat) :
    (prettyNodeAt d j i).resumeAt = some (i + (pretty d j).utf8ByteSize) := by
  cases j <;> rfl

/-! ## Runs of blanks -/

namespace Text

variable {t : Text}

theorem skipBlank_go_blanks {p : Nat} : ∀ (n fuel : Nat), n ≤ fuel →
    (∀ m < n, ∃ b, t.get? (p + m) = some b ∧ isBlank b = true) →
    skipBlank.go t fuel p = skipBlank.go t (fuel - n) (p + n) := by
  intro n
  induction n generalizing p with
  | zero => intro fuel _ _; rfl
  | succ n ih =>
    intro fuel hn hb
    obtain ⟨f, rfl⟩ : ∃ f, fuel = f + 1 := ⟨fuel - 1, by omega⟩
    obtain ⟨b, hget, hblank⟩ := hb 0 (by omega)
    rw [Nat.add_zero] at hget
    rw [skipBlank.go, hget]
    simp only [hblank, if_true]
    rw [ih f (by omega) fun m hm => by simpa [Nat.add_assoc, Nat.add_comm 1 m] using hb (m + 1) (by omega)]
    congr 1 <;> omega

/-- Skipping blanks from `p` passes a run of `n` blanks and stops at the byte after it. -/
theorem skipBlank_blanks {p n : Nat} (hb : ∀ m < n, ∃ b, t.get? (p + m) = some b ∧ isBlank b = true)
    (hend : ∀ b, t.get? (p + n) = some b → isBlank b = false) : t.skipBlank p = p + n := by
  have hsize : n ≤ t.size := by
    rcases Nat.eq_zero_or_pos n with h | h
    · omega
    · obtain ⟨b, hget, -⟩ := hb (n - 1) (by omega)
      have := lt_size_of_get? hget
      omega
  unfold skipBlank
  rw [skipBlank_go_blanks n t.size hsize hb]
  cases t.size - n with
  | zero => rfl
  | succ f =>
    rw [skipBlank.go]
    cases hget : t.get? (p + n) with
    | none => rfl
    | some b => simp [hend b hget]

theorem spells_spaces {q : Nat} : ∀ k : Nat, t.Spells q (String.ofList (List.replicate k ' ')) →
    ∀ m < k, t.get? (q + m) = some 32 := by
  intro k
  induction k generalizing q with
  | zero => intro _ m hm; omega
  | succ k ih =>
    intro h m hm
    rw [List.replicate_succ, spells_ofList_cons, spells_singleton_of_lt (by decide)] at h
    cases m with
    | zero => simpa using h.1
    | succ m =>
      have := ih h.2 m (by omega)
      rwa [show q + ' '.utf8Size + m = q + (m + 1) by simp [show ' '.utf8Size = 1 from rfl]; omega]
        at this

/-- A line break and its indentation are blanks. -/
theorem Spells.gap_blanks {p d : Nat} (h : t.Spells p (gap d)) :
    ∀ m < (gap d).utf8ByteSize, ∃ b, t.get? (p + m) = some b ∧ isBlank b = true := by
  rw [gap, spells_append, show "\n".utf8ByteSize = 1 from rfl] at h
  obtain ⟨hnl, hind⟩ := h
  intro m hm
  rw [gap_size] at hm
  cases m with
  | zero =>
    refine ⟨10, ?_, by decide⟩
    simpa using (spells_iff_bytes (l := [10]) rfl).mp hnl 0 (by decide)
  | succ m =>
    refine ⟨32, ?_, by decide⟩
    have := spells_spaces (2 * d) hind m (by omega)
    rwa [show p + 1 + m = p + (m + 1) by omega] at this

/-- Skipping blanks at a line break passes it and its indentation. -/
theorem skipBlank_gap {p d : Nat} {s : String} (h : t.Spells p (gap d ++ s))
    (hend : ∀ b, t.get? (p + (gap d).utf8ByteSize) = some b → isBlank b = false) :
    t.skipBlank p = p + (gap d).utf8ByteSize :=
  skipBlank_blanks ((spells_append.mp h).1.gap_blanks) hend

end Text

/-! ## Reading a piece after blanks -/

section Pieces

open Text

variable {t : Text}

/-- The reader skips the blanks before a value. -/
theorem readValue_skip {f d p q : Nat} (h : t.skipBlank p = t.skipBlank q) :
    readValue t (f + 1) d p = readValue t (f + 1) d q := by
  rw [readValue, readValue, h]

theorem readItems_first_blank {f d start k k' k'' : Nat} {acc : List Node} {b : UInt8} {n : Node}
    (hs : t.skipBlank k = k') (hb : t.get? k' = some b) (hb93 : b ≠ 93)
    (hv : readValue t f d k' = n) (hr : n.resumeAt = some k'') :
    readItems t (f + 1) d start acc true k = readItems t f d start (n :: acc) false k'' := by
  rw [readItems, hs, hb]
  simp [hb, hv, hr]

theorem readItems_next_blank {f d start k k' k'' : Nat} {acc : List Node} {b : UInt8} {n : Node}
    (hk : t.get? k = some 44) (hs : t.skipBlank (k + 1) = k') (hb : t.get? k' = some b)
    (hb93 : b ≠ 93) (hv : readValue t f d k' = n) (hr : n.resumeAt = some k'') :
    readItems t (f + 1) d start acc false k = readItems t f d start (n :: acc) false k'' := by
  rw [readItems, skipBlank_of_some hk (by decide), hk]
  simp [hs, hb, hv, hr]

theorem readItems_end_blank {f d start k k' : Nat} {acc : List Node} {first : Bool}
    (hs : t.skipBlank k = k') (hk : t.get? k' = some 93) :
    readItems t (f + 1) d start acc first k = .arr acc.reverse start (.closed (k' + 1)) none := by
  rw [readItems, hs, hk]
  rfl

theorem readMembers_first_blank {f d start k q k'' : Nat} {acc : List (String × Nat × Node)}
    {key : String} {n : Node} (hs : t.skipBlank k = q) (hkey : t.Spells q (quote key))
    (hcolon : t.get? (q + (quote key).utf8ByteSize) = some 58)
    (hv : readValue t f d (q + (quote key).utf8ByteSize + 1) = n) (hr : n.resumeAt = some k'') :
    readMembers t (f + 1) d start acc true k =
      readMembers t f d start ((key, q + (quote key).utf8ByteSize, n) :: acc) false k'' := by
  have hq := get?_of_spells_quote hkey
  rw [readMembers, hs, hq]
  simp [hq, readString_quote hkey, skipBlank_of_some hcolon (by decide), hcolon, hv, hr]

theorem readMembers_next_blank {f d start k q k'' : Nat} {acc : List (String × Nat × Node)}
    {key : String} {n : Node} (hk : t.get? k = some 44) (hs : t.skipBlank (k + 1) = q)
    (hkey : t.Spells q (quote key)) (hcolon : t.get? (q + (quote key).utf8ByteSize) = some 58)
    (hv : readValue t f d (q + (quote key).utf8ByteSize + 1) = n) (hr : n.resumeAt = some k'') :
    readMembers t (f + 1) d start acc false k =
      readMembers t f d start ((key, q + (quote key).utf8ByteSize, n) :: acc) false k'' := by
  have hq := get?_of_spells_quote hkey
  rw [readMembers, skipBlank_of_some hk (by decide), hk]
  simp [hs, hq, readString_quote hkey, skipBlank_of_some hcolon (by decide), hcolon, hv, hr]

theorem readMembers_end_blank {f d start k k' : Nat} {acc : List (String × Nat × Node)}
    {first : Bool} (hs : t.skipBlank k = k') (hk : t.get? k' = some 125) :
    readMembers t (f + 1) d start acc first k = .obj acc.reverse start (.closed (k' + 1)) none := by
  rw [readMembers, hs, hk]
  rfl

/-- The first byte of an indented value without numbers opens it: never a blank, never a
closing bracket. -/
theorem pretty_first_byte {j : Json} {d i : Nat} (hj : ∀ n, j ≠ .num n)
    (h : t.Spells i (pretty d j)) : ∃ b, t.get? i = some b ∧ b ≠ 93 ∧ isBlank b = false := by
  cases j with
  | null => exact ⟨110, (readWord_of_spells (w := [117, 108, 108]) rfl h).1, by decide, by decide⟩
  | bool b =>
    cases b with
    | true => exact ⟨116, (readWord_of_spells (w := [114, 117, 101]) rfl h).1, by decide, by decide⟩
    | false =>
      exact ⟨102, (readWord_of_spells (w := [97, 108, 115, 101]) rfl h).1, by decide, by decide⟩
  | num n => exact absurd rfl (hj n)
  | str s => exact ⟨34, get?_of_spells_quote h, by decide, by decide⟩
  | arr items =>
    cases items with
    | nil =>
      exact ⟨91, get?_of_spells_char (c := '[') (s := "]") (by decide) h, by decide, by decide⟩
    | cons x rest =>
      rw [pretty_arr_cons, String.append_assoc, String.append_assoc, String.append_assoc,
        String.append_assoc] at h
      exact ⟨91, get?_of_spells_char (c := '[') (by decide) h, by decide, by decide⟩
  | obj fs =>
    cases fs with
    | nil =>
      exact ⟨123, get?_of_spells_char (c := '{') (s := "\x7d") (by decide) h, by decide, by decide⟩
    | cons kv rest =>
      obtain ⟨k, v⟩ := kv
      rw [pretty_obj_cons] at h
      simp only [String.append_assoc] at h
      exact ⟨123, get?_of_spells_char (c := '{') (by decide) h, by decide, by decide⟩

end Pieces

/-! ## Reading indented values -/

/-- Reading with `fuel` gives back the node of every indented value without numbers written
in fewer bytes, nested no deeper than the reader allows. -/
def PrettyReadsBackAt (t : Text) (fuel : Nat) : Prop :=
  ∀ (j : Json) (d depth i : Nat), NumberFree j → depth + nesting j ≤ depthLimit →
    t.Spells i (pretty d j) → (pretty d j).utf8ByteSize < fuel →
    readValue t fuel depth i = prettyNodeAt d j i

section Dispatch

open Text

variable {t : Text}

/-- The value after a line break: the break is skipped, the value read, and reading stands
after it. -/
theorem readValue_after_gap {f depth p e : Nat} {x : Json} {s : String}
    (hv : PrettyReadsBackAt t f) (hx : NumberFree x) (hdepth : depth + nesting x ≤ depthLimit)
    (h : t.Spells p (gap e ++ (pretty e x ++ s))) (hsize : (pretty e x).utf8ByteSize < f) :
    t.skipBlank p = p + (gap e).utf8ByteSize ∧
      ∃ b, t.get? (p + (gap e).utf8ByteSize) = some b ∧ b ≠ 93 ∧
        readValue t f depth (p + (gap e).utf8ByteSize) = prettyNodeAt e x (p + (gap e).utf8ByteSize) := by
  have hparts := h
  rw [spells_append, spells_append] at hparts
  obtain ⟨-, hx', -⟩ := hparts
  obtain ⟨b, hb, hb93, hnb⟩ := pretty_first_byte (fun n hn => by subst hn; exact hx.self n rfl) hx'
  refine ⟨skipBlank_gap h fun b' hb' => ?_, b, hb, hb93, hv x e depth _ hx hdepth hx' hsize⟩
  rw [hb] at hb'
  cases hb'
  exact hnb

/-- The items after the first, read one by one after their commas and line breaks up to the
closing bracket. -/
theorem prettyItems_after {e d depth start : Nat} :
    ∀ (rest : List Json) (fuel k : Nat) (acc : List Node), (∀ f < fuel, PrettyReadsBackAt t f) →
    AllItems (fun j => ∀ n, j ≠ .num n) rest → depth + nestingItems rest ≤ depthLimit →
    t.Spells k (prettyItemsAfter e rest ++ gap d ++ "]") →
    (prettyItemsAfter e rest ++ gap d ++ "]").utf8ByteSize ≤ fuel →
    readItems t fuel depth start acc false k =
      .arr (acc.reverse ++ prettyNodesAt e rest (k + 1)) start
        (.closed (k + (prettyItemsAfter e rest).utf8ByteSize + (gap d).utf8ByteSize + 1)) none := by
  have hclose : "]".utf8ByteSize = 1 := rfl
  intro rest
  induction rest with
  | nil =>
    intro fuel k acc _ _ _ h hsize
    simp only [prettyItemsAfter, List.map_nil, String.join_nil, String.empty_append] at h hsize ⊢
    have hb : t.get? (k + (gap d).utf8ByteSize) = some 93 := by
      rw [spells_append] at h
      exact get?_of_spells_char (c := ']') (s := "") (by decide) (by simpa using h.2)
    obtain ⟨f, rfl⟩ : ∃ f, fuel = f + 1 :=
      ⟨fuel - 1, by simp only [String.utf8ByteSize_append, hclose] at hsize; omega⟩
    rw [readItems_end_blank (skipBlank_gap h fun b hb' => by rw [hb] at hb'; cases hb'; rfl) hb]
    simp [prettyNodesAt, String.utf8ByteSize_empty]
  | cons x rest ih =>
    intro fuel k acc hv hall hdepth h hsize
    simp only [AllItems] at hall
    obtain ⟨hx, hrest⟩ := hall
    simp only [nestingItems] at hdepth
    rw [prettyItemsAfter_cons] at h hsize ⊢
    simp only [String.append_assoc] at h
    rw [spells_append, show ",".utf8ByteSize = 1 from rfl] at h
    obtain ⟨hcomma, hitem⟩ := h
    have hk : t.get? k = some 44 := by
      simpa using (spells_iff_bytes (l := [44]) rfl).mp hcomma 0 (by decide)
    have hts := hitem
    rw [spells_append, spells_append] at hts
    obtain ⟨-, -, hts⟩ := hts
    simp only [String.utf8ByteSize_append, show ",".utf8ByteSize = 1 from rfl, hclose] at hsize ⊢
    obtain ⟨f, rfl⟩ : ∃ f, fuel = f + 1 := ⟨fuel - 1, by omega⟩
    have hdx : depth + nesting x ≤ depthLimit := by omega
    obtain ⟨hskip, b, hb, hb93, hread⟩ :=
      readValue_after_gap (hv f (by omega)) hx hdx hitem (by omega)
    rw [readItems_next_blank hk hskip hb hb93 hread (resumeAt_prettyNodeAt e x _),
      ih f _ _ (fun f' hf' => hv f' (by omega)) hrest (by omega)
        (by simpa only [String.append_assoc] using hts)
        (by simp only [String.utf8ByteSize_append, hclose]; omega)]
    simp only [List.reverse_cons, List.append_assoc, List.singleton_append, prettyNodesAt]
    congr 3
    omega

/-- The items of an array, from the line break before the first, read up to the closing
bracket. -/
theorem prettyItems_written {e d depth start : Nat} (x : Json) (rest : List Json) (fuel i : Nat)
    (hv : ∀ f < fuel, PrettyReadsBackAt t f)
    (hall : AllItems (fun j => ∀ n, j ≠ .num n) (x :: rest))
    (hdepth : depth + nestingItems (x :: rest) ≤ depthLimit)
    (h : t.Spells i (gap e ++ pretty e x ++ prettyItemsAfter e rest ++ gap d ++ "]"))
    (hsize : (gap e ++ pretty e x ++ prettyItemsAfter e rest ++ gap d ++ "]").utf8ByteSize < fuel) :
    readItems t fuel depth start [] true i =
      .arr (prettyNodesAt e (x :: rest) i) start
        (.closed (i + (gap e ++ pretty e x ++ prettyItemsAfter e rest ++ gap d).utf8ByteSize + 1))
        none := by
  have hclose : "]".utf8ByteSize = 1 := rfl
  simp only [AllItems] at hall
  obtain ⟨hx, hrest⟩ := hall
  simp only [nestingItems] at hdepth
  have hdx : depth + nesting x ≤ depthLimit := by omega
  simp only [String.append_assoc] at h
  have hts := h
  rw [spells_append, spells_append] at hts
  obtain ⟨-, -, hts⟩ := hts
  simp only [String.utf8ByteSize_append, hclose] at hsize ⊢
  obtain ⟨f, rfl⟩ : ∃ f, fuel = f + 1 := ⟨fuel - 1, by omega⟩
  obtain ⟨hskip, b, hb, hb93, hread⟩ := readValue_after_gap (hv f (by omega)) hx hdx h (by omega)
  rw [readItems_first_blank hskip hb hb93 hread (resumeAt_prettyNodeAt e x _),
    prettyItems_after rest f _ _ (fun f' hf' => hv f' (by omega)) hrest (by omega)
      (by simpa only [String.append_assoc] using hts)
      (by simp only [String.utf8ByteSize_append, hclose]; omega)]
  simp only [List.reverse_cons, List.reverse_nil, List.nil_append, List.singleton_append,
    prettyNodesAt]
  congr 2
  omega

/-- A member after a line break: the break is skipped, then come its key, the colon, a space
and the value, read where it stands. -/
theorem readMember_after_gap {f depth p e : Nat} {key : String} {v : Json} {s : String}
    (hv : PrettyReadsBackAt t (f + 1)) (hx : NumberFree v) (hdepth : depth + nesting v ≤ depthLimit)
    (h : t.Spells p (gap e ++ (quote key ++ (": " ++ (pretty e v ++ s)))))
    (hsize : (pretty e v).utf8ByteSize < f + 1) :
    t.skipBlank p = p + (gap e).utf8ByteSize ∧ t.Spells (p + (gap e).utf8ByteSize) (quote key) ∧
      t.get? (p + (gap e).utf8ByteSize + (quote key).utf8ByteSize) = some 58 ∧
      readValue t (f + 1) depth (p + (gap e).utf8ByteSize + (quote key).utf8ByteSize + 1) =
        prettyNodeAt e v (p + (gap e).utf8ByteSize + (quote key).utf8ByteSize + 2) := by
  have hparts := h
  rw [spells_append, spells_append, spells_append, spells_append] at hparts
  obtain ⟨-, hkey, hsep, hval, -⟩ := hparts
  have hsep' := hsep
  rw [show (": " : String) = ":" ++ " " from rfl, spells_append] at hsep'
  have hcolon : t.get? (p + (gap e).utf8ByteSize + (quote key).utf8ByteSize) = some 58 := by
    simpa using (spells_iff_bytes (l := [58]) rfl).mp hsep'.1 0 (by decide)
  have hspace : t.get? (p + (gap e).utf8ByteSize + (quote key).utf8ByteSize + 1) = some 32 := by
    simpa [show ":".utf8ByteSize = 1 from rfl] using
      (spells_iff_bytes (l := [32]) rfl).mp hsep'.2 0 (by decide)
  obtain ⟨b, hb, -, hnb⟩ :=
    pretty_first_byte (fun n hn => by subst hn; exact hx.self n rfl) hval
  rw [show (": " : String).utf8ByteSize = 2 from rfl] at hb hval
  refine ⟨skipBlank_gap h fun b' hb' => ?_, hkey, hcolon, ?_⟩
  · rw [get?_of_spells_quote hkey] at hb'
    cases hb'
    rfl
  · -- the space after the colon is skipped before the value
    have hskip1 : t.skipBlank (p + (gap e).utf8ByteSize + (quote key).utf8ByteSize + 1) =
        p + (gap e).utf8ByteSize + (quote key).utf8ByteSize + 1 + 1 :=
      skipBlank_blanks (fun m hm => ⟨32, by rw [show m = 0 by omega]; exact hspace,
        by decide⟩) (fun b' hb' => by rw [hb] at hb'; cases hb'; exact hnb)
    rw [readValue_skip (show t.skipBlank (p + (gap e).utf8ByteSize + (quote key).utf8ByteSize + 1)
      = t.skipBlank (p + (gap e).utf8ByteSize + (quote key).utf8ByteSize + 2)
      by rw [hskip1, skipBlank_of_some hb hnb])]
    exact hv v e depth _ hx hdepth hval hsize

/-- The members after the first, read one by one after their commas and line breaks up to
the closing brace. -/
theorem prettyMembers_after {e d depth start : Nat} :
    ∀ (rest : List (String × Json)) (fuel k : Nat) (acc : List (String × Nat × Node)),
    (∀ f < fuel, PrettyReadsBackAt t f) → AllFields (fun j => ∀ n, j ≠ .num n) rest →
    depth + nestingFields rest ≤ depthLimit →
    t.Spells k (prettyMembersAfter e rest ++ gap d ++ "\x7d") →
    (prettyMembersAfter e rest ++ gap d ++ "\x7d").utf8ByteSize ≤ fuel →
    readMembers t fuel depth start acc false k =
      .obj (acc.reverse ++ prettyMemberNodesAt e rest (k + 1)) start
        (.closed (k + (prettyMembersAfter e rest).utf8ByteSize + (gap d).utf8ByteSize + 1))
        none := by
  have hclose : "\x7d".utf8ByteSize = 1 := rfl
  intro rest
  induction rest with
  | nil =>
    intro fuel k acc _ _ _ h hsize
    simp only [prettyMembersAfter, List.map_nil, String.join_nil, String.empty_append]
      at h hsize ⊢
    have hb : t.get? (k + (gap d).utf8ByteSize) = some 125 := by
      rw [spells_append] at h
      exact get?_of_spells_char (c := '}') (s := "") (by decide) (by simpa using h.2)
    obtain ⟨f, rfl⟩ : ∃ f, fuel = f + 1 :=
      ⟨fuel - 1, by simp only [String.utf8ByteSize_append, hclose] at hsize; omega⟩
    rw [readMembers_end_blank (skipBlank_gap h fun b hb' => by rw [hb] at hb'; cases hb'; rfl) hb]
    simp [prettyMemberNodesAt, String.utf8ByteSize_empty]
  | cons kv rest ih =>
    obtain ⟨key, v⟩ := kv
    intro fuel k acc hv hall hdepth h hsize
    simp only [AllFields] at hall
    obtain ⟨hx, hrest⟩ := hall
    simp only [nestingFields] at hdepth
    have hdx : depth + nesting v ≤ depthLimit := by omega
    rw [prettyMembersAfter_cons] at h hsize ⊢
    simp only [String.append_assoc] at h
    rw [spells_append, show ",".utf8ByteSize = 1 from rfl] at h
    obtain ⟨hcomma, hmember⟩ := h
    have hk : t.get? k = some 44 := by
      simpa using (spells_iff_bytes (l := [44]) rfl).mp hcomma 0 (by decide)
    have hts := hmember
    rw [spells_append, spells_append, spells_append, spells_append] at hts
    obtain ⟨-, -, -, -, hts⟩ := hts
    simp only [String.utf8ByteSize_append, show ",".utf8ByteSize = 1 from rfl,
      show (": " : String).utf8ByteSize = 2 from rfl, hclose] at hsize hts ⊢
    obtain ⟨f, rfl⟩ : ∃ f, fuel = f + 2 := ⟨fuel - 2, by have := two_le_quote_size key; omega⟩
    obtain ⟨hskip, hkey, hcolon, hread⟩ :=
      readMember_after_gap (hv (f + 1) (by omega)) hx hdx hmember (by omega)
    rw [readMembers_next_blank hk hskip hkey hcolon hread (resumeAt_prettyNodeAt e v _),
      ih (f + 1) _ _ (fun f' hf' => hv f' (by omega)) hrest (by omega)
        (by simpa only [String.append_assoc] using hts)
        (by simp only [String.utf8ByteSize_append, hclose]; omega)]
    simp only [List.reverse_cons, List.append_assoc, List.singleton_append, prettyMemberNodesAt]
    congr 3
    omega

/-- The members of an object, from the line break before the first, read up to the closing
brace. -/
theorem prettyMembers_written {e d depth start : Nat} (key : String) (v : Json)
    (rest : List (String × Json)) (fuel i : Nat) (hv : ∀ f < fuel, PrettyReadsBackAt t f)
    (hall : AllFields (fun j => ∀ n, j ≠ .num n) ((key, v) :: rest))
    (hdepth : depth + nestingFields ((key, v) :: rest) ≤ depthLimit)
    (h : t.Spells i (gap e ++ quote key ++ ": " ++ pretty e v ++ prettyMembersAfter e rest ++
      gap d ++ "\x7d"))
    (hsize : (gap e ++ quote key ++ ": " ++ pretty e v ++ prettyMembersAfter e rest ++ gap d ++
      "\x7d").utf8ByteSize < fuel) :
    readMembers t fuel depth start [] true i =
      .obj (prettyMemberNodesAt e ((key, v) :: rest) i) start
        (.closed (i + (gap e ++ quote key ++ ": " ++ pretty e v ++ prettyMembersAfter e rest ++
          gap d).utf8ByteSize + 1)) none := by
  have hclose : "\x7d".utf8ByteSize = 1 := rfl
  simp only [AllFields] at hall
  obtain ⟨hx, hrest⟩ := hall
  simp only [nestingFields] at hdepth
  have hdx : depth + nesting v ≤ depthLimit := by omega
  simp only [String.append_assoc] at h
  have hts := h
  rw [spells_append, spells_append, spells_append, spells_append] at hts
  obtain ⟨-, -, -, -, hts⟩ := hts
  simp only [String.utf8ByteSize_append, show (": " : String).utf8ByteSize = 2 from rfl, hclose]
    at hsize hts ⊢
  obtain ⟨f, rfl⟩ : ∃ f, fuel = f + 2 := ⟨fuel - 2, by have := two_le_quote_size key; omega⟩
  obtain ⟨hskip, hkey, hcolon, hread⟩ :=
    readMember_after_gap (hv (f + 1) (by omega)) hx hdx h (by omega)
  rw [readMembers_first_blank hskip hkey hcolon hread (resumeAt_prettyNodeAt e v _),
    prettyMembers_after rest (f + 1) _ _ (fun f' hf' => hv f' (by omega)) hrest (by omega)
      (by simpa only [String.append_assoc] using hts)
      (by simp only [String.utf8ByteSize_append, hclose]; omega)]
  simp only [List.reverse_cons, List.reverse_nil, List.nil_append, List.singleton_append,
    prettyMemberNodesAt]
  congr 2
  omega

/-- The indented text of every value without numbers, nested no deeper than the reader
allows, reads back as that value's node, given more fuel than its length. -/
theorem prettyReadsBackAt (fuel : Nat) : PrettyReadsBackAt t fuel := by
  induction fuel using Nat.strong_induction_on with
  | _ fuel ih =>
    intro j d depth i hall hdepth h hsize
    obtain ⟨f, rfl⟩ : ∃ f, fuel = f + 1 := ⟨fuel - 1, by omega⟩
    cases j with
    | null => exact readValue_null h
    | bool b => exact readValue_bool b h
    | num n => exact absurd rfl (hall.self n)
    | str s => exact readValue_str h
    | arr items =>
      simp only [nesting] at hdepth
      simp only [NumberFree, All] at hall
      cases items with
      | nil =>
        have hb : t.get? i = some 91 := get?_of_spells_char (c := '[') (s := "]") (by decide) h
        have hb' : t.get? (i + 1) = some 93 := by
          simpa using (spells_iff_bytes (l := [91, 93]) rfl).mp h 1 (by decide)
        rw [readValue_arr (by omega) hb]
        cases f with
        | zero => simp [pretty, show "[]".utf8ByteSize = 2 from rfl] at hsize
        | succ f =>
          rw [readItems_end_blank (skipBlank_of_some hb' (by decide)) hb']
          rfl
      | cons x rest =>
        -- the bracket, then the items read by `prettyItems_written`
        rw [pretty_arr_cons, String.append_assoc, String.append_assoc, String.append_assoc,
          String.append_assoc, spells_append, show "[".utf8ByteSize = 1 from rfl] at h
        obtain ⟨hopen, hbody⟩ := h
        have hb : t.get? i = some 91 := by
          simpa using (spells_iff_bytes (l := [91]) rfl).mp hopen 0 (by decide)
        rw [pretty_arr_cons] at hsize
        simp only [String.utf8ByteSize_append, show "[".utf8ByteSize = 1 from rfl,
          show "]".utf8ByteSize = 1 from rfl] at hsize
        rw [readValue_arr (by omega) hb, prettyItems_written x rest f (i + 1)
          (fun m hm => ih m (by omega)) hall.2 (by omega)
          (by simpa only [String.append_assoc] using hbody)
          (by simp only [String.utf8ByteSize_append, show "]".utf8ByteSize = 1 from rfl]; omega)]
        simp only [prettyNodeAt, pretty_arr_cons, String.utf8ByteSize_append,
          show "[".utf8ByteSize = 1 from rfl, show "]".utf8ByteSize = 1 from rfl]
        congr 2
        omega
    | obj fs =>
      simp only [nesting] at hdepth
      simp only [NumberFree, All] at hall
      cases fs with
      | nil =>
        have hb : t.get? i = some 123 :=
          get?_of_spells_char (c := '{') (s := "\x7d") (by decide) h
        have hb' : t.get? (i + 1) = some 125 := by
          simpa using (spells_iff_bytes (l := [123, 125]) rfl).mp h 1 (by decide)
        rw [readValue_obj (by omega) hb]
        cases f with
        | zero => simp [pretty, show "\x7b\x7d".utf8ByteSize = 2 from rfl] at hsize
        | succ f =>
          rw [readMembers_end_blank (skipBlank_of_some hb' (by decide)) hb']
          rfl
      | cons kv rest =>
        obtain ⟨key, v⟩ := kv
        -- the brace, then the members read by `prettyMembers_written`
        rw [pretty_obj_cons] at h hsize
        simp only [String.append_assoc] at h
        rw [spells_append, show "\x7b".utf8ByteSize = 1 from rfl] at h
        obtain ⟨hopen, hbody⟩ := h
        have hb : t.get? i = some 123 := by
          simpa using (spells_iff_bytes (l := [123]) rfl).mp hopen 0 (by decide)
        simp only [String.utf8ByteSize_append, show "\x7b".utf8ByteSize = 1 from rfl,
          show "\x7d".utf8ByteSize = 1 from rfl] at hsize
        rw [readValue_obj (by omega) hb, prettyMembers_written key v rest f (i + 1)
          (fun m hm => ih m (by omega)) hall.2 (by omega)
          (by simpa only [String.append_assoc] using hbody)
          (by simp only [String.utf8ByteSize_append, show "\x7d".utf8ByteSize = 1 from rfl]; omega)]
        simp only [prettyNodeAt, pretty_obj_cons, String.utf8ByteSize_append,
          show "\x7b".utf8ByteSize = 1 from rfl, show "\x7d".utf8ByteSize = 1 from rfl]
        congr 2
        omega

end Dispatch

/-! ## Whole texts and their values -/

section Document

open Text

/-- The indented text of a value without numbers that nests no deeper than the reader
allows reads back as its node, with nothing after it. -/
theorem read_pretty {j : Json} (hall : NumberFree j) (hdepth : nesting j ≤ depthLimit) :
    (Document.read (renderPretty j)).root = prettyNodeAt 0 j 0 ∧
      (Document.read (renderPretty j)).trailing = none := by
  have hend : (⟨(renderPretty j).toUTF8⟩ : Text).get? (renderPretty j).utf8ByteSize = none :=
    get?_size ⟨(renderPretty j).toUTF8⟩
  have hroot : readValue ⟨(renderPretty j).toUTF8⟩
      (2 * (⟨(renderPretty j).toUTF8⟩ : Text).size + 4) 0 0 = prettyNodeAt 0 j 0 :=
    prettyReadsBackAt _ j 0 0 0 hall (by omega) (spells_self _)
      (by rw [size_ofString, renderPretty]; omega)
  refine ⟨hroot, ?_⟩
  simp only [Document.read, hroot, resumeAt_prettyNodeAt, Nat.zero_add]
  rw [← renderPretty, skipBlank_of_get (t := ⟨(renderPretty j).toUTF8⟩)
    (fun b hb => by rw [hend] at hb; cases hb)]
  rw [if_neg (by rw [size_ofString]; omega)]

end Document

mutual
/-- The node of an indented value the wire carries shows that value. -/
theorem toJson_prettyNodeAt (d : Nat) : ∀ (j : Json) (i : Nat), OnWire j →
    (prettyNodeAt d j i).toJson = .ok j
  | .null, _, _ => rfl
  | .bool _, _, _ => rfl
  | .num _, _, _ => rfl
  | .str _, _, _ => rfl
  | .arr items, i, h => by
    rw [prettyNodeAt, Node.toJson, itemsToJson_prettyNodesAt (d + 1) items (i + 1) h.2]
    rfl
  | .obj fs, i, h => by
    rw [prettyNodeAt, Node.toJson, membersToJson_prettyMemberNodesAt (d + 1) fs (i + 1) h.2]
    show Except.ok (Json.object fs) = _
    rw [object_of_ascending h.1]

theorem itemsToJson_prettyNodesAt (d : Nat) : ∀ (items : List Json) (i : Nat),
    AllItems OnWireAt items → Node.itemsToJson (prettyNodesAt d items i) = .ok items
  | [], _, _ => rfl
  | j :: rest, i, h => by
    rw [prettyNodesAt, Node.itemsToJson, toJson_prettyNodeAt d j _ h.1,
      itemsToJson_prettyNodesAt d rest _ h.2]
    rfl

theorem membersToJson_prettyMemberNodesAt (d : Nat) : ∀ (fs : List (String × Json)) (i : Nat),
    AllFields OnWireAt fs → Node.membersToJson (prettyMemberNodesAt d fs i) = .ok fs
  | [], _, _ => rfl
  | (k, j) :: rest, i, h => by
    rw [prettyMemberNodesAt, Node.membersToJson, toJson_prettyNodeAt d j _ h.1,
      membersToJson_prettyMemberNodesAt d rest _ h.2]
    rfl
end

end Tether.Json
