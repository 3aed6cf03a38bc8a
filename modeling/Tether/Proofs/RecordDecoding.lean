import Tether.Proofs.FrameCodec
/-!
# Proofs.RecordDecoding — decoders read values wherever they are written

A decoder works on the nodes the reader makes, which carry the offsets of the text.  The
laws here say what a decoder gives on the node of a value written at any offset, through a
reader of values (`Reads d read`): whatever `read` makes of a value, `d` makes of its node.
Laws of this form compose, offset-free, the way the decoders do:

* scalars, options and sequences read what their readers read (`reads_string`,
  `Reads.option`, `Reads.list`);
* a record decodes an object without repeated keys whose members it accepts as the record's
  build sees the members named by its fields (`Record.decode_memberNodesAt`); a field with a
  default takes the member's value when present and the default otherwise
  (`field_build_default`);
* a tagged union decodes an object wherever its tag stands among the members
  (`decodeTagged_tag_within`).
-/

namespace Tether.Json

set_option autoImplicit false

variable {α β : Type}

/-! ## Readers of values -/

/-- A decoder reads what `read` reads: on the node of a value written at any offset, it gives
what `read` gives of that value, whenever that is something. -/
def Reads (d : Decoder α) (read : Json → Option α) : Prop :=
  ∀ (src : Source) (j : Json) (i : Nat) (x : α), read j = some x → d src (nodeAt j i) = .ok x

/-- A string's text. -/
def asString : Json → Option String
  | .str s => some s
  | _ => none

/-- A boolean's value. -/
def asBool : Json → Option Bool
  | .bool b => some b
  | _ => none

/-- An unsigned integer up to `limit`. -/
def asNatUpTo (limit : Nat) : Json → Option Nat
  | .num (.nat n) => if n ≤ limit then some n else none
  | _ => none

/-- Any number, as a double. -/
def asFloat : Json → Option Float
  | .num n => some n.toFloat
  | _ => none

/-- `null` as absent, anything else as `read` reads it. -/
def asOption (read : Json → Option α) : Json → Option (Option α)
  | .null => some none
  | j => (read j).map some

/-- A sequence whose every item `read` reads. -/
def asList (read : Json → Option α) : Json → Option (List α)
  | .arr items => items.mapM read
  | _ => none

/-- An object without repeated keys, as `read` reads its members. -/
def asObject (read : List (String × Json) → Option α) : Json → Option α
  | .obj fs => if (fs.map Prod.fst).Nodup then read fs else none
  | _ => none

/-- The value a member gives a field with a default: `read` of the member when the object
has it, the default otherwise. -/
def fieldOr (read : Json → Option α) (fs : List (String × Json)) (k : String) (a : α) :
    Option α :=
  match fs.lookup k with
  | some j => read j
  | none => some a

/-- The value a member gives a required field. -/
def fieldReq (read : Json → Option α) (fs : List (String × Json)) (k : String) : Option α :=
  (fs.lookup k).bind read

section Scalars

theorem reads_string : Reads decodeString asString := by
  intro src j i x h
  cases j <;> simp [asString] at h
  subst h
  rfl

theorem reads_bool : Reads decodeBool asBool := by
  intro src j i x h
  cases j <;> simp [asBool] at h
  subst h
  rfl

theorem reads_unsigned (limit : Nat) (name : String) :
    Reads (decodeUnsigned limit name) (asNatUpTo limit) := by
  intro src j i x h
  cases j with
  | num n =>
    cases n with
    | nat n =>
      simp only [asNatUpTo] at h
      split at h
      · cases h
        simp [decodeUnsigned, nodeAt, *]
      · cases h
    | _ => simp [asNatUpTo] at h
  | _ => simp [asNatUpTo] at h

theorem reads_f64 : Reads decodeF64 asFloat := by
  intro src j i x h
  cases j <;> simp [asFloat] at h
  subst h
  rfl

theorem Reads.option {d : Decoder α} {read : Json → Option α} (hd : Reads d read) :
    Reads (decodeOption d) (asOption read) := by
  intro src j i x h
  cases j with
  | null =>
    simp only [asOption, Option.some.injEq] at h
    subst h
    rfl
  | _ =>
    simp only [asOption, Option.map_eq_some_iff] at h
    obtain ⟨a, ha, rfl⟩ := h
    have hdec := hd src _ i a ha
    simp only [nodeAt] at hdec
    simp [decodeOption, nodeAt, hdec, Except.map]

end Scalars

/-! ## Sequences -/

section Sequences

variable {d : Decoder α} {read : Json → Option α}

theorem decodeList_go_nodesAt (hd : Reads d read) (src : Source) :
    ∀ (items : List Json) (i : Nat) (acc xs : List α), items.mapM read = some xs →
      decodeList.go d src (nodesAt items i) acc = .ok (acc.reverse ++ xs)
  | [], _, acc, xs, h => by
    simp only [List.mapM_nil, Option.pure_def, Option.some.injEq] at h
    subst h
    simp [nodesAt, decodeList.go]
  | j :: rest, i, acc, xs, h => by
    simp only [List.mapM_cons, Option.bind_eq_bind, Option.bind_eq_some_iff,
      Option.pure_def, Option.some.injEq] at h
    obtain ⟨x, hx, ys, hys, rfl⟩ := h
    simp only [nodesAt, decodeList.go, hd src j i x hx]
    rw [decodeList_go_nodesAt hd src rest _ (x :: acc) ys hys]
    simp

theorem Reads.list (hd : Reads d read) : Reads (decodeList d) (asList read) := by
  intro src j i xs h
  cases j with
  | arr items =>
    simp only [asList] at h
    simp [decodeList, nodeAt, decodeList_go_nodesAt hd src items _ [] xs h, Close.error?, bind,
      Except.bind, pure, Except.pure]
  | _ => simp [asList] at h

end Sequences

/-! ## Members of written objects -/

section Members

variable {γ : Type}

/-- The lookup past a pair, as a choice on the key. -/
theorem lookup_cons_ite (k k' : String) (v : γ) (l : List (String × γ)) :
    ((k', v) :: l).lookup k = if k = k' then some v else l.lookup k := by
  simp only [List.lookup_cons]
  split <;> simp_all

/-- With keys that do not repeat, a key looks up exactly the value it is paired with. -/
theorem lookup_eq_some_iff_mem {l : List (String × γ)} (hnd : (l.map Prod.fst).Nodup)
    {k : String} {v : γ} : l.lookup k = some v ↔ (k, v) ∈ l := by
  induction l with
  | nil => simp
  | cons kv rest ih =>
    obtain ⟨k', v'⟩ := kv
    have hnot : k' ∉ rest.map Prod.fst := (List.nodup_cons.mp hnd).1
    rw [lookup_cons_ite]
    by_cases hk : k = k'
    · subst hk
      have hout : (k, v) ∉ rest := fun h => hnot (List.mem_map.mpr ⟨(k, v), h, rfl⟩)
      simp [hout, eq_comm]
    · rw [if_neg hk, ih (List.nodup_cons.mp hnd).2]
      simp [hk]

/-- Two lists without repeated keys and with the same pairs look keys up alike. -/
theorem lookup_congr_of_mem_iff {l l' : List (String × γ)} (hnd : (l.map Prod.fst).Nodup)
    (hnd' : (l'.map Prod.fst).Nodup) (hmem : ∀ x, x ∈ l ↔ x ∈ l') (k : String) :
    l.lookup k = l'.lookup k := by
  cases h : l.lookup k with
  | some v => exact ((lookup_eq_some_iff_mem hnd').mpr ((hmem _).mp ((lookup_eq_some_iff_mem hnd).mp h))).symm
  | none =>
    cases h' : l'.lookup k with
    | none => rfl
    | some v =>
      have := (lookup_eq_some_iff_mem hnd).mpr ((hmem _).mpr ((lookup_eq_some_iff_mem hnd').mp h'))
      rw [h] at this
      cases this

theorem keys_memberNodesAt : ∀ (fs : List (String × Json)) (p : Nat),
    (memberNodesAt fs p).map Prod.fst = fs.map Prod.fst
  | [], _ => rfl
  | (k, j) :: rest, p => by
    simp only [memberNodesAt, List.map_cons, keys_memberNodesAt rest]

/-- Every member node is the node of a member's value, at some offset. -/
theorem mem_memberNodesAt : ∀ {fs : List (String × Json)} {p : Nat} {m : String × Nat × Node},
    m ∈ memberNodesAt fs p → ∃ v q, (m.1, v) ∈ fs ∧ m.2.2 = nodeAt v q
  | [], _, _, h => by simp [memberNodesAt] at h
  | (k, j) :: rest, p, m, h => by
    simp only [memberNodesAt, List.mem_cons] at h
    rcases h with rfl | h
    · exact ⟨j, _, List.mem_cons_self, rfl⟩
    · obtain ⟨v, q, hv, hq⟩ := mem_memberNodesAt h
      exact ⟨v, q, List.mem_cons_of_mem _ hv, hq⟩

theorem lookup_memberNodesAt_of_none {k : String} :
    ∀ {fs : List (String × Json)} {p : Nat}, fs.lookup k = none → (memberNodesAt fs p).lookup k = none
  | [], _, _ => rfl
  | (k', j) :: rest, p, h => by
    rw [lookup_cons_ite] at h
    split at h
    · cases h
    · rename_i hne
      rw [memberNodesAt, lookup_cons_ite, if_neg hne]
      exact lookup_memberNodesAt_of_none h

theorem lookup_memberNodesAt_of_some {k : String} {v : Json} :
    ∀ {fs : List (String × Json)} {p : Nat}, fs.lookup k = some v →
      ∃ e q, (memberNodesAt fs p).lookup k = some (e, nodeAt v q)
  | [], _, h => by cases h
  | (k', j) :: rest, p, h => by
    rw [lookup_cons_ite] at h
    split at h
    · rename_i heq
      cases h
      exact ⟨_, _, by rw [memberNodesAt, lookup_cons_ite, if_pos heq]⟩
    · rename_i hne
      obtain ⟨e, q, hq⟩ := lookup_memberNodesAt_of_some (p := p + (quote k').utf8ByteSize + 1 +
        (compact j).utf8ByteSize + 1) h
      exact ⟨e, q, by rw [memberNodesAt, lookup_cons_ite, if_neg hne, hq]⟩

theorem Source.skipNode_nodeAt (src : Source) (j : Json) (i : Nat) :
    src.skipNode (nodeAt j i) = .ok () := by
  unfold Source.skipNode
  split
  · simp [Node.skip, resumeAt_nodeAt]
  · rfl

end Members

/-! ## Objects as the writer sorts them -/

section Sorted

/-- Keys that strictly ascend. -/
def Ascending (fs : List (String × Json)) : Prop := (fs.map Prod.fst).Pairwise (· < ·)

theorem mem_keys_insertField {k x : String} {v : Json} :
    ∀ {acc : List (String × Json)}, x ∈ (insertField k v acc).map Prod.fst →
      x = k ∨ x ∈ acc.map Prod.fst
  | [], h => by simpa [insertField] using h
  | (k', v') :: rest, h => by
    unfold insertField at h
    split_ifs at h with hlt heq
    · simp only [List.map_cons, List.mem_cons] at h ⊢
      tauto
    · simp only [List.map_cons, List.mem_cons] at h ⊢
      tauto
    · simp only [List.map_cons, List.mem_cons] at h ⊢
      rcases h with h | h
      · exact .inr (.inl h)
      · rcases mem_keys_insertField h with h | h
        · exact .inl h
        · exact .inr (.inr h)

theorem insertField_ascending (k : String) (v : Json) :
    ∀ {acc : List (String × Json)}, Ascending acc → Ascending (insertField k v acc)
  | [], _ => by simp [Ascending, insertField]
  | (k', v') :: rest, h => by
    have hk' : ∀ x ∈ rest.map Prod.fst, k' < x := (List.pairwise_cons.mp h).1
    have hrest : Ascending rest := (List.pairwise_cons.mp h).2
    unfold insertField
    split_ifs with hlt heq
    · refine List.Pairwise.cons (fun x hx => ?_) h
      rcases List.mem_cons.mp hx with rfl | hx
      · exact hlt
      · exact lt_trans hlt (hk' x hx)
    · subst heq
      exact List.Pairwise.cons hk' hrest
    · -- the key goes further along, past `k'`, which is smaller
      have hgt : k' < k := lt_of_le_of_ne (not_lt.mp hlt) (Ne.symm heq)
      refine List.Pairwise.cons (fun x hx => ?_) (insertField_ascending k v hrest)
      rcases mem_keys_insertField hx with rfl | hx
      · exact hgt
      · exact hk' x hx

theorem lookup_insertField (k k' : String) (v : Json) :
    ∀ {acc : List (String × Json)}, Ascending acc →
      (insertField k' v acc).lookup k = if k = k' then some v else acc.lookup k
  | [], _ => by simp [insertField, lookup_cons_ite]
  | (k'', v'') :: rest, h => by
    have hrest : Ascending rest := (List.pairwise_cons.mp h).2
    by_cases hlt : k' < k''
    · rw [insertField, if_pos hlt, lookup_cons_ite]
    by_cases heq : k' = k''
    · -- the member of the same key is replaced
      subst heq
      rw [insertField, if_neg hlt, if_pos rfl, lookup_cons_ite, lookup_cons_ite]
      by_cases hk : k = k' <;> simp [hk]
    · rw [insertField, if_neg hlt, if_neg heq, lookup_cons_ite, lookup_insertField k k' v hrest,
        lookup_cons_ite]
      by_cases hk : k = k''
      · subst hk
        have hne : k ≠ k' := fun h => heq h.symm
        simp [hne]
      · simp [hk]

theorem foldl_insertField_lookup (fs : List (String × Json)) (hnd : (fs.map Prod.fst).Nodup) :
    ∀ {acc : List (String × Json)}, Ascending acc →
      Ascending (fs.foldl (fun acc kv => insertField kv.1 kv.2 acc) acc) ∧
        ∀ k, (fs.foldl (fun acc kv => insertField kv.1 kv.2 acc) acc).lookup k =
          (fs.lookup k).or (acc.lookup k) := by
  induction fs with
  | nil => intro acc h; exact ⟨h, fun k => by simp⟩
  | cons kv rest ih =>
    intro acc h
    obtain ⟨k', v⟩ := kv
    have hnot : k' ∉ rest.map Prod.fst := (List.nodup_cons.mp hnd).1
    obtain ⟨hasc, hlook⟩ := ih (List.nodup_cons.mp hnd).2 (insertField_ascending k' v h)
    refine ⟨hasc, fun k => ?_⟩
    rw [List.foldl_cons, hlook, lookup_insertField k k' v h, lookup_cons_ite]
    by_cases hk : k = k'
    · subst hk
      have hnone : rest.lookup k = none := by
        cases hl : rest.lookup k with
        | none => rfl
        | some w =>
          exact absurd (List.mem_map.mpr ⟨(k, w), (lookup_eq_some_iff_mem
            (List.nodup_cons.mp hnd).2).mp hl, rfl⟩) hnot
      simp [hnone]
    · simp [hk]

/-- The object of members without repeated keys has them sorted, each key finding the same
value. -/
theorem object_members {fs : List (String × Json)} (hnd : (fs.map Prod.fst).Nodup) :
    ∃ ms, Json.object fs = .obj ms ∧ Ascending ms ∧ ∀ k, ms.lookup k = fs.lookup k := by
  obtain ⟨hasc, hlook⟩ :=
    foldl_insertField_lookup fs hnd (show Ascending ([] : List (String × Json)) from List.Pairwise.nil)
  exact ⟨_, rfl, hasc, fun k => by rw [hlook]; simp⟩

/-- A reader that looks its members up by key reads the sorted object as the members. -/
theorem asObject_object {read : List (String × Json) → Option α} {fs : List (String × Json)}
    (hnd : (fs.map Prod.fst).Nodup)
    (hread : ∀ ms : List (String × Json), (∀ k, ms.lookup k = fs.lookup k) → read ms = read fs) :
    asObject read (Json.object fs) = read fs := by
  obtain ⟨ms, hms, hasc, hlook⟩ := object_members hnd
  have hnd' : (ms.map Prod.fst).Nodup := hasc.imp ne_of_lt
  rw [hms, asObject, if_pos hnd', hread ms hlook]

/-- Sorting keeps members and drops none but replaced ones. -/
theorem mem_insertField {k : String} {v : Json} {kv : String × Json} :
    ∀ {acc : List (String × Json)}, kv ∈ insertField k v acc → kv = (k, v) ∨ kv ∈ acc
  | [], h => by simpa [insertField] using h
  | (k', v') :: rest, h => by
    unfold insertField at h
    split_ifs at h
    · simp only [List.mem_cons] at h ⊢
      tauto
    · simp only [List.mem_cons] at h ⊢
      tauto
    · simp only [List.mem_cons] at h ⊢
      rcases h with h | h
      · exact .inr (.inl h)
      · rcases mem_insertField h with h | h
        · exact .inl h
        · exact .inr (.inr h)

theorem mem_object {fs ms : List (String × Json)} (h : Json.object fs = .obj ms)
    {kv : String × Json} (hkv : kv ∈ ms) : kv ∈ fs := by
  simp only [Json.object, Json.obj.injEq] at h
  subst h
  -- each sorting step adds the member it inserts
  suffices ∀ (acc : List (String × Json)), kv ∈ fs.foldl (fun acc kv => insertField kv.1 kv.2 acc) acc →
      kv ∈ acc ∨ kv ∈ fs by
    simpa using this [] hkv
  clear hkv
  induction fs with
  | nil => intro acc h; exact .inl h
  | cons x rest ih =>
    intro acc h
    rcases ih _ h with h | h
    · rcases mem_insertField h with rfl | h
      · exact .inr List.mem_cons_self
      · exact .inl h
    · exact .inr (List.mem_cons_of_mem _ h)

theorem all_ofNat {n : Nat} (h : n < 2 ^ 64) : All NumberOnWire (Json.ofNat n) := h

theorem all_ofFloat {f : Float} (h : (Number.float f).ReadsBack) :
    All NumberOnWire (Json.ofFloat f) := h

theorem all_str (s : String) : All NumberOnWire (.str s) := trivial

theorem nesting_ofNat (n : Nat) : nesting (Json.ofNat n) = 0 := rfl

theorem nesting_ofFloat (f : Float) : nesting (Json.ofFloat f) = 0 := rfl

/-- A property of every value holds of a sorted object when it holds of every object and of
every member's value. -/
theorem all_object {p : Json → Prop} {fs : List (String × Json)} (hobj : ∀ ms, p (.obj ms))
    (h : ∀ kv ∈ fs, All p kv.2) : All p (Json.object fs) := by
  cases hms : Json.object fs with
  | obj ms =>
    exact ⟨hobj ms, allFields_of_forall ms fun kv hkv => h kv (mem_object hms hkv)⟩
  | _ => simp [Json.object] at hms

/-- A sorted object nests one level deeper than its members' values. -/
theorem nesting_object_le {fs : List (String × Json)} {n : Nat}
    (h : ∀ kv ∈ fs, nesting kv.2 ≤ n) : nesting (Json.object fs) ≤ n + 1 := by
  cases hms : Json.object fs with
  | obj ms =>
    have := nestingFields_le (n := n) ms fun kv hkv => h kv (mem_object hms hkv)
    simp only [nesting]
    omega
  | _ => simp [Json.object] at hms

theorem allItems_of_forall {p : Json → Prop} :
    ∀ items : List Json, (∀ j ∈ items, All p j) → AllItems p items
  | [], _ => trivial
  | j :: rest, h => ⟨h j List.mem_cons_self, allItems_of_forall rest fun k hk => h k (List.mem_cons_of_mem j hk)⟩

theorem nestingItems_le {n : Nat} :
    ∀ items : List Json, (∀ j ∈ items, nesting j ≤ n) → nestingItems items ≤ n
  | [], _ => Nat.zero_le n
  | j :: rest, h => by
    have hj := h j List.mem_cons_self
    have hrest := nestingItems_le rest fun k hk => h k (List.mem_cons_of_mem j hk)
    simp only [nestingItems]
    omega

end Sorted

/-! ## Records over objects -/

namespace Record

variable (r : Record α) (src : Source)

/-- The members that name fields of the record, as the member loop keeps them. -/
def known (ms : List (String × Nat × Node)) : List (String × Node) :=
  ms.filterMap fun m => if r.fields.any (·.name == m.1) then some (m.1, m.2.2) else none

/-- A member the loop takes: a field's value passes the field's check, and any other value
can be skipped. -/
def Accepts (m : String × Nat × Node) : Prop :=
  match r.fields.find? (·.name == m.1) with
  | some f => f.check src m.2.2 = .ok ()
  | none => src.skipNode m.2.2 = .ok ()

theorem known_cons (m : String × Nat × Node) (ms : List (String × Nat × Node)) :
    r.known (m :: ms) =
      if r.fields.any (·.name == m.1) then (m.1, m.2.2) :: r.known ms else r.known ms := by
  unfold known
  rw [List.filterMap_cons]
  by_cases h : r.fields.any (·.name == m.1) = true <;> simp [h]

/-- A key names a known member exactly when a field has its name. -/
theorem lookup_known (k : String) : ∀ ms : List (String × Nat × Node),
    (r.known ms).lookup k =
      if r.fields.any (·.name == k) then (ms.lookup k).map (·.2) else none
  | [] => by simp [known]
  | m :: ms => by
    obtain ⟨k', e, n⟩ := m
    rw [known_cons, lookup_cons_ite]
    by_cases hk : k = k'
    · subst hk
      by_cases hany : r.fields.any (·.name == k) = true
      · rw [if_pos hany, if_pos hany, lookup_cons_ite, if_pos rfl, if_pos rfl]
        rfl
      · rw [if_neg hany, if_neg hany, lookup_known k ms, if_neg hany]
    · rw [if_neg hk]
      split
      · rw [lookup_cons_ite, if_neg hk, lookup_known k ms]
      · rw [lookup_known k ms]

/-- The keys of known members are keys of members. -/
theorem keys_known_sublist : ∀ ms : List (String × Nat × Node),
    List.Sublist ((r.known ms).map Prod.fst) (ms.map Prod.fst)
  | [] => by simp [known]
  | m :: ms => by
    rw [known_cons]
    split
    · exact (keys_known_sublist ms).cons_cons _
    · exact (keys_known_sublist ms).cons _

/-- Members with distinct keys, each taken, are kept in the order of the text when they name
fields. -/
theorem scanMembers_accepted (stop : Nat) :
    ∀ (ms : List (String × Nat × Node)) (seen : List (String × Node)),
      (ms.map Prod.fst).Nodup → (∀ m ∈ ms, ∀ s ∈ seen, s.1 ≠ m.1) → (∀ m ∈ ms, r.Accepts src m) →
      r.scanMembers src ms seen (.closed stop) = .ok ((r.known ms).reverse ++ seen, stop)
  | [], seen, _, _, _ => by simp [scanMembers, known]
  | (key, keyEnd, value) :: rest, seen, hnd, hfresh, hacc => by
    have hnot : key ∉ rest.map Prod.fst := (List.nodup_cons.mp hnd).1
    have hseen : seen.any (·.1 == key) = false := by
      rw [List.any_eq_false]
      intro s hs h
      exact hfresh _ List.mem_cons_self s hs (by simpa using h)
    -- the seen members stay apart from the rest, whether or not this one joins them
    have hfresh' : ∀ m ∈ rest, ∀ s ∈ seen, s.1 ≠ m.1 :=
      fun m hm s hs => hfresh m (List.mem_cons_of_mem _ hm) s hs
    have hacc' : ∀ m ∈ rest, r.Accepts src m := fun m hm => hacc m (List.mem_cons_of_mem _ hm)
    have hone := hacc (key, keyEnd, value) List.mem_cons_self
    unfold Accepts at hone
    rw [scanMembers]
    cases hf : r.fields.find? (·.name == key) with
    | some f =>
      rw [hf] at hone
      have hname := List.find?_some hf
      have hany : r.fields.any (·.name == key) = true :=
        List.any_eq_true.mpr ⟨f, List.mem_of_find?_eq_some hf, hname⟩
      simp only [hseen, Bool.false_eq_true, if_false, hone]
      rw [scanMembers_accepted stop rest ((key, value) :: seen) (List.nodup_cons.mp hnd).2 ?_ hacc',
        known_cons, if_pos hany]
      · simp
      · intro m hm s hs
        rcases List.mem_cons.mp hs with rfl | hs
        · intro h
          have hkey : key = m.1 := h
          exact hnot (hkey ▸ List.mem_map_of_mem hm)
        · exact hfresh' m hm s hs
    | none =>
      rw [hf] at hone
      have hany : r.fields.any (·.name == key) = false := by
        rw [List.any_eq_false]
        exact fun f hfm => List.find?_eq_none.mp hf f hfm
      simp only [hone]
      rw [scanMembers_accepted stop rest seen (List.nodup_cons.mp hnd).2 hfresh' hacc', known_cons,
        if_neg (by simp [hany])]

/-- A record decodes an object whose keys do not repeat and whose members it takes by
building from the members that name its fields. -/
theorem decode_obj (e : String) (ms : List (String × Nat × Node)) (start stop : Nat)
    (res : Option Nat) (hnd : (ms.map Prod.fst).Nodup) (hacc : ∀ m ∈ ms, r.Accepts src m) :
    r.decode e src (.obj ms start (.closed stop) res) =
      r.build src (fun k => if r.fields.any (·.name == k) then (ms.lookup k).map (·.2) else none)
        (fun k => src.fix (.missingField k) stop) := by
  have hknd : ((r.known ms).map Prod.fst).Nodup := (keys_known_sublist r ms).nodup hnd
  have hlook : ∀ k, ((r.known ms).reverse ++ []).lookup k = (r.known ms).lookup k := by
    intro k
    rw [List.append_nil]
    exact lookup_congr_of_mem_iff (by rw [List.map_reverse]; exact List.nodup_reverse.mpr hknd)
      hknd (fun _ => List.mem_reverse) k
  simp only [decode, scanMembers_accepted r src stop ms [] hnd (by simp) hacc, bind, Except.bind,
    hlook, lookup_known]

/-- A record decodes the object of a value without repeated keys whose fields' members pass
their checks by building from the nodes of the members named by its fields. -/
theorem decode_memberNodesAt (e : String) (fs : List (String × Json)) (p start stop : Nat)
    (res : Option Nat) (hnd : (fs.map Prod.fst).Nodup)
    (hchk : ∀ f ∈ r.fields, ∀ v, (f.name, v) ∈ fs → ∀ q, f.check src (nodeAt v q) = .ok ()) :
    r.decode e src (.obj (memberNodesAt fs p) start (.closed stop) res) =
      r.build src
        (fun k => if r.fields.any (·.name == k) then ((memberNodesAt fs p).lookup k).map (·.2)
          else none)
        (fun k => src.fix (.missingField k) stop) := by
  refine decode_obj r src e _ start stop res (by rw [keys_memberNodesAt]; exact hnd) ?_
  intro m hm
  obtain ⟨v, q, hv, hq⟩ := mem_memberNodesAt hm
  unfold Accepts
  rw [hq]
  cases hf : r.fields.find? (·.name == m.1) with
  | some f =>
    have hname : f.name = m.1 := by simpa using List.find?_some hf
    exact hchk f (List.mem_of_find?_eq_some hf) v (hname ▸ hv) q
  | none => exact src.skipNode_nodeAt v q

end Record

/-! ## Records built from fields -/

namespace Record

variable {src : Source} {look : String → Option Node} {missing : String → DecodeError}

@[simp] theorem map_fields (f : α → β) (r : Record α) : (f <$> r).fields = r.fields := rfl

@[simp] theorem seq_fields (rf : Record (α → β)) (r : Record α) :
    (rf <*> r).fields = rf.fields ++ r.fields := rfl

@[simp] theorem field_fields_name (k : String) (d : Decoder α) (absent : Absent α) :
    (Record.field k d absent).fields.map (·.name) = [k] := rfl

@[simp] theorem map_build (f : α → β) (r : Record α) :
    (f <$> r).build src look missing = (r.build src look missing).map f := rfl

@[simp] theorem seq_build (rf : Record (α → β)) (r : Record α) :
    (rf <*> r).build src look missing =
      (rf.build src look missing).bind fun g => (r.build src look missing).map g := by
  show (do let g ← rf.build src look missing; let a ← r.build src look missing; pure (g a)) = _
  cases rf.build src look missing with
  | error e => rfl
  | ok g =>
    cases r.build src look missing <;> rfl

/-- Every field's check passes on the node of the member of its name, at any offset. -/
def ChecksOn (r : Record α) (src : Source) (fs : List (String × Json)) : Prop :=
  ∀ f ∈ r.fields, ∀ v, (f.name, v) ∈ fs → ∀ q, f.check src (nodeAt v q) = .ok ()

theorem ChecksOn.map {r : Record α} {fs : List (String × Json)} (h : r.ChecksOn src fs)
    (f : α → β) : (f <$> r).ChecksOn src fs := h

theorem ChecksOn.seq {rf : Record (α → β)} {r : Record α} {fs : List (String × Json)}
    (hf : rf.ChecksOn src fs) (h : r.ChecksOn src fs) : (rf <*> r).ChecksOn src fs := by
  intro f hf' v hv q
  rcases List.mem_append.mp hf' with hm | hm
  · exact hf f hm v hv q
  · exact h f hm v hv q

/-- A record reads what `read` reads of objects, when on every object `read` reads its fields
pass their checks and its build gives that value from the members its fields name. -/
theorem reads (r : Record α) (e : String) (read : List (String × Json) → Option α)
    (hchk : ∀ src fs x, (fs.map Prod.fst).Nodup → read fs = some x → r.ChecksOn src fs)
    (hbuild : ∀ src fs p x missing, (fs.map Prod.fst).Nodup → read fs = some x →
      r.build src (fun k => if r.fields.any (·.name == k) then
        ((memberNodesAt fs p).lookup k).map (·.2) else none) missing = .ok x) :
    Reads (r.decode e) (asObject read) := by
  intro src j i x h
  cases j with
  | obj fs =>
    simp only [asObject] at h
    split at h
    · rename_i hnd
      rw [nodeAt, decode_memberNodesAt r src e fs _ _ _ _ hnd (hchk src fs x hnd h)]
      exact hbuild src fs _ x _ hnd h
    · cases h
  | _ => simp [asObject] at h

end Record

/-! ## Fields -/

section Fields

variable {d : Decoder α} {read : Json → Option α} {fs : List (String × Json)} {k : String}
  {src : Source} {p : Nat} {look : String → Option Node} {missing : String → DecodeError}

/-- A field the object has builds what its decoder makes of the member's node. -/
theorem field_build_present {absent : Absent α} {v : Json} {x : α} (hl : fs.lookup k = some v)
    (hv : ∀ q, d src (nodeAt v q) = .ok x)
    (hlook : look k = ((memberNodesAt fs p).lookup k).map (·.2)) :
    (Record.field k d absent).build src look missing = .ok x := by
  obtain ⟨e, q, hq⟩ := lookup_memberNodesAt_of_some (p := p) hl
  simp only [Record.field, hlook, hq]
  exact hv q

/-- A field with a default that the object lacks builds the default. -/
theorem field_build_absent {a : α} (hl : fs.lookup k = none)
    (hlook : look k = ((memberNodesAt fs p).lookup k).map (·.2)) :
    (Record.field k d (.default a)).build src look missing = .ok a := by
  simp only [Record.field, hlook, lookup_memberNodesAt_of_none hl]
  rfl

/-- A field with a default builds the member's value when the object has the member, and the
default otherwise. -/
theorem field_build_default (hd : Reads d read) {a x : α} (h : fieldOr read fs k a = some x)
    (hlook : look k = ((memberNodesAt fs p).lookup k).map (·.2)) :
    (Record.field k d (.default a)).build src look missing = .ok x := by
  unfold fieldOr at h
  cases hl : fs.lookup k with
  | none =>
    rw [hl, Option.some.injEq] at h
    subst h
    exact field_build_absent hl hlook
  | some v =>
    rw [hl] at h
    exact field_build_present hl (fun q => hd src v q x h) hlook

/-- A required field builds the member's value. -/
theorem field_build_required (hd : Reads d read) {x : α} (h : fieldReq read fs k = some x)
    (hlook : look k = ((memberNodesAt fs p).lookup k).map (·.2)) :
    (Record.field k d .required).build src look missing = .ok x := by
  obtain ⟨v, hl, hv⟩ := Option.bind_eq_some_iff.mp h
  exact field_build_present hl (fun q => hd src v q x hv) hlook

/-- A field passes its check on the member of its name when its decoder takes that member's
node at every offset. -/
theorem checksOn_field_present {absent : Absent α} {v : Json} (hnd : (fs.map Prod.fst).Nodup)
    (hl : fs.lookup k = some v) (hv : ∀ q, ∃ x, d src (nodeAt v q) = .ok x) :
    (Record.field k d absent).ChecksOn src fs := by
  intro f hf w hw q
  simp only [Record.field, List.mem_singleton] at hf
  subst hf
  have hw' : fs.lookup k = some w := (lookup_eq_some_iff_mem hnd).mpr hw
  rw [hl, Option.some.injEq] at hw'
  subst hw'
  obtain ⟨x, hx⟩ := hv q
  simp [hx, Except.map]

/-- A field the object lacks has no member to check. -/
theorem checksOn_field_absent {absent : Absent α} (hnd : (fs.map Prod.fst).Nodup)
    (hl : fs.lookup k = none) : (Record.field k d absent).ChecksOn src fs := by
  intro f hf w hw
  simp only [Record.field, List.mem_singleton] at hf
  subst hf
  have hw' : fs.lookup k = some w := (lookup_eq_some_iff_mem hnd).mpr hw
  rw [hl] at hw'
  cases hw'

/-- A field with a default passes its check wherever the object's member is read. -/
theorem checksOn_field_default (hd : Reads d read) {a x : α}
    (hnd : (fs.map Prod.fst).Nodup) (h : fieldOr read fs k a = some x) :
    (Record.field k d (.default a)).ChecksOn src fs := by
  unfold fieldOr at h
  cases hl : fs.lookup k with
  | none => exact checksOn_field_absent hnd hl
  | some v =>
    rw [hl] at h
    exact checksOn_field_present hnd hl fun q => ⟨x, hd src v q x h⟩

/-- A required field passes its check wherever the object's member is read. -/
theorem checksOn_field_required (hd : Reads d read) {x : α}
    (hnd : (fs.map Prod.fst).Nodup) (h : fieldReq read fs k = some x) :
    (Record.field k d .required).ChecksOn src fs := by
  obtain ⟨v, hl, hv⟩ := Option.bind_eq_some_iff.mp h
  exact checksOn_field_present hnd hl fun q => ⟨x, hd src v q x hv⟩

end Fields

/-! ## Tagged unions -/

section Tagged

variable {tag : String} {src : Source} {names : List String} {close : Close}

/-- Members before the tag that read whole are kept, in order, and the scan goes on. -/
theorem decodeTagged_scan_append (found : Option Nat) :
    ∀ (pre rest kept : List (String × Nat × Node)),
      (∀ m ∈ pre, m.1 ≠ tag ∧ ∃ j, m.2.2.toJson = .ok j) →
      decodeTagged.scan tag src names close (pre ++ rest) found kept =
        decodeTagged.scan tag src names close rest found (pre.reverse ++ kept)
  | [], _, _, _ => rfl
  | (key, keyEnd, value) :: pre, rest, kept, h => by
    obtain ⟨hkey, j, hj⟩ := h (key, keyEnd, value) List.mem_cons_self
    rw [List.cons_append, decodeTagged.scan, if_neg hkey, hj]
    simp only
    rw [decodeTagged_scan_append found pre rest _ (fun m hm => h m (List.mem_cons_of_mem _ hm))]
    simp

/-- An object whose tag names a variant, wherever the tag stands, and whose other members
read whole is decoded by that variant from the other members. -/
theorem decodeTagged_tag_within (name v : String) (variants : List (Variant α)) {var : Variant α}
    {idx keyEnd s e start stop : Nat} {r : Option Nat} {pre post : List (String × Nat × Node)}
    (hidx : (variants.map (·.tag)).idxOf? v = some idx) (hvar : variants[idx]? = some var)
    (hpre : ∀ m ∈ pre, m.1 ≠ tag ∧ ∃ j, m.2.2.toJson = .ok j)
    (hpost : ∀ m ∈ post, m.1 ≠ tag ∧ ∃ j, m.2.2.toJson = .ok j) :
    decodeTagged name tag variants src
        (.obj (pre ++ (tag, keyEnd, .str v s e) :: post) start (.closed stop) r) =
      (var.decode { src with origin := .buffer } (.obj (pre ++ post) start (.closed 0) none)).mapError
        DecodeError.unplaced := by
  simp only [decodeTagged]
  rw [decodeTagged_scan_append none pre _ [] hpre, decodeTagged.scan]
  simp only [↓reduceIte, Option.isSome_none, Bool.false_eq_true]
  rw [show decodeVariantIndex (variants.map (·.tag)) src (.str v s e) = .ok idx by
    simp [decodeVariantIndex, hidx]]
  simp only
  rw [← List.append_nil post, decodeTagged_scan_append (some idx) post [] _ hpost]
  simp [decodeTagged.scan, hvar]

end Tagged

/-! ## Whole texts -/

/-- The compact text of a value the reader reads back decodes as its node does. -/
theorem decodeText_compact {d : Decoder α} {j : Json} (hall : All NumberOnWire j)
    (hdepth : nesting j ≤ depthLimit) {x : α} (hd : ∀ src, d src (nodeAt j 0) = .ok x) :
    decodeText d (compact j) = .ok x := by
  obtain ⟨hroot, htrail⟩ := read_compact hall hdepth
  simp only [decodeText, hroot, htrail, hd, bind, Except.bind, pure, Except.pure]

/-- A decoder reads the compact text of a value its reader reads, when the reader can read the
text back. -/
theorem Reads.decodeText {d : Decoder α} {read : Json → Option α} (hd : Reads d read) {j : Json}
    {x : α} (h : read j = some x) (hall : All NumberOnWire j) (hdepth : nesting j ≤ depthLimit) :
    decodeText d (compact j) = .ok x :=
  decodeText_compact hall hdepth fun src => hd src j 0 x h

end Tether.Json
