import Mathlib.Data.List.Nodup
import Mathlib.Data.List.Perm.Basic
import Tether.Link.Pending
import Tether.Proofs.BusRun
/-!
# Proofs.PendingAccounting — a waiter is told at most once, by what took its entry away

The table of pending replies is driven by six calls (`PendingCall`): inserting a command,
a device reply, failing one command, failing all, sweeping at an instant, and removing a
command.  Each call is read here through the table's view, the entry under each id
(`PendingReplies.find?`), and described by three facts of its own: which entries it takes
away (`PendingCall.removes`), what the waiter of such an entry is told (`PendingCall.outcome`:
the reply, the error given, the timeout, or nothing for a removal), and the entry it puts in
(`PendingCall.added`).  One lemma per call says that the call does exactly that
(`find?_call`, `filter_call`), on a table with one entry per id (`KeysUnique`), which every
call keeps.

Along a run of calls from the empty table in which no id is inserted twice, the calls that
take an entry away are the only source of notices, each waiter is told at most once, and
the call that takes its entry away decides all it is ever told: the reply, the error of a
failure, a timeout naming its topic and timeout, or nothing.  The table's size is the number
of inserted ids still pending.  The main statement is `pending_replies_resolved_once`.
-/

namespace Tether

set_option autoImplicit false

/-- A call on the table of pending replies. -/
inductive PendingCall where
  | insert (id : Uuid) (topic : String) (timeoutMs : Nat) (awaited : Bool) (now : Nat)
  | complete (r : Reply)
  | fail (id : Uuid) (err : LinkError)
  | failAll (err : LinkError)
  | sweep (now : Nat)
  | remove (id : Uuid)

namespace PendingCall

/-- Whether the call takes away the entry `e` of command `id`: the reply for it, a failure of
it or of all, a sweep at or past its deadline, its removal, or an insert of its id. -/
def removes : PendingCall → Uuid → PendingReply → Bool
  | .insert j .., id, _ => j == id
  | .complete r, id, _ => r.id == id
  | .fail j _, id, _ => j == id
  | .failAll _, _, _ => true
  | .sweep now, _, e => decide (e.deadline ≤ now)
  | .remove j, id, _ => j == id

/-- What the waiter of an entry the call takes away is told, if anything. -/
def outcome : PendingCall → PendingReply → Option ReplyResult
  | .complete r, _ => some (.ok r)
  | .fail _ err, _ => some (.error err)
  | .failAll err, _ => some (.error err)
  | .sweep _, e => some e.overdue
  | .insert .., _ => none
  | .remove _, _ => none

/-- The entry the call puts in for command `id`. -/
def added : PendingCall → Uuid → Option PendingReply
  | .insert j topic timeoutMs awaited now, id =>
    if j = id then some { topic, timeoutMs, deadline := now + timeoutMs * 1000, awaited } else none
  | _, _ => none

/-- The id the call inserts. -/
def inserted? : PendingCall → Option Uuid
  | .insert j .. => some j
  | _ => none

theorem added_eq_none {c : PendingCall} {id : Uuid} (h : c.inserted? ≠ some id) : c.added id = none := by
  cases c with
  | insert j topic timeoutMs awaited now =>
    have hne : j ≠ id := fun hj => h (hj ▸ rfl)
    simp [added, hne]
  | _ => rfl

/-- A call that tells the waiter something inserts nothing. -/
theorem inserted?_of_outcome {c : PendingCall} {e : PendingReply} {r : ReplyResult}
    (h : c.outcome e = some r) : c.inserted? = none := by
  cases c <;> first | rfl | cases h

end PendingCall

namespace PendingReplies

/-- Runs one call: what it tells the waiters, and the table after it. -/
def call (p : PendingReplies) : PendingCall → List Notice × PendingReplies
  | .insert id topic timeoutMs awaited now => ([], p.insert id topic timeoutMs awaited now)
  | .complete r => p.complete r
  | .fail id err => p.fail id err
  | .failAll err => p.failAll err
  | .sweep now => (p.sweep now).2
  | .remove id => ([], p.remove id)

/-- Runs calls in order: all they tell the waiters, and the table after them. -/
def run (p : PendingReplies) : List PendingCall → List Notice × PendingReplies
  | [] => ([], p)
  | c :: rest => ((p.call c).1 ++ ((p.call c).2.run rest).1, ((p.call c).2.run rest).2)

theorem run_append (p : PendingReplies) (pre rest : List PendingCall) :
    p.run (pre ++ rest) = ((p.run pre).1 ++ ((p.run pre).2.run rest).1, ((p.run pre).2.run rest).2) := by
  induction pre generalizing p with
  | nil => rfl
  | cons c pre ih => simp only [List.cons_append, run, ih, List.append_assoc]

/-- One entry per id. -/
def KeysUnique (p : PendingReplies) : Prop := (p.entries.map (·.1)).Nodup

/-! ## The view of one table -/

section View

variable {p : PendingReplies}

theorem find?_remove (p : PendingReplies) (j id : Uuid) :
    (p.remove j).find? id = if id = j then none else p.find? id := by
  by_cases h : id = j
  · subst h
    rw [if_pos rfl]
    exact Fanout.lookup_filter_key_self _ _
  · rw [if_neg h]
    exact Fanout.lookup_filter_key_ne (Ne.symm h)

theorem find?_insert (p : PendingReplies) (j : Uuid) (topic : String) (timeoutMs : Nat)
    (awaited : Bool) (now : Nat) (id : Uuid) :
    (p.insert j topic timeoutMs awaited now).find? id = if id = j then
      some { topic, timeoutMs, deadline := now + timeoutMs * 1000, awaited } else p.find? id := by
  show ((p.remove j).entries ++ _).lookup id = _
  rw [List.lookup_append]
  change ((p.remove j).find? id).or _ = _
  rw [find?_remove]
  simp only [List.lookup_cons, List.lookup_nil]
  by_cases h : id = j
  · subst h
    simp
  · simp [beq_false_of_ne h, h]

theorem mem_keys_iff (p : PendingReplies) (id : Uuid) :
    id ∈ p.entries.map (·.1) ↔ (p.find? id).isSome := by
  rw [find?, List.lookup_isSome_iff, List.mem_map]
  constructor
  · rintro ⟨x, hx, rfl⟩
    exact ⟨x, hx, by simp⟩
  · rintro ⟨x, hx, hk⟩
    exact ⟨x, hx, (beq_iff_eq.mp hk).symm⟩

theorem KeysUnique.find?_eq_some_iff (hp : p.KeysUnique) {id : Uuid} {e : PendingReply} :
    p.find? id = some e ↔ (id, e) ∈ p.entries := by
  constructor
  · intro h
    obtain ⟨l₁, l₂, heq, -⟩ := List.lookup_eq_some_iff.mp h
    rw [heq]
    exact List.mem_append_right _ List.mem_cons_self
  · intro hm
    cases hl : p.find? id with
    | none =>
      have := List.lookup_eq_none_iff.mp hl _ hm
      simp at this
    | some e' =>
      obtain ⟨l₁, l₂, heq, -⟩ := List.lookup_eq_some_iff.mp hl
      have hm' : (id, e') ∈ p.entries := by
        rw [heq]
        exact List.mem_append_right _ List.mem_cons_self
      -- two entries under one id are one entry
      exact congrArg (some ∘ Prod.snd) (List.inj_on_of_nodup_map hp hm' hm rfl)

theorem KeysUnique.filter (hp : p.KeysUnique) (q : Uuid × PendingReply → Bool) :
    KeysUnique { entries := p.entries.filter q } :=
  List.Nodup.sublist (List.filter_sublist.map _) hp

theorem KeysUnique.remove (hp : p.KeysUnique) (j : Uuid) : (p.remove j).KeysUnique :=
  hp.filter _

theorem KeysUnique.insert (hp : p.KeysUnique) (j : Uuid) (topic : String) (timeoutMs : Nat)
    (awaited : Bool) (now : Nat) : (p.insert j topic timeoutMs awaited now).KeysUnique := by
  unfold KeysUnique PendingReplies.insert
  rw [List.map_append, List.nodup_append]
  refine ⟨hp.remove j, List.nodup_singleton _, ?_⟩
  -- the entries kept hold every id but `j`
  intro a ha b hb
  rw [mem_keys_iff, find?_remove] at ha
  simp only [List.map_cons, List.map_nil, List.mem_singleton] at hb
  subst hb
  intro hab
  subst hab
  simp at ha

/-- The entries under one id are its entry, if it has one. -/
theorem KeysUnique.filter_key (hp : p.KeysUnique) (id : Uuid) :
    p.entries.filter (fun x => decide (x.1 = id)) = ((p.find? id).map (id, ·)).toList := by
  cases h : p.find? id with
  | none =>
    simp only [Option.map_none, Option.toList_none]
    apply List.filter_eq_nil_iff.mpr
    intro x hx
    have := List.lookup_eq_none_iff.mp h x hx
    simp only [bne_iff_ne, ne_eq] at this
    simpa [eq_comm] using this
  | some e =>
    have hm := hp.find?_eq_some_iff.mp h
    have hnd : (p.entries.filter fun x => decide (x.1 = id)).Nodup :=
      (List.Nodup.of_map _ hp).filter _
    simp only [Option.map_some, Option.toList_some]
    apply List.perm_singleton.mp
    refine (List.perm_ext_iff_of_nodup hnd (List.nodup_singleton _)).mpr fun x => ?_
    constructor
    · intro hx
      obtain ⟨hx, hk⟩ := List.mem_filter.mp hx
      exact List.mem_singleton.mpr (List.inj_on_of_nodup_map hp hx hm (by simpa using hk))
    · intro hx
      rw [List.mem_singleton.mp hx]
      exact List.mem_filter.mpr ⟨hm, by simp⟩

theorem find?_filter (hp : p.KeysUnique) (q : Uuid × PendingReply → Bool) (id : Uuid) :
    ({ entries := p.entries.filter q } : PendingReplies).find? id =
      (p.find? id).filter fun e => q (id, e) := by
  have hq := hp.filter q
  cases h : p.find? id with
  | none =>
    rw [Option.filter_none, find?, List.lookup_eq_none_iff]
    intro x hx
    exact List.lookup_eq_none_iff.mp h x (List.mem_of_mem_filter hx)
  | some e =>
    have hm := hp.find?_eq_some_iff.mp h
    rw [Option.filter_some]
    split
    · exact hq.find?_eq_some_iff.mpr (List.mem_filter.mpr ⟨hm, ‹_›⟩)
    · rename_i hqe
      cases h' : ({ entries := p.entries.filter q } : PendingReplies).find? id with
      | none => rfl
      | some e' =>
        obtain ⟨hm', hq'⟩ := List.mem_filter.mp (hq.find?_eq_some_iff.mp h')
        rw [List.inj_on_of_nodup_map hp hm' hm rfl] at hq'
        exact absurd hq' hqe

/-- The notices of the entries that carry their own ids, read for one id: the notices of
that id's entry, if it has one. -/
theorem KeysUnique.filter_flatMap (hp : p.KeysUnique) (g : Uuid → PendingReply → List Notice)
    (hg : ∀ j e, ∀ n ∈ g j e, n.id = j) (id : Uuid) :
    (p.entries.flatMap fun x => g x.1 x.2).filter (·.id == id) =
      match p.find? id with
      | some e => g id e
      | none => [] := by
  rw [List.filter_flatMap]
  -- an entry's notices survive the filter exactly when the entry has the id
  have hx : ∀ x : Uuid × PendingReply, (g x.1 x.2).filter (·.id == id) =
      if x.1 = id then g x.1 x.2 else [] := by
    intro x
    by_cases h : x.1 = id
    · rw [if_pos h, List.filter_eq_self]
      intro n hn
      simp [hg _ _ n hn, h]
    · rw [if_neg h, List.filter_eq_nil_iff]
      intro n hn
      simp [hg _ _ n hn, h]
  have hsplit : (p.entries.flatMap fun x => if x.1 = id then g x.1 x.2 else []) =
      (p.entries.filter fun x => decide (x.1 = id)).flatMap fun x => g x.1 x.2 := by
    induction p.entries with
    | nil => rfl
    | cons x rest ih =>
      by_cases h : x.1 = id <;> simp [h, ih]
  simp only [hx]
  rw [hsplit, hp.filter_key]
  cases p.find? id <;> simp

theorem notify_id (e : PendingReply) (j : Uuid) (r : ReplyResult) : ∀ n ∈ e.notify j r, n.id = j := by
  intro n hn
  unfold PendingReply.notify at hn
  split at hn
  · simp only [List.mem_singleton] at hn
    rw [hn]
  · cases hn

end View

/-! ## One call -/

section Call

variable {p : PendingReplies}

/-- Replying to a command, or failing it, takes away its entry, if it has one. -/
theorem complete_snd (p : PendingReplies) (r : Reply) (id : Uuid) :
    (p.complete r).2.find? id = (p.remove r.id).find? id := by
  unfold complete
  cases h : p.find? r.id with
  | none =>
    rw [find?_remove]
    by_cases hid : id = r.id
    · rw [if_pos hid, hid, h]
    · rw [if_neg hid]
  | some e => rfl

theorem fail_snd (p : PendingReplies) (j : Uuid) (err : LinkError) (id : Uuid) :
    (p.fail j err).2.find? id = (p.remove j).find? id := by
  unfold fail
  cases h : p.find? j with
  | none =>
    rw [find?_remove]
    by_cases hid : id = j
    · rw [if_pos hid, hid, h]
    · rw [if_neg hid]
  | some e => rfl

theorem KeysUnique.call (hp : p.KeysUnique) (c : PendingCall) : (p.call c).2.KeysUnique := by
  cases c with
  | insert j topic timeoutMs awaited now => exact hp.insert j topic timeoutMs awaited now
  | complete r =>
    simp only [PendingReplies.call, complete]
    split
    · exact hp
    · exact hp.remove r.id
  | fail j err =>
    simp only [PendingReplies.call, fail]
    split
    · exact hp
    · exact hp.remove j
  | failAll err => exact List.nodup_nil
  | sweep now => exact hp.filter _
  | remove j => exact hp.remove j

/-- **One call through the view**: an entry stays unless the call takes it away, and then
what the call puts in under its id takes its place. -/
theorem find?_call (hp : p.KeysUnique) (c : PendingCall) (id : Uuid) :
    (p.call c).2.find? id = match p.find? id with
      | some e => if c.removes id e then c.added id else some e
      | none => c.added id := by
  cases c with
  | insert j topic timeoutMs awaited now =>
    simp only [PendingReplies.call, find?_insert, PendingCall.removes, PendingCall.added]
    by_cases h : j = id
    · subst h
      cases p.find? j <;> simp
    · have h' : id ≠ j := Ne.symm h
      cases p.find? id <;> simp [h, h']
  | complete r =>
    simp only [PendingReplies.call, complete_snd, find?_remove, PendingCall.removes,
      PendingCall.added]
    by_cases h : r.id = id
    · subst h
      cases p.find? r.id <;> simp
    · cases p.find? id <;> simp [h, Ne.symm h]
  | fail j err =>
    simp only [PendingReplies.call, fail_snd, find?_remove, PendingCall.removes,
      PendingCall.added]
    by_cases h : j = id
    · subst h
      cases p.find? j <;> simp
    · cases p.find? id <;> simp [h, Ne.symm h]
  | failAll err =>
    show ([] : List (Uuid × PendingReply)).lookup id = _
    cases p.find? id <;> rfl
  | sweep now =>
    show ({ entries := p.entries.filter _ } : PendingReplies).find? id = _
    rw [find?_filter hp]
    cases p.find? id with
    | none => rfl
    | some e =>
      by_cases hd : e.deadline ≤ now <;> simp [PendingCall.removes, PendingCall.added, hd]
  | remove j =>
    simp only [PendingReplies.call, find?_remove, PendingCall.removes, PendingCall.added]
    by_cases h : j = id
    · subst h
      cases p.find? j <;> simp
    · cases p.find? id <;> simp [h, Ne.symm h]

/-- A call that takes an entry away, and does not put one in under the same id, leaves that
id without an entry. -/
theorem find?_call_of_removes (hp : p.KeysUnique) {c : PendingCall} {id : Uuid} {e : PendingReply}
    (hfind : p.find? id = some e) (hrem : c.removes id e) (hc : c.inserted? ≠ some id) :
    (p.call c).2.find? id = none := by
  rw [find?_call hp, hfind]
  simp only [hrem, if_true]
  exact PendingCall.added_eq_none hc

/-- A call that takes away the entry of `j` alone and tells its waiter `r`, read for one id. -/
theorem filter_take (j : Uuid) (r : ReplyResult) (id : Uuid) :
    (match p.find? j with
      | some e => e.notify j r
      | none => ([] : List Notice)).filter (fun n : Notice => n.id == id) =
      match p.find? id with
      | some e => if (j == id && e.awaited) = true then [⟨id, r⟩] else []
      | none => [] := by
  by_cases h : j = id
  · subst h
    cases p.find? j with
    | none => rfl
    | some e =>
      rw [List.filter_eq_self.mpr fun n hn => by simp [notify_id e j r n hn]]
      simp [PendingReply.notify]
  · -- every notice is for `j`, and no entry of `id` is taken
    have hnone : ∀ l : List Notice, (∀ n ∈ l, n.id = j) → l.filter (·.id == id) = [] := by
      intro l hl
      apply List.filter_eq_nil_iff.mpr
      intro n hn
      simp [hl n hn, h]
    rw [hnone _ (by
      cases p.find? j with
      | none => simp
      | some e => exact notify_id e j r)]
    cases p.find? id <;> simp [h]

theorem flatMap_filter_eq {α β : Type} (l : List α) (q : α → Bool) (f : α → List β) :
    (l.filter q).flatMap f = l.flatMap fun x => if q x then f x else [] := by
  induction l with
  | nil => rfl
  | cons x rest ih => by_cases h : q x <;> simp [h, ih]

/-- **What one call tells the waiter of an id**: the outcome of the call for its entry, when
the call takes that entry away and someone waits for it, and nothing otherwise. -/
theorem filter_call (hp : p.KeysUnique) (c : PendingCall) (id : Uuid) :
    (p.call c).1.filter (·.id == id) = match p.find? id with
      | some e => if c.removes id e && e.awaited then ((c.outcome e).map (Notice.mk id)).toList
        else []
      | none => [] := by
  cases c with
  | insert j topic timeoutMs awaited now =>
    show ([] : List Notice).filter _ = _
    cases p.find? id <;> simp [PendingCall.outcome]
  | complete r =>
    have hn : (p.complete r).1 = match p.find? r.id with
        | some e => e.notify r.id (.ok r)
        | none => [] := by
      unfold complete
      cases p.find? r.id <;> rfl
    show (p.complete r).1.filter _ = _
    rw [hn, filter_take]
    rfl
  | fail j err =>
    have hn : (p.fail j err).1 = match p.find? j with
        | some e => e.notify j (.error err)
        | none => [] := by
      unfold fail
      cases p.find? j <;> rfl
    show (p.fail j err).1.filter _ = _
    rw [hn, filter_take]
    rfl
  | failAll err =>
    show (p.entries.flatMap fun x => x.2.notify x.1 (.error err)).filter _ = _
    rw [hp.filter_flatMap (fun j e => e.notify j (.error err)) (fun j e => notify_id e j _)]
    cases p.find? id <;> simp [PendingCall.removes, PendingCall.outcome, PendingReply.notify]
  | sweep now =>
    show ((p.entries.filter (·.2.deadline ≤ now)).flatMap fun x => x.2.notify x.1 x.2.overdue).filter _ = _
    rw [flatMap_filter_eq, hp.filter_flatMap
      (fun j e => if decide (e.deadline ≤ now) = true then e.notify j e.overdue else [])
      (fun j e n hn => by
        split at hn
        · exact notify_id e j _ n hn
        · cases hn)]
    cases p.find? id with
    | none => rfl
    | some e =>
      by_cases hd : e.deadline ≤ now <;>
        simp [PendingCall.removes, PendingCall.outcome, PendingReply.notify, hd]
  | remove j =>
    show ([] : List Notice).filter _ = _
    cases p.find? id <;> simp [PendingCall.outcome]

/-- One call tells a waiter at most once. -/
theorem call_nodup (hp : p.KeysUnique) (c : PendingCall) : ((p.call c).1.map Notice.id).Nodup := by
  rw [List.nodup_iff_count_le_one]
  intro i
  rw [List.count, List.countP_map, List.countP_eq_length_filter]
  show ((p.call c).1.filter (·.id == i)).length ≤ 1
  rw [filter_call hp]
  cases p.find? i with
  | none => simp
  | some e =>
    dsimp only
    split
    · cases c.outcome e <;> simp
    · simp

/-- A notice of one call comes from an awaited entry the call takes away, with the call's
outcome for it. -/
theorem mem_call (hp : p.KeysUnique) (c : PendingCall) (n : Notice) :
    n ∈ (p.call c).1 ↔ ∃ e, p.find? n.id = some e ∧ e.awaited ∧ c.removes n.id e ∧
      c.outcome e = some n.result := by
  have hf : n ∈ (p.call c).1 ↔ n ∈ (p.call c).1.filter (·.id == n.id) := by simp
  rw [hf, filter_call hp]
  obtain ⟨i, r⟩ := n
  cases p.find? i with
  | none => simp
  | some e =>
    by_cases h : (c.removes i e && e.awaited) = true
    · simp only [Bool.and_eq_true] at h
      cases ho : c.outcome e with
      | none => simp [ho]
      | some r' =>
        simp [h, ho]
        exact eq_comm
    · simp only [Bool.and_eq_true, not_and] at h
      simp only [if_neg (show ¬(c.removes i e && e.awaited) = true by simpa using h)]
      simp only [List.not_mem_nil, Option.some.injEq, exists_eq_left', false_iff, not_and]
      intro ha hr
      exact absurd ha (h hr)

/-- A sweep takes away exactly the entries due by `now`, and counts them. -/
theorem sweep_count_add_len (p : PendingReplies) (now : Nat) :
    (p.sweep now).1 + (p.sweep now).2.2.len = p.len :=
  (List.length_eq_length_filter_add _).symm

theorem find?_sweep (hp : p.KeysUnique) (now : Nat) (id : Uuid) :
    (p.sweep now).2.2.find? id = (p.find? id).filter fun e => !decide (e.deadline ≤ now) :=
  find?_filter hp _ id

/-- A reply for a command that is not pending changes nothing and tells nobody. -/
theorem complete_of_find?_none {r : Reply} (h : p.find? r.id = none) : p.complete r = ([], p) := by
  unfold complete
  rw [h]

end Call

/-! ## Runs -/

section Run

variable {p : PendingReplies}

theorem KeysUnique.run (hp : p.KeysUnique) (calls : List PendingCall) :
    (p.run calls).2.KeysUnique := by
  induction calls generalizing p with
  | nil => exact hp
  | cons c rest ih => exact ih (hp.call c)

theorem inserted_tail_sublist (c : PendingCall) (rest : List PendingCall) :
    (rest.filterMap PendingCall.inserted?).Sublist ((c :: rest).filterMap PendingCall.inserted?) :=
  (List.sublist_cons_self c rest).filterMap _

theorem inserted_tail (c : PendingCall) (rest : List PendingCall) :
    rest.filterMap PendingCall.inserted? ⊆ (c :: rest).filterMap PendingCall.inserted? :=
  (inserted_tail_sublist c rest).subset

theorem inserted_head {c : PendingCall} {i : Uuid} (rest : List PendingCall)
    (h : c.inserted? = some i) : i ∈ (c :: rest).filterMap PendingCall.inserted? :=
  List.mem_filterMap.mpr ⟨c, List.mem_cons_self, h⟩

/-- In a run that inserts each id once, an id a call inserts is inserted no more after it. -/
theorem not_inserted_again {c : PendingCall} {i : Uuid} {rest : List PendingCall}
    (hfresh : ((c :: rest).filterMap PendingCall.inserted?).Nodup) (h : c.inserted? = some i) :
    i ∉ rest.filterMap PendingCall.inserted? := by
  rw [List.filterMap_cons_some h] at hfresh
  exact (List.nodup_cons.mp hfresh).1

/-- **Where notices come from**: a waiter is told something only by a call that takes away
its entry, and it is told that call's outcome. -/
theorem mem_run (hp : p.KeysUnique) (calls : List PendingCall) (n : Notice) :
    n ∈ (p.run calls).1 ↔ ∃ pre c post e, calls = pre ++ c :: post ∧
      (p.run pre).2.find? n.id = some e ∧ e.awaited ∧ c.removes n.id e ∧
      c.outcome e = some n.result := by
  induction calls generalizing p with
  | nil => simp [run]
  | cons c rest ih =>
    simp only [run, List.mem_append, mem_call hp, ih (hp.call c)]
    constructor
    · rintro (⟨e, h⟩ | ⟨pre, c', post, e, rfl, h⟩)
      · exact ⟨[], c, rest, e, rfl, h⟩
      · exact ⟨c :: pre, c', post, e, rfl, h⟩
    · rintro ⟨pre, c', post, e, heq, h⟩
      cases pre with
      | nil =>
        simp only [List.nil_append, List.cons.injEq] at heq
        obtain ⟨rfl, rfl⟩ := heq
        exact .inl ⟨e, h⟩
      | cons c₀ pre =>
        simp only [List.cons_append, List.cons.injEq] at heq
        obtain ⟨rfl, rfl⟩ := heq
        exact .inr ⟨pre, c', post, e, rfl, h⟩

/-- An id without an entry that no call inserts keeps having none, and is told nothing. -/
theorem absent_run (hp : p.KeysUnique) {i : Uuid} (habs : p.find? i = none)
    {calls : List PendingCall} (hnot : i ∉ calls.filterMap PendingCall.inserted?) :
    (∀ n ∈ (p.run calls).1, n.id ≠ i) ∧ (p.run calls).2.find? i = none := by
  induction calls generalizing p with
  | nil => exact ⟨by simp [run], habs⟩
  | cons c rest ih =>
    have hc : c.inserted? ≠ some i := fun h => hnot (inserted_head rest h)
    have habs' : (p.call c).2.find? i = none := by
      rw [find?_call hp, habs, PendingCall.added_eq_none hc]
    obtain ⟨hquiet, hend⟩ := ih (hp.call c) habs' fun h => hnot (inserted_tail c rest h)
    refine ⟨fun n hn => ?_, hend⟩
    rcases List.mem_append.mp hn with hn | hn
    · -- this call told only entries it found, and `i` has none
      obtain ⟨e, hfind, -⟩ := (mem_call hp c n).mp hn
      rintro rfl
      rw [habs] at hfind
      cases hfind
    · exact hquiet n hn

/-- An id with an entry at the end of a run in which it is inserted at most once, and only
if it had no entry at the start, was told nothing along the run. -/
theorem quiet_of_present (hp : p.KeysUnique) {i : Uuid} {calls : List PendingCall}
    (hfresh : (calls.filterMap PendingCall.inserted?).Nodup)
    (hstart : p.find? i = none ∨ i ∉ calls.filterMap PendingCall.inserted?)
    (hend : ((p.run calls).2.find? i).isSome) : ∀ n ∈ (p.run calls).1, n.id ≠ i := by
  induction calls generalizing p with
  | nil => simp [run]
  | cons c rest ih =>
    intro n hn
    rcases List.mem_append.mp hn with hn | hn
    · -- told by this call, which took the entry away: the rest would have to insert `i` again
      obtain ⟨e, hfind, -, hrem, hout⟩ := (mem_call hp c n).mp hn
      rintro rfl
      have hnot : n.id ∉ (c :: rest).filterMap PendingCall.inserted? := by
        rcases hstart with h | h
        · rw [h] at hfind
          cases hfind
        · exact h
      have habs : (p.call c).2.find? n.id = none :=
        find?_call_of_removes hp hfind hrem (by simp [PendingCall.inserted?_of_outcome hout])
      have hgone := (absent_run (hp.call c) habs fun h => hnot (inserted_tail c rest h)).2
      change (((p.call c).2.run rest).2.find? n.id).isSome at hend
      rw [hgone] at hend
      cases hend
    · refine ih (hp.call c) (hfresh.sublist (inserted_tail_sublist c rest)) ?_ hend n hn
      -- after this call `i` still has no entry, or is inserted no more
      by_cases hci : c.inserted? = some i
      · exact .inr (not_inserted_again hfresh hci)
      · rcases hstart with h | h
        · left
          rw [find?_call hp, h, PendingCall.added_eq_none hci]
        · right
          exact fun hr => h (inserted_tail c rest hr)

/-- In a run that inserts only ids without an entry, each once, every waiter is told at
most once. -/
theorem notices_nodup (hp : p.KeysUnique) {calls : List PendingCall}
    (hfresh : (calls.filterMap PendingCall.inserted?).Nodup)
    (habsent : ∀ i ∈ calls.filterMap PendingCall.inserted?, p.find? i = none) :
    ((p.run calls).1.map Notice.id).Nodup := by
  induction calls generalizing p with
  | nil => exact List.nodup_nil
  | cons c rest ih =>
    have hrest : ∀ i ∈ rest.filterMap PendingCall.inserted?, (p.call c).2.find? i = none := by
      intro i hi
      have hc : c.inserted? ≠ some i := fun h => not_inserted_again hfresh h hi
      rw [find?_call hp, habsent i (inserted_tail c rest hi), PendingCall.added_eq_none hc]
    simp only [run, List.map_append]
    rw [List.nodup_append]
    refine ⟨call_nodup hp c,
      ih (hp.call c) (hfresh.sublist (inserted_tail_sublist c rest)) hrest, ?_⟩
    -- an id told by this call has lost its entry, and the rest never inserts it
    intro a ha b hb hab
    subst hab
    obtain ⟨n, hn, rfl⟩ := List.mem_map.mp ha
    obtain ⟨e, hfind, -, hrem, hout⟩ := (mem_call hp c n).mp hn
    have hnot : n.id ∉ rest.filterMap PendingCall.inserted? := by
      intro h
      rw [habsent n.id (inserted_tail c rest h)] at hfind
      cases hfind
    have habs : (p.call c).2.find? n.id = none :=
      find?_call_of_removes hp hfind hrem (by simp [PendingCall.inserted?_of_outcome hout])
    obtain ⟨m, hm, hmid⟩ := List.mem_map.mp hb
    exact (absent_run (hp.call c) habs hnot).1 m hm hmid

end Run

/-! ## Runs from the empty table -/

section FromEmpty

theorem keysUnique_empty : KeysUnique {} := List.nodup_nil

/-- Every id with an entry after a run from the empty table was inserted in it. -/
theorem mem_inserted_of_find? {calls : List PendingCall} {i : Uuid}
    (h : ((({} : PendingReplies).run calls).2.find? i).isSome) :
    i ∈ calls.filterMap PendingCall.inserted? := by
  by_contra hnot
  rw [(absent_run keysUnique_empty rfl hnot).2] at h
  cases h

/-- The size of the table is the number of inserted ids that still have an entry. -/
theorem len_run (calls : List PendingCall) (hfresh : (calls.filterMap PendingCall.inserted?).Nodup) :
    (({} : PendingReplies).run calls).2.len =
      ((calls.filterMap PendingCall.inserted?).filter fun i =>
        ((({} : PendingReplies).run calls).2.find? i).isSome).length := by
  have hq := keysUnique_empty.run calls
  -- the ids with an entry are exactly those inserted ids, each once
  have hperm : ((({} : PendingReplies).run calls).2.entries.map (·.1)).Perm
      ((calls.filterMap PendingCall.inserted?).filter fun i =>
        ((({} : PendingReplies).run calls).2.find? i).isSome) := by
    refine (List.perm_ext_iff_of_nodup hq (hfresh.filter _)).mpr fun i => ?_
    rw [mem_keys_iff, List.mem_filter]
    exact ⟨fun h => ⟨mem_inserted_of_find? h, h⟩, fun h => h.2⟩
  rw [len, ← hperm.length_eq, List.length_map]

/-- **The call that takes an entry away decides all its waiter is told**, in a run from the
empty table that inserts each id once. -/
theorem filter_run_of_removes {calls pre post : List PendingCall} {c : PendingCall} {i : Uuid}
    {e : PendingReply} (hfresh : (calls.filterMap PendingCall.inserted?).Nodup)
    (hsplit : calls = pre ++ c :: post) (hfind : (({} : PendingReplies).run pre).2.find? i = some e)
    (hrem : c.removes i e) :
    (({} : PendingReplies).run calls).1.filter (·.id == i) =
      if e.awaited then ((c.outcome e).map (Notice.mk i)).toList else [] := by
  subst hsplit
  have hp₁ := keysUnique_empty.run pre
  -- `i` was inserted before `c`, so neither `c` nor what follows inserts it
  have hins : i ∈ pre.filterMap PendingCall.inserted? := mem_inserted_of_find? (by rw [hfind]; rfl)
  rw [List.filterMap_append, List.nodup_append] at hfresh
  obtain ⟨hpre, -, hdisj⟩ := hfresh
  have hnot : i ∉ (c :: post).filterMap PendingCall.inserted? := fun h => hdisj i hins i h rfl
  have hc : c.inserted? ≠ some i := fun h => hnot (inserted_head post h)
  -- before `c` nothing was told to `i`; after it, `i` has no entry and is told nothing more
  have hbefore := quiet_of_present keysUnique_empty hpre (.inl rfl) (by rw [hfind]; rfl)
  have habs := find?_call_of_removes hp₁ hfind hrem hc
  have hafter := (absent_run (hp₁.call c) habs fun h => hnot (inserted_tail c post h)).1
  have hpre_nil : (({} : PendingReplies).run pre).1.filter (·.id == i) = [] :=
    List.filter_eq_nil_iff.mpr fun n hn => by simpa using hbefore n hn
  have hpost_nil : (((({} : PendingReplies).run pre).2.call c).2.run post).1.filter (·.id == i) = [] :=
    List.filter_eq_nil_iff.mpr fun n hn => by simpa using hafter n hn
  rw [run_append]
  simp only [run, List.filter_append, hpre_nil, hpost_nil, List.nil_append, List.append_nil]
  rw [filter_call hp₁, hfind]
  simp [hrem]

end FromEmpty

/-- **Pending replies are resolved at most once and accounted exactly.**  One call keeps an
entry unless it takes it away; a sweep takes away the entries due and counts them; a reply
for a command not pending changes nothing.  Along any run from the empty table that inserts
each id once, every waiter is told at most once, only by the call that takes its entry away
and with that call's outcome, and the size of the table counts the inserted ids still
pending. -/
theorem pending_replies_resolved_once :
    (∀ (p : PendingReplies) (c : PendingCall) (id : Uuid), p.KeysUnique →
      (p.call c).2.find? id = match p.find? id with
        | some e => if c.removes id e then c.added id else some e
        | none => c.added id) ∧
    (∀ (p : PendingReplies) (now : Nat), p.KeysUnique →
      (p.sweep now).1 + (p.sweep now).2.2.len = p.len ∧
      ∀ id, (p.sweep now).2.2.find? id = (p.find? id).filter fun e => !decide (e.deadline ≤ now)) ∧
    (∀ (p : PendingReplies) (r : Reply), p.find? r.id = none → p.complete r = ([], p)) ∧
    ∀ calls : List PendingCall, (calls.filterMap PendingCall.inserted?).Nodup →
      (((({} : PendingReplies).run calls).1.map Notice.id).Nodup ∧
      (∀ n ∈ (({} : PendingReplies).run calls).1, ∃ pre c post e, calls = pre ++ c :: post ∧
        (({} : PendingReplies).run pre).2.find? n.id = some e ∧ e.awaited ∧
        c.removes n.id e ∧ c.outcome e = some n.result) ∧
      (∀ pre c post id e, calls = pre ++ c :: post →
        (({} : PendingReplies).run pre).2.find? id = some e → c.removes id e →
        (({} : PendingReplies).run calls).1.filter (·.id == id) =
          if e.awaited then ((c.outcome e).map (Notice.mk id)).toList else []) ∧
      (({} : PendingReplies).run calls).2.len =
        ((calls.filterMap PendingCall.inserted?).filter fun i =>
          ((({} : PendingReplies).run calls).2.find? i).isSome).length) := by
  refine ⟨fun p c id hp => find?_call hp c id,
    fun p now hp => ⟨sweep_count_add_len p now, find?_sweep hp now⟩,
    fun p r h => complete_of_find?_none h, fun calls hfresh => ⟨?_, ?_, ?_, len_run calls hfresh⟩⟩
  · exact notices_nodup keysUnique_empty hfresh fun _ _ => rfl
  · exact fun n hn => (mem_run keysUnique_empty calls n).mp hn
  · exact fun pre c post id e hsplit hfind hrem => filter_run_of_removes hfresh hsplit hfind hrem

/-- A request whose timeout is zero is due at once: the sweep at its start times it out,
naming its topic and timeout, and leaves a command sent without waiting pending. -/
theorem zero_timeout_request_swept :
    let a : Uuid := ⟨[1]⟩
    let b : Uuid := ⟨[2]⟩
    let pre := [PendingCall.insert a "sntp/sync" 0 true 0, .insert b "wifi/scan" 60000 false 0]
    (({} : PendingReplies).run (pre ++ [.sweep 0])).1.filter (·.id == a) =
        [⟨a, .error (.replyTimeout "sntp/sync" 0)⟩] ∧
      (({} : PendingReplies).run (pre ++ [.sweep 0])).2.len = 1 := by
  intro a b pre
  have hfresh : ((pre ++ [PendingCall.sweep 0]).filterMap PendingCall.inserted?).Nodup := by decide
  obtain ⟨-, -, -, hrun⟩ := pending_replies_resolved_once
  obtain ⟨-, -, hfate, hlen⟩ := hrun _ hfresh
  refine ⟨?_, ?_⟩
  · rw [hfate pre (.sweep 0) [] a ⟨"sntp/sync", 0, 0, true⟩ rfl rfl (by decide)]
    rfl
  · rw [hlen]
    decide



end PendingReplies

end Tether
