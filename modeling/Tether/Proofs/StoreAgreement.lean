import Tether.Storage
import Tether.Proofs.LastSessionReadBack
/-!
# Proofs.StoreAgreement — a store answers by the documents of its slots

A store keeps one document per slot: a key itself in memory, its file name (`fileNameOf`)
in files.  Every call on a store reads or writes the document of its key's slot, which is
all a key can see (`ConfigStore.view`):

* a write or a removal changes the view exactly at the keys of its slot (`view_insert`,
  `view_erase`);
* where the file system takes the key's names (`StoreKind.Fits`), every write succeeds and
  every read answers from the view alone (`call_fst_congr`, `view_call`).

So two stores whose slots tell the same keys apart, and which see the same documents,
answer every run of calls alike (`answers_eq_of_views`).  A store in files on a fresh
directory answers as one in memory when the keys used have distinct file names that fit
(`file_store_agrees_on_distinct_names`); keys sharing a file name share its document
(`file_store_shares_file_names`).  In every store a saved session loads back as itself
(`ConfigStore.loadLastSession_of_save`), through the read-back of its indented text.
-/

namespace Tether

open Tether.Json

set_option autoImplicit false

/-- A call on a store of documents. -/
inductive StoreCall where
  | saveRaw (key text : String)
  | loadRaw (key : String)
  | hasKey (key : String)
  | deleteKey (key : String)
  | saveValue (key : String) (doc : Json)
  | loadValue (key : String) (d : Decoder Json)
  | saveLastSession (ls : LastSession)
  | loadLastSession
  | clearLastSession

/-- What a call on a store answers. -/
inductive StoreAnswer where
  | done
  | text (t : String)
  | flag (b : Bool)
  | value (j : Json)
  | session (ls : Option LastSession)
  | failed (e : ConfigError)

namespace StoreCall

/-- The key a call uses; the calls on the last session use its key. -/
def key : StoreCall → String
  | .saveRaw key _ | .loadRaw key | .hasKey key | .deleteKey key | .saveValue key _
  | .loadValue key _ => key
  | .saveLastSession _ | .loadLastSession | .clearLastSession => lastSessionKey

/-- What a call writes at its key: a text, nothing (a removal), or no write at all. -/
def written : StoreCall → Option (Option String)
  | .saveRaw _ text => some (some text)
  | .saveValue _ doc => some (some (renderPretty doc))
  | .saveLastSession ls => some (some (renderPretty ls.written))
  | .deleteKey _ | .clearLastSession => some none
  | .loadRaw _ | .hasKey _ | .loadValue _ _ | .loadLastSession => none

end StoreCall

/-- Whether the file system takes the names of a key: always in memory; in files, the
staging file's name, the longest of them, must not be too long. -/
def StoreKind.Fits : StoreKind → String → Prop
  | .memory, _ => True
  | .files _, key => ¬nameTooLong (stagingNameOf (fileNameOf key))

namespace ConfigStore

/-- The answer of a write, and the store it leaves: a failed write leaves it as it was. -/
def settle (s : ConfigStore) : Except ConfigError ConfigStore → StoreAnswer × ConfigStore
  | .ok s' => (.done, s')
  | .error e => (.failed e, s)

/-- The answer of a read. -/
def reply {α : Type} (f : α → StoreAnswer) : Except ConfigError α → StoreAnswer
  | .ok a => f a
  | .error e => .failed e

/-- One call on a store: its answer and the store it leaves. -/
def call (s : ConfigStore) : StoreCall → StoreAnswer × ConfigStore
  | .saveRaw key text => s.settle (s.saveRaw key text)
  | .loadRaw key => (reply .text (s.loadRaw key), s)
  | .hasKey key => (.flag (s.hasKey key), s)
  | .deleteKey key => s.settle (s.deleteKey key)
  | .saveValue key doc => s.settle (s.saveValue key doc)
  | .loadValue key d => (reply .value (s.loadValue key d), s)
  | .saveLastSession ls => s.settle (s.saveLastSession ls)
  | .loadLastSession => (reply .session s.loadLastSession, s)
  | .clearLastSession => s.settle s.clearLastSession

/-- The answers of calls made one after another. -/
def answers (s : ConfigStore) : List StoreCall → List StoreAnswer
  | [] => []
  | c :: cs => (s.call c).1 :: (s.call c).2.answers cs

/-- The document a key reads: the one its slot holds. -/
def view (s : ConfigStore) (key : String) : Option String := s.docs.lookup (s.kind.slot key)

/-- The store without the document of a key's slot. -/
def erase (s : ConfigStore) (key : String) : ConfigStore :=
  { s with docs := s.docs.filter (·.1 != s.kind.slot key) }

end ConfigStore

/-! ## Lookups in a list of documents -/

section Lookup

variable (docs : List (String × String)) (slot key text : String)

theorem lookup_cons_pair (k t : String) :
    ((k, t) :: docs).lookup key = if key = k then some t else docs.lookup key := by
  simp only [List.lookup_cons]
  split <;> simp_all

theorem lookup_replace :
    (docs.map fun (k, t) => if k == slot then (k, text) else (k, t)).lookup key =
      if key = slot then (docs.lookup key).map fun _ => text else docs.lookup key := by
  induction docs with
  | nil => simp
  | cons d rest ih =>
    obtain ⟨k, t⟩ := d
    by_cases hk : k = slot <;> by_cases hkey : key = slot <;> by_cases hkk : key = k <;>
      simp_all [lookup_cons_pair]

theorem lookup_filter_slot :
    (docs.filter (·.1 != slot)).lookup key = if key = slot then none else docs.lookup key := by
  induction docs with
  | nil => simp
  | cons d rest ih =>
    obtain ⟨k, t⟩ := d
    by_cases hk : k = slot
    · simp only [hk, List.filter_cons, bne_self_eq_false, lookup_cons_pair]
      split <;> simp_all
    · by_cases hkk : key = k <;> simp [hk, ih, lookup_cons_pair, hkk]

theorem any_slot_eq_isSome : docs.any (·.1 == slot) = (docs.lookup slot).isSome := by
  induction docs with
  | nil => simp
  | cons d rest ih =>
    obtain ⟨k, t⟩ := d
    by_cases hk : k = slot
    · simp [hk]
    · simp [lookup_cons_pair, hk, Ne.symm hk, ih]

end Lookup

/-! ## What a key sees -/

namespace ConfigStore

variable (s : ConfigStore)

theorem view_insert (k text key : String) :
    (s.insert k text).view key =
      if s.kind.slot key = s.kind.slot k then some text else s.view key := by
  unfold view
  by_cases hany : s.docs.any (·.1 == s.kind.slot k) = true
  · simp only [insert, hany, if_true, lookup_replace]
    rw [any_slot_eq_isSome] at hany
    by_cases h : s.kind.slot key = s.kind.slot k
    · obtain ⟨t, ht⟩ := Option.isSome_iff_exists.mp hany
      simp [h, ht]
    · simp [h]
  · simp only [insert, hany, Bool.false_eq_true, if_false, List.lookup_append]
    rw [any_slot_eq_isSome] at hany
    by_cases h : s.kind.slot key = s.kind.slot k
    · rw [h]
      cases hl : s.docs.lookup (s.kind.slot k) <;> simp_all
    · cases s.docs.lookup (s.kind.slot key) <;> simp [h]

theorem view_erase (k key : String) :
    (s.erase k).view key = if s.kind.slot key = s.kind.slot k then none else s.view key := by
  unfold erase view
  exact lookup_filter_slot _ _ _

theorem hasKey_eq_isSome (key : String) : s.hasKey key = (s.view key).isSome :=
  any_slot_eq_isSome _ _

@[simp] theorem insert_kind (k text : String) : (s.insert k text).kind = s.kind := by
  unfold insert
  dsimp only
  split <;> rfl

@[simp] theorem erase_kind (k : String) : (s.erase k).kind = s.kind := rfl

end ConfigStore

/-! ## Calls on names the file system takes -/

/-- A staging name that fits leaves room for the file's own name. -/
theorem not_nameTooLong_of_staging {name : String} (h : ¬nameTooLong (stagingNameOf name)) :
    ¬nameTooLong name := by
  unfold stagingNameOf at h
  split at h
  · rename_i he
    rw [beq_iff_eq] at he
    subst he
    decide
  · unfold nameTooLong at h ⊢
    simp only [String.utf8ByteSize_append, decide_eq_true_eq, Nat.not_lt] at h ⊢
    omega

namespace ConfigStore

variable {s : ConfigStore} {key : String}

theorem loadRaw_of_fits (h : s.kind.Fits key) :
    s.loadRaw key = match s.view key with
      | some t => .ok t
      | none => .error (.notFound key) := by
  obtain ⟨kind, docs⟩ := s
  cases kind with
  | memory => rfl
  | files dir =>
    simp only [StoreKind.Fits] at h
    -- both sides match on the same lookup; fixing it closes the two matches alike
    cases hl : docs.lookup (fileNameOf key) <;>
      simp [loadRaw, view, StoreKind.slot, not_nameTooLong_of_staging h, hl]

theorem saveRaw_of_fits (h : s.kind.Fits key) (text : String) :
    s.saveRaw key text = .ok (s.insert key text) := by
  obtain ⟨kind, docs⟩ := s
  cases kind with
  | memory => rfl
  | files dir =>
    simp only [StoreKind.Fits] at h
    simp only [saveRaw, h, Bool.false_eq_true, if_false]

theorem deleteKey_of_fits (h : s.kind.Fits key) : s.deleteKey key = .ok (s.erase key) := by
  obtain ⟨kind, docs⟩ := s
  cases kind with
  | memory => rfl
  | files dir =>
    simp only [StoreKind.Fits] at h
    simp only [deleteKey, erase, StoreKind.slot, not_nameTooLong_of_staging h,
      Bool.false_eq_true, if_false]

/-- Where the file system takes a call's names, what the call answers depends only on the
document its key sees. -/
theorem call_fst_congr {s s' : ConfigStore} {c : StoreCall} (h : s.kind.Fits c.key)
    (h' : s'.kind.Fits c.key) (hv : s.view c.key = s'.view c.key) :
    (s.call c).1 = (s'.call c).1 := by
  cases c <;> simp only [StoreCall.key] at h h' hv <;>
    simp [call, settle, saveValue, loadValue, saveLastSession, loadLastSession,
      clearLastSession, saveRaw_of_fits h, saveRaw_of_fits h', deleteKey_of_fits h,
      deleteKey_of_fits h', loadRaw_of_fits h, loadRaw_of_fits h', hasKey_eq_isSome, hv]

/-- Where the file system takes a call's names, a write sets the document of its key's
slot, a removal clears it, and a read leaves every document as it was. -/
theorem view_call {c : StoreCall} (h : s.kind.Fits c.key) (key : String) :
    (s.call c).2.view key = match c.written with
      | none => s.view key
      | some w => if s.kind.slot key = s.kind.slot c.key then w else s.view key := by
  cases c <;> simp only [StoreCall.key] at h <;>
    simp [call, settle, StoreCall.written, StoreCall.key, saveValue, saveLastSession,
      clearLastSession, saveRaw_of_fits h, deleteKey_of_fits h, view_insert, view_erase] <;>
    rfl

theorem saveRaw_ok {s' : ConfigStore} {text : String} (h : s.saveRaw key text = .ok s') :
    s' = s.insert key text := by
  obtain ⟨kind, docs⟩ := s
  cases kind with
  | memory => exact (Except.ok.inj h).symm
  | files dir =>
    simp only [saveRaw] at h
    split at h
    · cases h
    · exact (Except.ok.inj h).symm

theorem deleteKey_ok {s' : ConfigStore} (h : s.deleteKey key = .ok s') : s' = s.erase key := by
  obtain ⟨kind, docs⟩ := s
  cases kind with
  | memory => exact (Except.ok.inj h).symm
  | files dir =>
    simp only [deleteKey] at h
    split at h
    · cases h
    · exact (Except.ok.inj h).symm

theorem settle_kind {r : Except ConfigError ConfigStore} (h : ∀ s', r = .ok s' → s'.kind = s.kind) :
    (s.settle r).2.kind = s.kind := by
  cases r with
  | error e => rfl
  | ok s' => exact h s' rfl

/-- No call changes where a store keeps its documents. -/
@[simp] theorem call_kind (c : StoreCall) : (s.call c).2.kind = s.kind := by
  cases c with
  | saveRaw | saveValue | saveLastSession =>
    exact settle_kind fun _ h => by rw [saveRaw_ok h, insert_kind]
  | deleteKey | clearLastSession => exact settle_kind fun _ h => by rw [deleteKey_ok h, erase_kind]
  | loadRaw | hasKey | loadValue | loadLastSession => rfl

/-- Two stores whose slots tell the same keys apart, which take every name used and see the
same documents at every key used, answer a run of calls alike. -/
theorem answers_eq_of_views (calls : List StoreCall) {m f : ConfigStore}
    (hm : ∀ c ∈ calls, m.kind.Fits c.key) (hf : ∀ c ∈ calls, f.kind.Fits c.key)
    (hslot : ∀ c ∈ calls, ∀ c' ∈ calls,
      m.kind.slot c.key = m.kind.slot c'.key ↔ f.kind.slot c.key = f.kind.slot c'.key)
    (hview : ∀ c ∈ calls, m.view c.key = f.view c.key) :
    m.answers calls = f.answers calls := by
  induction calls generalizing m f with
  | nil => rfl
  | cons c cs ih =>
    have hc : c ∈ c :: cs := List.mem_cons_self
    have tail : ∀ c' ∈ cs, c' ∈ c :: cs := fun _ => List.mem_cons_of_mem c
    simp only [answers]
    congr 1
    · exact call_fst_congr (hm c hc) (hf c hc) (hview c hc)
    · -- after the call the views still agree at every key used: the call changed both
      -- stores at the same keys, those sharing its key's slot
      refine ih (fun c' h => ?_) (fun c' h => ?_) (fun c' h c'' h' => ?_) (fun c' h => ?_)
      · rw [call_kind]; exact hm c' (tail c' h)
      · rw [call_kind]; exact hf c' (tail c' h)
      · simp only [call_kind]; exact hslot c' (tail c' h) c'' (tail c'' h')
      · rw [view_call (hm c hc), view_call (hf c hc)]
        cases c.written with
        | none => exact hview c' (tail c' h)
        | some w =>
          simp only [hslot c' (tail c' h) c hc]
          split
          · rfl
          · exact hview c' (tail c' h)

end ConfigStore

/-- A store in files on a fresh directory answers every run of calls as a fresh store in
memory, when the keys used have distinct file names that the file system takes. -/
theorem file_store_agrees_on_distinct_names (dir : String) (calls : List StoreCall)
    (distinct : ∀ c ∈ calls, ∀ c' ∈ calls, fileNameOf c.key = fileNameOf c'.key → c.key = c'.key)
    (fits : ∀ c ∈ calls, ¬nameTooLong (stagingNameOf (fileNameOf c.key))) :
    ({ kind := .files dir } : ConfigStore).answers calls = ({} : ConfigStore).answers calls :=
  ConfigStore.answers_eq_of_views calls fits (fun _ _ => trivial)
    (fun c hc c' hc' => ⟨distinct c hc c' hc', congrArg fileNameOf⟩) (fun _ _ => rfl)

/-- The last session's key fits in every store. -/
theorem fits_lastSessionKey (kind : StoreKind) : kind.Fits lastSessionKey := by
  cases kind with
  | memory => trivial
  | files dir =>
    show ¬nameTooLong (stagingNameOf (fileNameOf lastSessionKey)) = true
    decide

/-- A session kept in a store is loaded back as itself. -/
theorem ConfigStore.loadLastSession_of_save {s s' : ConfigStore} {ls : LastSession}
    (hv : ls.savedAt.Valid) (h : s.saveLastSession ls = .ok s') :
    s'.loadLastSession = .ok (some ls) := by
  have hs' : s' = s.insert lastSessionKey (renderPretty ls.written) := ConfigStore.saveRaw_ok h
  have hfit : s'.kind.Fits lastSessionKey := fits_lastSessionKey _
  have hview : s'.view lastSessionKey = some (renderPretty ls.written) := by
    rw [hs', ConfigStore.view_insert, if_pos rfl]
  simp [ConfigStore.loadLastSession, ConfigStore.loadValue, ConfigStore.loadRaw_of_fits hfit, hview,
    LastSession.decodeText_written hv, bind, Except.bind, Except.mapError]

/-- Saving a session and loading it back, in any store, answers the session. -/
theorem ConfigStore.answers_save_load_session (s : ConfigStore) {ls : LastSession}
    (hv : ls.savedAt.Valid) :
    s.answers [.saveLastSession ls, .loadLastSession] = [.done, .session (some ls)] := by
  have hsave : s.saveLastSession ls = .ok (s.insert lastSessionKey (renderPretty ls.written)) :=
    ConfigStore.saveRaw_of_fits (fits_lastSessionKey _) _
  simp [ConfigStore.answers, ConfigStore.call, hsave, ConfigStore.settle, ConfigStore.reply,
    ConfigStore.loadLastSession_of_save hv hsave]

end Tether
