import Mathlib
import Tether.Network.AccessPoint
/-!
# Proofs.WifiListing — what the scanner's listing is read as

`parseListing` goes through the lines of a listing once, keeping the access point a line
describes unless one of its SSID is already kept.  Here the same result is described without
the list being built: the access points of a listing are the entries of its lines
(`listingEntry`), with every entry of an SSID seen before left out (`firstEach`).  So the
SSIDs kept are non-empty and pairwise distinct, they come in the order the listing gives
them, and each access point is the one the first line of its SSID describes.

The scanner writes a field with every `:` and `\` in it preceded by a `\`, and joins the
fields of a line with `:` (`listingLine`).  `splitFields` cuts such a line back into exactly
those fields, whatever they hold, provided there is at least one: a line never has no field,
the empty line having one empty field (`splitFields_ne_nil`).

The main statement is `listing_keeps_first_line_per_ssid`.
-/

namespace Tether

set_option autoImplicit false

/-! ## Lines written by the scanner -/

/-- A field as the scanner writes it: every `:` and `\` preceded by a `\`. -/
def escapeField (f : List Char) : List Char :=
  f.flatMap fun c => if c = ':' ∨ c = '\\' then ['\\', c] else [c]

/-- The listing line the scanner writes for the given fields. -/
def listingLine (fs : List String) : String :=
  String.ofList ([':'].intercalate (fs.map fun f => escapeField f.toList))

theorem escapeField_cons (c : Char) (f : List Char) :
    escapeField (c :: f) = (if c = ':' ∨ c = '\\' then ['\\', c] else [c]) ++ escapeField f := by
  simp [escapeField]

namespace splitFields

/-- A character that is neither `:` nor `\` goes into the field being read. -/
theorem go_plain {c : Char} (h1 : c ≠ ':') (h2 : c ≠ '\\') (rest cur : List Char)
    (acc : List (List Char)) : go (c :: rest) cur acc = go rest (c :: cur) acc :=
  go.eq_5 _ _ _ _ (fun _ _ h => absurd h h2) (fun h => absurd h h2) h1

/-- Reading an escaped field puts its characters, in order, into the field being read. -/
theorem go_escapeField (f rest cur : List Char) (acc : List (List Char)) :
    go (escapeField f ++ rest) cur acc = go rest (f.reverse ++ cur) acc := by
  induction f generalizing cur with
  | nil => rfl
  | cons c f ih =>
    rw [escapeField_cons]
    by_cases hc : c = ':' ∨ c = '\\'
    · -- an escaped character goes into the field as it is
      simp only [if_pos hc, List.cons_append, List.nil_append]
      rw [go, ih]
      simp
    · simp only [if_neg hc, List.cons_append, List.nil_append]
      rw [go_plain (fun h => hc (.inl h)) (fun h => hc (.inr h)), ih]
      simp

theorem go_ne_nil (l cur : List Char) (acc : List (List Char)) : go l cur acc ≠ [] := by
  fun_induction go l cur acc <;> simp_all

/-- Reading the fields the scanner joined adds exactly those fields. -/
theorem go_fields (fs : List (List Char)) (hfs : fs ≠ []) (acc : List (List Char)) :
    go ([':'].intercalate (fs.map escapeField)) [] acc = acc ++ fs := by
  induction fs generalizing acc with
  | nil => exact absurd rfl hfs
  | cons f fs ih =>
    cases fs with
    | nil =>
      have h := go_escapeField f [] [] acc
      rw [List.append_nil] at h
      rw [List.map_singleton, List.intercalate_singleton, h, go]
      simp
    | cons g gs =>
      rw [List.map_cons, List.map_cons, List.intercalate_cons_cons, List.append_assoc,
        go_escapeField, List.singleton_append, go, ← List.map_cons, ih (by simp)]
      simp

end splitFields

/-- Every line has a field, the empty line one empty field. -/
theorem splitFields_ne_nil (line : String) : splitFields line ≠ [] := by
  simpa [splitFields] using splitFields.go_ne_nil line.toList [] []

theorem splitFields_listingLine (fs : List String) (hfs : fs ≠ []) :
    splitFields (listingLine fs) = fs := by
  have h := splitFields.go_fields (fs.map String.toList) (by simpa using hfs) []
  rw [List.map_map, List.nil_append] at h
  rw [splitFields, listingLine, String.toList_ofList]
  simp only [Function.comp_def] at h
  rw [h, List.map_map]
  simp

/-! ## The access points of a listing -/

/-- The access point a listing line describes: its first field as the SSID, unless that is
empty, the second read as a signal, and secured when a third is present, non-empty and not
`--`. -/
def listingEntry (line : String) : Option AccessPoint :=
  match splitFields line with
  | ssid :: rest =>
    if ssid.isEmpty then none
    else
      let secured := match rest[1]? with
        | some s => !s.isEmpty && s != "--"
        | none => false
      some { ssid, signal := rest.head?.bind parseByte, secured }
  | [] => none

/-- The access points the lines of a listing describe, in order, repeats included. -/
def listingEntries (output : String) : List AccessPoint :=
  (textLines output).filterMap listingEntry

/-- Keeps an access point unless one of its SSID is kept already. -/
def keepNew (acc : List AccessPoint) (ap : AccessPoint) : List AccessPoint :=
  if acc.any (·.ssid == ap.ssid) then acc else acc ++ [ap]

/-- The first access point of each SSID, in order. -/
def firstEach : List AccessPoint → List AccessPoint
  | [] => []
  | ap :: aps => ap :: (firstEach aps).filter (·.ssid != ap.ssid)

theorem ssid_ne_of_listingEntry {line : String} {ap : AccessPoint} (h : listingEntry line = some ap) :
    ap.ssid ≠ "" := by
  unfold listingEntry at h
  split at h
  · split at h
    · cases h
    · rename_i hne
      cases h
      simpa [String.isEmpty_iff] using hne
  · cases h

theorem parseListing_eq_foldl (output : String) :
    parseListing output = (listingEntries output).foldl keepNew [] := by
  rw [listingEntries, List.foldl_filterMap, parseListing]
  congr 1
  funext acc line
  cases h : splitFields line with
  | nil => simp [listingEntry, h]
  | cons ssid rest =>
    by_cases he : ssid.isEmpty = true
    · simp [listingEntry, h, he]
    · -- split on the third field, so that both descriptions of `secured` read the same
      cases h₂ : rest[1]? <;>
        simp only [listingEntry, h, he, h₂, keepNew, Bool.false_eq_true, false_or, if_false]

/-- Keeping the new SSIDs of a list, after `acc`, adds the first access point of each SSID
that `acc` does not hold. -/
theorem foldl_keepNew (aps acc : List AccessPoint) :
    aps.foldl keepNew acc = acc ++ (firstEach aps).filter fun b => !acc.any (·.ssid == b.ssid) := by
  induction aps generalizing acc with
  | nil => simp [firstEach]
  | cons a aps ih =>
    rw [List.foldl_cons, ih, firstEach]
    by_cases hin : acc.any (·.ssid == a.ssid) = true
    · rw [keepNew, if_pos hin, List.filter_cons_of_neg (by simp [hin]), List.filter_filter]
      congr 1
      apply List.filter_congr
      intro b _
      by_cases hb : b.ssid = a.ssid
      · simp [hb, hin]
      · simp [hb]
    · rw [keepNew, if_neg hin, List.filter_cons_of_pos (by simpa using hin), List.filter_filter]
      simp only [List.any_append, List.any_cons, List.any_nil, Bool.or_false, List.append_assoc,
        List.singleton_append]
      congr 2
      apply List.filter_congr
      intro b _
      by_cases hb : b.ssid = a.ssid
      · simp [hb]
      · rw [beq_eq_false_iff_ne.mpr (Ne.symm hb), bne_iff_ne.mpr hb]
        simp

theorem parseListing_eq_firstEach (output : String) :
    parseListing output = firstEach (listingEntries output) := by
  rw [parseListing_eq_foldl, foldl_keepNew]
  simp

theorem firstEach_sublist (aps : List AccessPoint) : (firstEach aps).Sublist aps := by
  induction aps with
  | nil => exact List.Sublist.slnil
  | cons a aps ih => exact ((List.filter_sublist).trans ih).cons_cons a

theorem nodup_firstEach (aps : List AccessPoint) : ((firstEach aps).map (·.ssid)).Nodup := by
  induction aps with
  | nil => exact List.nodup_nil
  | cons a aps ih =>
    rw [firstEach, List.map_cons, List.nodup_cons]
    constructor
    · intro hmem
      obtain ⟨b, hb, hba⟩ := List.mem_map.mp hmem
      simp [List.mem_filter, hba] at hb
    · exact ih.sublist (List.filter_sublist.map _)

/-- An access point kept is the first of its SSID. -/
theorem find?_firstEach (aps : List AccessPoint) :
    ∀ b ∈ firstEach aps, aps.find? (·.ssid == b.ssid) = some b := by
  induction aps with
  | nil => intro b hb; cases hb
  | cons a aps ih =>
    intro b hb
    rw [firstEach, List.mem_cons] at hb
    rcases hb with rfl | hb
    · simp
    · obtain ⟨hb, hne⟩ := List.mem_filter.mp hb
      have hab : a.ssid ≠ b.ssid := fun h => by simp [h] at hne
      rw [List.find?_cons_of_neg (by simpa using hab), ih b hb]

/-- Every SSID of the list is kept. -/
theorem exists_firstEach (aps : List AccessPoint) :
    ∀ a ∈ aps, ∃ b ∈ firstEach aps, b.ssid = a.ssid := by
  induction aps with
  | nil => intro a ha; cases ha
  | cons a aps ih =>
    intro x hx
    rcases List.mem_cons.mp hx with rfl | hx
    · exact ⟨x, List.mem_cons_self, rfl⟩
    · obtain ⟨b, hb, hbx⟩ := ih x hx
      by_cases hba : b.ssid = a.ssid
      · exact ⟨a, List.mem_cons_self, hba ▸ hbx⟩
      · exact ⟨b, List.mem_cons_of_mem a (List.mem_filter.mpr ⟨hb, by simpa using hba⟩), hbx⟩

/-- A listing is read as the first line of each SSID that is not empty, in order, and a line
the scanner writes is cut back into its fields exactly when it has any. -/
theorem listing_keeps_first_line_per_ssid (output : String) :
    parseListing output = firstEach (listingEntries output) ∧
      (parseListing output).Sublist (listingEntries output) ∧
      ((parseListing output).map (·.ssid)).Nodup ∧
      (∀ ap ∈ parseListing output,
        ap.ssid ≠ "" ∧ (listingEntries output).find? (·.ssid == ap.ssid) = some ap) ∧
      (∀ e ∈ listingEntries output, ∃ ap ∈ parseListing output, ap.ssid = e.ssid) ∧
      ∀ fs : List String, splitFields (listingLine fs) = fs ↔ fs ≠ [] := by
  set entries := listingEntries output
  have heq := parseListing_eq_firstEach output
  refine ⟨heq, heq ▸ firstEach_sublist entries, heq ▸ nodup_firstEach entries, fun ap hap => ⟨?_, ?_⟩,
    heq ▸ exists_firstEach entries, fun fs => ⟨fun h hnil => ?_, splitFields_listingLine fs⟩⟩
  · obtain ⟨line, -, hline⟩ := List.mem_filterMap.mp ((heq ▸ firstEach_sublist entries).subset hap)
    exact ssid_ne_of_listingEntry hline
  · exact find?_firstEach entries ap (heq ▸ hap)
  · exact splitFields_ne_nil (listingLine fs) (hnil ▸ h)

end Tether
