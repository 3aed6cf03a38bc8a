import Mathlib
import Tether.Topic
/-!
# Proofs.TopicGrammar — what a topic pattern accepts, and what it matches

A pattern is read by trimming its surrounding slashes (`trimSlashes`) and cutting the rest
at every `/` (`segmentsOf`).  `trimSlashes_spec` says the trim is exactly that: the text is
the trimmed part between two runs of slashes, and the trimmed part neither starts nor ends
with one.  Cutting is injective (`segmentsOf_injective`): the pieces joined by `/` give the
text back.

Parsing (`parse_eq_ok_iff`) succeeds exactly when the trimmed text is non-empty and has no
empty segment, and keeps the trimmed text as the pattern's text.

Matching has a declarative reading over the two lists of segments (`MatchesSegments`): the
pattern `*` alone matches everything; otherwise each pattern segment takes one topic segment,
which must be non-empty and equal to it unless it is `*`, and the topic must have no segment
left over unless the last pattern segment is `*`.  The matcher is a single pass with early
exits; `matchSegments_iff` shows it decides that reading, and `matchesTopic_iff` lifts it to
patterns.  A pattern without `*` matches a topic exactly when the topic, trimmed, is the
pattern's text (`matchesTopic_iff_of_isExact`).

The main statement is `topic_pattern_grammar`.
-/

namespace Tether

set_option autoImplicit false

/-- A pattern segment, as text, takes a topic segment: the topic segment is not empty, and it
is the pattern segment itself unless that is the wildcard `*`. -/
def SegmentTakes (seg part : String) : Prop := part ≠ "" ∧ (seg ≠ "*" → part = seg)

/-- Matching read off the grammar, over the segments of a pattern and of a topic: `*` alone
matches everything; otherwise every pattern segment takes the topic segment at its place, and
the topic has no more segments than the pattern unless the pattern ends in `*`. -/
def MatchesSegments (segs parts : List String) : Prop :=
  segs = ["*"] ∨
    (segs.length ≤ parts.length ∧ List.Forall₂ SegmentTakes segs (parts.take segs.length) ∧
      (parts.length = segs.length ∨ segs.getLast? = some "*"))

/-! ## Trimming and cutting -/

/-- The slashes `takeWhile` keeps are a run of slashes. -/
theorem takeWhile_slash (l : List Char) :
    ∃ n, l.takeWhile (fun c => decide (c = '/')) = List.replicate n '/' :=
  ⟨_, List.eq_replicate_iff.mpr ⟨rfl, fun _ hc => of_decide_eq_true (List.mem_takeWhile_imp (p := fun c => decide (c = '/')) hc)⟩⟩

/-- The first character `dropWhile` leaves is not a slash. -/
theorem head?_dropWhile_slash (l : List Char) :
    (l.dropWhile (fun c => decide (c = '/'))).head? ≠ some '/' := by
  have h := List.head?_dropWhile_not (fun c => decide (c = '/')) l
  intro hs
  rw [hs] at h
  simp at h

/-- The trimmed text is the text between two runs of slashes, and it neither starts nor ends
with a slash. -/
theorem trimSlashes_spec (s : String) :
    ∃ a b, s.toList = List.replicate a '/' ++ (trimSlashes s).toList ++ List.replicate b '/' ∧
      (trimSlashes s).toList.head? ≠ some '/' ∧ (trimSlashes s).toList.getLast? ≠ some '/' := by
  -- `m` is the text after its leading slashes, `cs` that text reversed after its trailing ones
  set m := s.toList.dropWhile (fun c => decide (c = '/')) with hm
  set cs := m.reverse.dropWhile (fun c => decide (c = '/')) with hcs
  have htrim : (trimSlashes s).toList = cs.reverse := by simp [trimSlashes, hm, hcs]
  obtain ⟨a, ha⟩ := takeWhile_slash s.toList
  obtain ⟨b, hb⟩ := takeWhile_slash m.reverse
  have hsplit : m = cs.reverse ++ List.replicate b '/' := by
    have h := (List.takeWhile_append_dropWhile (l := m.reverse)
      (p := fun c => decide (c = '/'))).symm
    rw [hb, ← hcs] at h
    simpa using congrArg List.reverse h
  refine ⟨a, b, ?_, ?_, ?_⟩
  · rw [htrim, List.append_assoc, ← hsplit, ← ha]
    exact List.takeWhile_append_dropWhile.symm
  · -- the first character kept is the first character of `m`
    rw [htrim]
    intro hh
    have hne : cs.reverse ≠ [] := by
      intro h0
      rw [h0] at hh
      cases hh
    have := head?_dropWhile_slash s.toList
    rw [← hm, hsplit, List.head?_append_of_ne_nil _ hne] at this
    exact this hh
  · rw [htrim, List.getLast?_reverse]
    exact head?_dropWhile_slash m.reverse

/-- Cutting at `/` is splitting the characters at `/`. -/
theorem segmentsOf_eq (s : String) :
    segmentsOf s = (s.toList.splitOn '/').map String.ofList := by
  rw [segmentsOf, String.splitToList_of_valid, List.splitOn_eq_splitOnP]

/-- The segments joined by `/` give the text back, so two texts with the same segments are
equal. -/
theorem segmentsOf_injective {s s' : String} (h : segmentsOf s = segmentsOf s') : s = s' := by
  rw [segmentsOf_eq, segmentsOf_eq] at h
  have hl := congrArg (List.map String.toList) h
  simp only [List.map_map, Function.comp_def, String.toList_ofList, List.map_id'] at hl
  have hjoin := congrArg (['/'].intercalate ·) hl
  simp only [List.intercalate_splitOn] at hjoin
  exact String.toList_inj.mp hjoin

/-! ## Segments -/

namespace Segment

@[simp] theorem ofText_eq_wildcard_iff (s : String) : ofText s = .wildcard ↔ s = "*" := by
  unfold ofText
  split <;> simp_all

theorem ofText_of_ne {s : String} (h : s ≠ "*") : ofText s = .literal s := by
  simp [ofText, h]

end Segment

theorem map_ofText_eq_wildcard_iff (segs : List String) :
    segs.map Segment.ofText = [.wildcard] ↔ segs = ["*"] := by
  cases segs with
  | nil => simp
  | cons s rest => cases rest <;> simp

/-! ## The matcher decides the reading -/

namespace TopicPattern

theorem matchSegments_literal (l : String) (segs : List Segment) (part : String)
    (parts : List String) :
    matchSegments (.literal l :: segs) (part :: parts) =
      (!part.isEmpty && (part == l && matchSegments segs parts)) := rfl

theorem matchSegments_wildcard_nil (part : String) (parts : List String) :
    matchSegments [.wildcard] (part :: parts) = !part.isEmpty := by
  simp [matchSegments]

theorem matchSegments_wildcard_cons (seg : Segment) (segs : List Segment) (part : String)
    (parts : List String) :
    matchSegments (.wildcard :: seg :: segs) (part :: parts) =
      (!part.isEmpty && matchSegments (seg :: segs) parts) := rfl

/-- The one-pass matcher over text segments decides the reading of `MatchesSegments` without
its special case for `*` alone. -/
theorem matchSegments_iff (segs parts : List String) :
    matchSegments (segs.map Segment.ofText) parts = true ↔
      segs.length ≤ parts.length ∧ List.Forall₂ SegmentTakes segs (parts.take segs.length) ∧
        (parts.length = segs.length ∨ segs.getLast? = some "*") := by
  induction segs generalizing parts with
  | nil =>
    cases parts <;> simp [matchSegments]
  | cons s rest ih =>
    cases parts with
    | nil => simp [matchSegments]
    | cons part parts =>
      rw [List.map_cons]
      by_cases hs : s = "*"
      · subst hs
        rw [(Segment.ofText_eq_wildcard_iff "*").mpr rfl]
        -- a wildcard at the end takes what is left; elsewhere it takes one segment
        cases rest with
        | nil => simp [matchSegments_wildcard_nil, SegmentTakes]
        | cons s' rest' =>
          rw [List.map_cons, matchSegments_wildcard_cons, ← List.map_cons, Bool.and_eq_true, ih]
          simp only [Bool.not_eq_true', String.isEmpty_eq_false_iff, List.length_cons,
            List.take_succ_cons, List.forall₂_cons, SegmentTakes, List.getLast?_cons_cons]
          constructor
          · rintro ⟨hne, hl, hf, he⟩
            exact ⟨by omega, ⟨⟨hne, fun h => absurd rfl h⟩, hf⟩, he.imp_left fun _ => by omega⟩
          · rintro ⟨hl, ⟨⟨hne, -⟩, hf⟩, he⟩
            exact ⟨hne, by omega, hf, he.imp_left fun _ => by omega⟩
      · -- a literal takes one segment equal to it
        rw [Segment.ofText_of_ne hs, matchSegments_literal, Bool.and_eq_true, Bool.and_eq_true, ih]
        simp only [Bool.not_eq_true', String.isEmpty_eq_false_iff, beq_iff_eq, List.length_cons,
          List.take_succ_cons, List.forall₂_cons, SegmentTakes, List.getLast?_cons]
        have hlast : (rest.getLast?.getD s = "*") ↔ rest.getLast? = some "*" := by
          cases rest.getLast? <;> simp [hs]
        simp only [Option.some.injEq, hlast]
        constructor
        · rintro ⟨hne, rfl, hl, hf, he⟩
          exact ⟨by omega, ⟨⟨hne, fun _ => rfl⟩, hf⟩, he.imp_left fun _ => by omega⟩
        · rintro ⟨hl, ⟨⟨hne, heq⟩, hf⟩, he⟩
          exact ⟨hne, heq hs, by omega, hf, he.imp_left fun _ => by omega⟩

/-- Parsing succeeds exactly on a non-empty trimmed text without empty segments, and keeps
that text with its segments. -/
theorem parse_eq_ok_iff (pattern : String) (p : TopicPattern) :
    parse pattern = .ok p ↔
      trimSlashes pattern ≠ "" ∧ "" ∉ segmentsOf (trimSlashes pattern) ∧
        p = ⟨trimSlashes pattern, (segmentsOf (trimSlashes pattern)).map Segment.ofText⟩ := by
  unfold parse
  by_cases he : trimSlashes pattern = ""
  · simp [he]
  · have hany : (segmentsOf (trimSlashes pattern)).any (·.isEmpty) = true ↔
        "" ∈ segmentsOf (trimSlashes pattern) := by
      simp [List.any_eq_true]
    by_cases hs : "" ∈ segmentsOf (trimSlashes pattern)
    · simp [he, hany.mpr hs, hs]
    · have hf : (segmentsOf (trimSlashes pattern)).any (·.isEmpty) = false :=
        Bool.eq_false_iff.mpr fun h => hs (hany.mp h)
      simp only [String.isEmpty_iff, he, if_false, hf, Bool.false_eq_true, Except.ok.injEq]
      exact ⟨fun h => ⟨he, hs, h.symm⟩, fun h => h.2.2.symm⟩

/-- A parsed pattern matches a topic exactly as the grammar reads it. -/
theorem matchesTopic_iff {pattern : String} {p : TopicPattern} (hp : parse pattern = .ok p)
    (topic : String) :
    p.matchesTopic topic = true ↔ MatchesSegments (segmentsOf p.raw) (segmentsOf (trimSlashes topic)) := by
  obtain ⟨-, -, rfl⟩ := (parse_eq_ok_iff pattern p).mp hp
  unfold matchesTopic MatchesSegments
  dsimp only
  by_cases hw : segmentsOf (trimSlashes pattern) = ["*"]
  · simp [hw]
  · rw [if_neg (mt (map_ofText_eq_wildcard_iff _).mp hw), matchSegments_iff]
    simp [hw]

/-- A parsed pattern is exact when none of its segments is `*`. -/
theorem isExact_iff {pattern : String} {p : TopicPattern} (hp : parse pattern = .ok p) :
    p.isExact = true ↔ "*" ∉ segmentsOf p.raw := by
  obtain ⟨-, -, rfl⟩ := (parse_eq_ok_iff pattern p).mp hp
  simp [isExact]

/-- Without `*` and without empty segments, the segments a pattern's segments take are the
pattern's own. -/
theorem forall₂_segmentTakes_iff {segs parts : List String} (hw : "*" ∉ segs) (he : "" ∉ segs) :
    List.Forall₂ SegmentTakes segs parts ↔ parts = segs := by
  induction segs generalizing parts with
  | nil => cases parts <;> simp
  | cons s rest ih =>
    cases parts with
    | nil => simp
    | cons part parts =>
      simp only [List.mem_cons, not_or] at hw he
      have htake : SegmentTakes s part ↔ part = s := by
        constructor
        · exact fun h => h.2 (Ne.symm hw.1)
        · rintro rfl
          exact ⟨Ne.symm he.1, fun _ => rfl⟩
      rw [List.forall₂_cons, htake, ih hw.2 he.2, List.cons.injEq]

/-- Without `*` and without empty segments, a pattern's segments match a topic's exactly when
the two lists are equal. -/
theorem matchesSegments_iff_eq_of_literal {segs parts : List String} (hw : "*" ∉ segs)
    (he : "" ∉ segs) : MatchesSegments segs parts ↔ parts = segs := by
  have hlast : segs.getLast? ≠ some "*" := fun h => hw (List.mem_of_getLast? h)
  have hone : segs ≠ ["*"] := fun h => hw (by simp [h])
  unfold MatchesSegments
  simp only [hone, hlast, false_or, or_false]
  constructor
  · rintro ⟨-, hf, hlen⟩
    rw [← hlen, List.take_length] at hf
    exact (forall₂_segmentTakes_iff hw he).mp hf
  · rintro rfl
    exact ⟨le_rfl, by rw [List.take_length]; exact (forall₂_segmentTakes_iff hw he).mpr rfl, rfl⟩

/-- A pattern without `*` matches a topic exactly when the topic, trimmed, is the pattern's
text. -/
theorem matchesTopic_iff_of_isExact {pattern : String} {p : TopicPattern}
    (hp : parse pattern = .ok p) (hx : p.isExact = true) (topic : String) :
    p.matchesTopic topic = true ↔ trimSlashes topic = p.raw := by
  have he := ((parse_eq_ok_iff pattern p).mp hp).2.1
  have hraw : p.raw = trimSlashes pattern := by rw [((parse_eq_ok_iff pattern p).mp hp).2.2]
  rw [matchesTopic_iff hp, matchesSegments_iff_eq_of_literal ((isExact_iff hp).mp hx) (hraw ▸ he)]
  exact ⟨segmentsOf_injective, fun h => h ▸ rfl⟩

theorem parse_of_trimSlashes_empty {pattern : String} (h : trimSlashes pattern = "") :
    parse pattern = .error .emptyPattern := by
  simp [parse, h]

theorem parse_of_empty_segment {pattern : String} (hne : trimSlashes pattern ≠ "")
    (he : "" ∈ segmentsOf (trimSlashes pattern)) :
    parse pattern = .error (.emptySegment (trimSlashes pattern)) := by
  have hany : (segmentsOf (trimSlashes pattern)).any (·.isEmpty) = true :=
    List.any_eq_true.mpr ⟨"", he, rfl⟩
  simp [parse, hne, hany]

end TopicPattern

/-- **Topic patterns accept exactly their grammar and match as it reads.**  The trimmed text
is the pattern between its runs of leading and trailing slashes.  Parsing succeeds exactly
when that text is non-empty and none of its `/`-separated segments is empty; otherwise it
fails with `emptyPattern` for an empty text and `emptySegment` naming the trimmed text for an
empty segment.  A parsed pattern keeps the trimmed text, matches a topic exactly as
`MatchesSegments` reads the two lists of segments, and, when no segment is `*`, matches
exactly the topics whose trimmed text is its own. -/
theorem topic_pattern_grammar (pattern : String) :
    (∃ a b, pattern.toList =
        List.replicate a '/' ++ (trimSlashes pattern).toList ++ List.replicate b '/' ∧
      (trimSlashes pattern).toList.head? ≠ some '/' ∧
      (trimSlashes pattern).toList.getLast? ≠ some '/') ∧
    ((∃ p, TopicPattern.parse pattern = .ok p) ↔
      trimSlashes pattern ≠ "" ∧ "" ∉ segmentsOf (trimSlashes pattern)) ∧
    (trimSlashes pattern = "" → TopicPattern.parse pattern = .error .emptyPattern) ∧
    (trimSlashes pattern ≠ "" → "" ∈ segmentsOf (trimSlashes pattern) →
      TopicPattern.parse pattern = .error (.emptySegment (trimSlashes pattern))) ∧
    ∀ p, TopicPattern.parse pattern = .ok p →
      p.raw = trimSlashes pattern ∧
      (∀ topic, p.matchesTopic topic = true ↔
        MatchesSegments (segmentsOf p.raw) (segmentsOf (trimSlashes topic))) ∧
      (p.isExact = true ↔ "*" ∉ segmentsOf p.raw) ∧
      (p.isExact = true → ∀ topic, p.matchesTopic topic = true ↔ trimSlashes topic = p.raw) := by
  refine ⟨trimSlashes_spec pattern, ⟨?_, ?_⟩, TopicPattern.parse_of_trimSlashes_empty,
    TopicPattern.parse_of_empty_segment, fun p hp => ⟨?_, TopicPattern.matchesTopic_iff hp,
      TopicPattern.isExact_iff hp, TopicPattern.matchesTopic_iff_of_isExact hp⟩⟩
  · rintro ⟨p, hp⟩
    obtain ⟨hne, he, -⟩ := (TopicPattern.parse_eq_ok_iff pattern p).mp hp
    exact ⟨hne, he⟩
  · rintro ⟨hne, he⟩
    exact ⟨_, (TopicPattern.parse_eq_ok_iff pattern _).mpr ⟨hne, he, rfl⟩⟩
  · rw [((TopicPattern.parse_eq_ok_iff pattern p).mp hp).2.2]

end Tether
