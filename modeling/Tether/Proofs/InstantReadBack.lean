import Mathlib
import Tether.Time
/-!
# Proofs.InstantReadBack — the text of an instant reads back as that instant

`Instant.render` writes the civil date of an instant's day, its time of day and the
fewest fraction digits that are exact; `Instant.parse` reads such text and converts it back
to a day and a second.  For every instant a timestamp can hold (`Instant.Valid`: a second
of the day, a leap second only in the last second of a minute, a year in range) the two are
inverse: `parse_render`.

Two facts carry it.

* The civil calendar: the date `civilFromDays` gives for a day is a real date of its year
  and month, and `daysFromCivil` counts it back to the same day (`civil_round_trip`).  The
  year of an era is read off the day by a formula; that it lands on the right year is
  checked for each of the 400 years of an era (`eraYearCount_start`,
  `eraYearCount_before`) and carried to every day by monotony (`eraYear_bounds`).
* The text: every field is written as zero-padded digits followed by a separator that is
  no digit, and the reader takes exactly those digits back (`number_padChars`,
  `field_padChars`, `year_yearChars`, `fraction_fracChars`).
-/

namespace Tether

set_option autoImplicit false

/-! ## The civil calendar -/

/-- Days from the start of an era (a March 1st) to the start of its year `y`. -/
def eraYearStart (y : Int) : Int := 365 * y + y / 4 - y / 100

/-- The count from which the civil algorithm reads the year of a day of an era. -/
def eraYearCount (doe : Int) : Int := doe - doe / 1460 + doe / 36524 - doe / 146096

theorem eraYearCount_start : ∀ y : Nat, y < 400 → 365 * (y : Int) ≤ eraYearCount (eraYearStart y) := by
  decide +kernel

theorem eraYearCount_before : ∀ y : Nat, y < 400 → 0 < y →
    eraYearCount (eraYearStart y - 1) < 365 * (y : Int) := by
  decide +kernel

theorem eraYearCount_mono {a b : Int} (hab : a ≤ b) : eraYearCount a ≤ eraYearCount b := by
  unfold eraYearCount
  omega

/-- The year the civil algorithm finds for a day of an era starts on or before that day,
and the next year of the era starts after it. -/
theorem eraYear_bounds {doe : Int} (h0 : 0 ≤ doe) (h1 : doe < 146097) :
    0 ≤ eraYearCount doe / 365 ∧ eraYearCount doe / 365 < 400 ∧
      eraYearStart (eraYearCount doe / 365) ≤ doe ∧
      (eraYearCount doe / 365 < 399 → doe < eraYearStart (eraYearCount doe / 365 + 1)) := by
  have hy0 : 0 ≤ eraYearCount doe / 365 := by unfold eraYearCount; omega
  have hy1 : eraYearCount doe / 365 < 400 := by unfold eraYearCount; omega
  obtain ⟨k, hk⟩ : ∃ k : Nat, eraYearCount doe / 365 = k := ⟨(eraYearCount doe / 365).toNat, by omega⟩
  have hlo : 365 * (k : Int) ≤ eraYearCount doe := by omega
  have hhi : eraYearCount doe < 365 * ((k : Int) + 1) := by omega
  rw [hk]
  refine ⟨by omega, by omega, ?_, ?_⟩
  · -- a day before the start of year `k` would count fewer than `k` years
    by_contra hlt
    rcases Nat.eq_zero_or_pos k with rfl | hpos
    · simp [eraYearStart] at hlt; omega
    · have hb := eraYearCount_before k (by omega) hpos
      have hm := eraYearCount_mono (show doe ≤ eraYearStart k - 1 by omega)
      omega
  · -- a day from the start of year `k + 1` on would count `k + 1` years
    intro hlt
    by_contra hge
    have hs := eraYearCount_start (k + 1) (by omega)
    have hm := eraYearCount_mono (not_lt.mp hge)
    push_cast at hs
    omega

/-- The date of a day is a real date — a month of the year, a day of that month — and
counting its days from 1970-01-01 gives the day back. -/
theorem civil_round_trip (z : Int) :
    let c := civilFromDays z
    daysFromCivil c.1 c.2.1 c.2.2 = z ∧ 1 ≤ c.2.1 ∧ c.2.1 ≤ 12 ∧ 1 ≤ c.2.2 ∧
      c.2.2 ≤ daysInMonth c.1 c.2.1 := by
  simp only [civilFromDays]
  have hdoe0 : 0 ≤ z + 719468 - (z + 719468) / 146097 * 146097 := by omega
  have hdoe1 : z + 719468 - (z + 719468) / 146097 * 146097 < 146097 := by omega
  obtain ⟨hy0, hy1, hstart, hnext⟩ := eraYear_bounds hdoe0 hdoe1
  generalize (z + 719468) / 146097 = era at *
  generalize hdoe : z + 719468 - era * 146097 = doe at *
  unfold eraYearCount eraYearStart at *
  generalize (doe - doe / 1460 + doe / 36524 - doe / 146096) / 365 = yoe at *
  generalize hdoy : doe - (365 * yoe + yoe / 4 - yoe / 100) = doy
  generalize hmp : (5 * doy + 2) / 153 = mp
  generalize hd : doy - (153 * mp + 2) / 5 + 1 = d
  have hdoy0 : 0 ≤ doy := by omega
  have hdoy1 : doy ≤ 365 := by omega
  -- the 366th day of an era's year is the 29th of February of a leap year
  have hleap : doy = 365 → (yoe + 1) % 4 = 0 ∧ ((yoe + 1) % 100 ≠ 0 ∨ yoe = 399) := by
    intro h365
    by_cases h399 : yoe = 399
    · subst h399; decide
    · have hlen : doy < 365 + ((yoe + 1) / 4 - yoe / 4) - ((yoe + 1) / 100 - yoe / 100) := by
        have := hnext (by omega)
        omega
      have e4 : (yoe + 1) / 4 - yoe / 4 = if (yoe + 1) % 4 = 0 then 1 else 0 := by
        split <;> omega
      have e100 : (yoe + 1) / 100 - yoe / 100 = if (yoe + 1) % 100 = 0 then 1 else 0 := by
        split <;> omega
      rw [e4, e100] at hlen
      split at hlen <;> split at hlen <;> omega
  have hmp0 : 0 ≤ mp := by omega
  have hmp1 : mp ≤ 11 := by omega
  have hd0 : 1 ≤ d := by omega
  by_cases hm : mp < 10
  · -- March to December of the era's year
    simp only [hm, if_true, show ¬ (mp + 3 ≤ 2) by omega, if_false]
    refine ⟨?_, by omega, by omega, by omega, ?_⟩
    · have hera : (yoe + era * 400) / 400 = era := by omega
      simp only [daysFromCivil, show ¬ ((mp + 3).toNat ≤ 2) by omega, if_false,
        show (mp + 3).toNat > 2 by omega, if_true, Int.toNat_of_nonneg (show 0 ≤ mp + 3 by omega),
        Int.toNat_of_nonneg (show 0 ≤ d by omega), hera, add_sub_cancel_right]
      omega
    · -- each month's length is read off the 153-day pattern
      obtain ⟨k, rfl⟩ : ∃ k : Nat, mp = k := ⟨mp.toNat, by omega⟩
      have hk : k < 10 := by omega
      interval_cases k <;> simp [daysInMonth] <;> omega
  · -- January and February belong to the next civil year
    simp only [hm, if_false, show mp - 9 ≤ 2 by omega, if_true]
    refine ⟨?_, by omega, by omega, by omega, ?_⟩
    · have hera : (yoe + era * 400) / 400 = era := by omega
      simp only [daysFromCivil, show (mp - 9).toNat ≤ 2 by omega, if_true,
        show ¬ ((mp - 9).toNat > 2) by omega, if_false, Int.toNat_of_nonneg (show 0 ≤ mp - 9 by omega),
        Int.toNat_of_nonneg (show 0 ≤ d by omega), add_sub_cancel_right, hera, sub_add_cancel]
      omega
    · by_cases hjan : mp = 10
      · subst hjan
        simp [daysInMonth]
        omega
      · obtain rfl : mp = 11 := by omega
        simp only [daysInMonth, show (11 - 9 : Int).toNat = 2 by rfl, if_true, isLeapYear,
          decide_eq_true_eq]
        split_ifs with hl
        · omega
        · -- the 29th of February comes only in a leap year
          have h365 : doy ≠ 365 := fun h => hl (by have := hleap h; omega)
          omega

/-! ## Digits -/

open TimeText

/-- The characters `pad w n` writes: zeros up to the width, then the digits of `n`. -/
def padChars (w n : Nat) : List Char :=
  List.replicate (w - (Nat.toDigits 10 n).length) '0' ++ Nat.toDigits 10 n

theorem pad_toList (w n : Nat) : (Instant.pad w n).toList = padChars w n := by
  simp [Instant.pad, padChars, Nat.repr_eq_ofList_toDigits]

theorem isDigit_of_digit {c : Char} (h : c.isDigit = true) : TimeText.isDigit c = true := by
  simp only [Char.isDigit, Bool.and_eq_true, decide_eq_true_eq] at h
  simp only [TimeText.isDigit, decide_eq_true_eq]
  exact ⟨h.1, h.2⟩

theorem padChars_digits (w n : Nat) : ∀ c ∈ padChars w n, TimeText.isDigit c = true := by
  intro c hc
  simp only [padChars, List.mem_append, List.mem_replicate] at hc
  rcases hc with ⟨-, rfl⟩ | hc
  · rfl
  · exact isDigit_of_digit (Nat.isDigit_of_mem_toDigits (by omega) (by omega) hc)

theorem padChars_ne_nil (w n : Nat) : padChars w n ≠ [] := by
  simp [padChars, Nat.toDigits_ne_nil]

theorem padChars_length {w n : Nat} (hw : 0 < w) (hn : n < 10 ^ w) : (padChars w n).length = w := by
  have := (Nat.length_toDigits_le_iff (b := 10) (n := n) (by omega) hw).mpr hn
  simp [padChars]
  omega

theorem foldl_digits (ds : List Char) (a : Nat) :
    ds.foldl (fun acc c => acc * 10 + (c.toNat - 48)) a = Nat.ofDigitChars 10 ds a := by
  induction ds generalizing a with
  | nil => rfl
  | cons c rest ih => rw [List.foldl_cons, ih, Nat.ofDigitChars_cons, Nat.mul_comm]; rfl

theorem padChars_value (w n : Nat) : Nat.ofDigitChars 10 (padChars w n) 0 = n := by
  rw [padChars, Nat.ofDigitChars_append, Nat.ofDigitChars_replicate_zero, Nat.mul_zero,
    Nat.ofDigitChars_ten_toDigits]

/-- Text that does not go on with a digit. -/
def EndsDigits (rest : List Char) : Prop := ∀ c ∈ rest.head?, TimeText.isDigit c = false

theorem endsDigits_cons {c : Char} (hc : TimeText.isDigit c = false) (r : List Char) :
    EndsDigits (c :: r) := by
  intro x hx
  cases hx
  exact hc

theorem takeWhile_padChars {w n : Nat} {rest : List Char} (hr : EndsDigits rest) :
    (padChars w n ++ rest).takeWhile TimeText.isDigit = padChars w n := by
  rw [List.takeWhile_append_of_pos (padChars_digits w n)]
  cases rest with
  | nil => simp
  | cons c r => simp [hr c rfl]

/-- Padded digits are read back as their number, up to the separator after them, by a
reader that takes at least as many digits as they have. -/
theorem number_padChars {w n : Nat} (width : Option Nat) {rest : List Char}
    (hwidth : ∀ k ∈ width, (padChars w n).length ≤ k) (hbig : n < 2 ^ 63) (hr : EndsDigits rest) :
    TimeText.number width (padChars w n ++ rest) = .ok (n, rest) := by
  obtain ⟨c, cs, hcs⟩ := List.exists_cons_of_ne_nil (padChars_ne_nil w n)
  have hc : TimeText.isDigit c = true := padChars_digits w n c (by simp [hcs])
  unfold TimeText.number
  simp only [hcs, List.cons_append, hc, Bool.not_true, Bool.false_eq_true, if_false]
  rw [← List.cons_append, ← hcs, takeWhile_padChars hr]
  have hsmall : ¬ (n ≥ Nat.pow 2 63) := by simp only [Nat.pow_eq]; omega
  cases width with
  | none => simp [foldl_digits, padChars_value, hsmall]
  | some k => simp [List.take_of_length_le (hwidth k rfl), foldl_digits, padChars_value, hsmall]

/-- Padded digits of a number below `10 ^ w` are exactly `w` digits, which a reader of up
to `k ≥ w` digits takes whole. -/
theorem padChars_fits {w n k : Nat} (hw : 0 < w) (hn : n < 10 ^ w) (hk : w ≤ k) :
    ∀ k' ∈ some k, (padChars w n).length ≤ k' := by
  intro k' hk'
  cases hk'
  rw [padChars_length hw hn]
  exact hk

/-! ## Fields and separators -/

theorem dropBlank_cons {c : Char} (hc : Text.isBlank c = false) (r : List Char) :
    Text.dropBlank (c :: r) = c :: r := by
  simp [Text.dropBlank, hc]

theorem isBlank_of_isDigit {c : Char} (h : TimeText.isDigit c = true) : Text.isBlank c = false := by
  simp only [TimeText.isDigit, decide_eq_true_eq] at h
  have h1 : 48 ≤ c.toNat := h.1
  have h2 : c.toNat ≤ 57 := h.2
  simp only [Text.isBlank, Bool.or_eq_false_iff, Bool.and_eq_false_iff, decide_eq_false_iff_not,
    not_le]
  omega

theorem dropBlank_padChars (w n : Nat) (rest : List Char) :
    Text.dropBlank (padChars w n ++ rest) = padChars w n ++ rest := by
  obtain ⟨c, cs, hcs⟩ := List.exists_cons_of_ne_nil (padChars_ne_nil w n)
  rw [hcs, List.cons_append,
    dropBlank_cons (isBlank_of_isDigit (padChars_digits w n c (by simp [hcs])))]

theorem literal_cons {c : Char} (hc : Text.isBlank c = false) (r : List Char) :
    TimeText.literal c (c :: r) = .ok ((), r) := by
  simp [TimeText.literal, dropBlank_cons hc]

theorem field_padChars {w n : Nat} (lo hi : Nat) {rest : List Char} (hw : 0 < w) (hn : n < 10 ^ w)
    (hlo : lo ≤ n) (hhi : n ≤ hi) (hbig : hi < 2 ^ 63) (hr : EndsDigits rest) :
    TimeText.field w lo hi (padChars w n ++ rest) = .ok (n, rest) := by
  simp [TimeText.field, dropBlank_padChars, number_padChars (some w) (padChars_fits hw hn le_rfl) (by omega) hr,
    hlo, hhi, bind, Except.bind, pure, Except.pure]

theorem isBlank_ascii {c : Char} (h : c ∈ ['-', '+', 'T', ':', '.', 'Z']) : Text.isBlank c = false := by
  simp only [List.mem_cons, List.not_mem_nil, or_false] at h
  rcases h with rfl | rfl | rfl | rfl | rfl | rfl <;> decide

theorem isDigit_ascii {c : Char} (h : c ∈ ['-', '+', 'T', ':', '.', 'Z']) :
    TimeText.isDigit c = false := by
  simp only [List.mem_cons, List.not_mem_nil, or_false] at h
  rcases h with rfl | rfl | rfl | rfl | rfl | rfl <;> decide

/-- The characters of a year: four digits from 0 to 9999, else a sign and the digits. -/
def yearChars (y : Int) : List Char :=
  if 0 ≤ y ∧ y ≤ 9999 then padChars 4 y.toNat
  else (if y < 0 then '-' else '+') :: padChars 4 y.natAbs

theorem year_yearChars {y : Int} (hlo : minYear ≤ y) (hhi : y ≤ maxYear) (r : List Char) :
    TimeText.year (yearChars y ++ '-' :: r) = .ok (y, '-' :: r) := by
  have hr : EndsDigits ('-' :: r) := endsDigits_cons (isDigit_ascii (by simp)) r
  have hrange : y.natAbs ≤ 262143 := by unfold minYear maxYear at *; omega
  unfold TimeText.year yearChars
  split_ifs with h4 hneg
  · -- four digits: no sign in front
    obtain ⟨c, cs, hcs⟩ := List.exists_cons_of_ne_nil (padChars_ne_nil 4 y.toNat)
    have hc : TimeText.isDigit c = true := padChars_digits 4 y.toNat c (by simp [hcs])
    rw [dropBlank_padChars]
    split
    · rename_i h; rw [hcs] at h; cases h; exact absurd hc (by decide)
    · rename_i h; rw [hcs] at h; cases h; exact absurd hc (by decide)
    · rw [number_padChars (some 4) (padChars_fits (by omega) (by omega) le_rfl) (by omega) hr]
      simp only [bind, Except.bind, pure, Except.pure, Int.toNat_of_nonneg h4.1]
  · -- a negative year: a minus sign and the digits
    rw [List.cons_append, dropBlank_cons (isBlank_ascii (by simp))]
    simp only [number_padChars none (w := 4) (n := y.natAbs) (by simp) (by omega) hr, bind,
      Except.bind, pure, Except.pure]
    rw [if_neg (by simp only [Nat.pow_eq]; omega)]
    congr 2
    omega
  · -- a year past 9999: a plus sign and the digits
    rw [List.cons_append, dropBlank_cons (isBlank_ascii (by simp))]
    simp only [number_padChars none (w := 4) (n := y.natAbs) (by simp) (by omega) hr, bind,
      Except.bind, pure, Except.pure]
    rw [if_neg (by simp only [Nat.pow_eq]; omega)]
    congr 2
    omega

/-- The characters of the fraction of a second: none for a whole second, else a point and
three, six or nine digits, the fewest that are exact. -/
def fracChars (nano : Nat) : List Char :=
  if nano = 0 then []
  else if nano % 1000000 = 0 then '.' :: padChars 3 (nano / 1000000)
  else if nano % 1000 = 0 then '.' :: padChars 6 (nano / 1000)
  else '.' :: padChars 9 nano

theorem endsDigits_fracChars (nano : Nat) : EndsDigits (fracChars nano ++ ['Z']) := by
  unfold fracChars
  split_ifs <;> exact endsDigits_cons (isDigit_ascii (by simp)) _

theorem fraction_point {k x : Nat} (hk : 0 < k) (hk9 : k ≤ 9) (hx : x < 10 ^ k) :
    TimeText.fraction ('.' :: padChars k x ++ ['Z']) = .ok (x * 10 ^ (9 - k), ['Z']) := by
  have hz : EndsDigits ['Z'] := endsDigits_cons (isDigit_ascii (by simp)) []
  have hbig : x < 2 ^ 63 := by
    have : 10 ^ k ≤ 10 ^ 9 := Nat.pow_le_pow_right (by omega) hk9
    omega
  simp only [TimeText.fraction, List.cons_append,
    number_padChars (some 9) (padChars_fits hk hx hk9) hbig hz, bind, Except.bind, pure,
    Except.pure, List.length_append, padChars_length hk hx, List.length_singleton,
    Nat.add_sub_cancel, Nat.pow_eq]
  rfl

theorem fraction_fracChars {nano : Nat} (hn : nano < 1000000000) :
    TimeText.fraction (fracChars nano ++ ['Z']) = .ok (nano, ['Z']) := by
  unfold fracChars
  split_ifs with h0 h6 h3
  · subst h0; rfl
  · rw [fraction_point (by omega) (by omega) (by omega)]
    congr 2
    omega
  · rw [fraction_point (by omega) (by omega) (by omega)]
    congr 2
    omega
  · rw [fraction_point (by omega) (by omega) (by omega)]
    simp

/-! ## The whole text -/

/-- The second of the minute as written: 60 during a leap second. -/
def Instant.shownSecond (t : Instant) : Nat :=
  if t.nano ≥ 1000000000 then t.second % 60 + 1 else t.second % 60

/-- The nanoseconds as written: those of the second shown. -/
def Instant.shownNano (t : Instant) : Nat :=
  if t.nano ≥ 1000000000 then t.nano - 1000000000 else t.nano

theorem render_toList (t : Instant) :
    t.render.toList = yearChars (civilFromDays t.days).1 ++ '-' :: (padChars 2 (civilFromDays t.days).2.1 ++
      '-' :: (padChars 2 (civilFromDays t.days).2.2 ++ 'T' :: (padChars 2 (t.second / 3600) ++
      ':' :: (padChars 2 (t.second / 60 % 60) ++ ':' :: (padChars 2 t.shownSecond ++
      (fracChars t.shownNano ++ ['Z'])))))) := by
  rcases hc : civilFromDays t.days with ⟨y, m, d⟩
  have hsec : (if t.nano ≥ 1000000000 then (t.second % 60 + 1, t.nano - 1000000000)
      else (t.second % 60, t.nano)).1 = t.shownSecond := by
    unfold Instant.shownSecond; split <;> rfl
  have hnano : (if t.nano ≥ 1000000000 then (t.second % 60 + 1, t.nano - 1000000000)
      else (t.second % 60, t.nano)).2 = t.shownNano := by
    unfold Instant.shownNano; split <;> rfl
  have hyear : (if 0 ≤ y ∧ y ≤ 9999 then Instant.pad 4 y.toNat
      else (if y < 0 then "-" else "+") ++ Instant.pad 4 y.natAbs).toList = yearChars y := by
    unfold yearChars
    split_ifs <;> simp [pad_toList]
  have hfrac : ∀ n : Nat, (if n = 0 then "" else if n % 1000000 = 0 then "." ++ Instant.pad 3 (n / 1000000)
      else if n % 1000 = 0 then "." ++ Instant.pad 6 (n / 1000)
      else "." ++ Instant.pad 9 n).toList = fracChars n := by
    intro n
    unfold fracChars
    split_ifs <;> simp [pad_toList]
  unfold Instant.render
  simp only [hc, hsec, hnano]
  simp only [String.toList_append, hyear, hfrac, pad_toList, List.append_assoc]
  rfl

/-- An instant a timestamp can hold: a second of the day, a leap second only in the last
second of a minute, and a date whose year is in the range of dates. -/
structure Instant.Valid (t : Instant) : Prop where
  second_lt : t.second < 86400
  nano_lt : t.nano < 1000000000 ∨ (t.nano < 2000000000 ∧ t.second % 60 = 59)
  year_ge : minYear ≤ (civilFromDays t.days).1
  year_le : (civilFromDays t.days).1 ≤ maxYear

theorem Instant.shownSecond_le (t : Instant) : t.shownSecond ≤ 60 := by
  unfold Instant.shownSecond
  split <;> omega

theorem Instant.Valid.shownNano_lt {t : Instant} (hv : t.Valid) : t.shownNano < 1000000000 := by
  have := hv.nano_lt
  unfold Instant.shownNano
  split <;> omega

/-- The fields read from the text of an instant are those it was written from, in UTC. -/
theorem fields_render {t : Instant} (hv : t.Valid) :
    TimeText.fields t.render.toList =
      .ok ({ year := (civilFromDays t.days).1, month := (civilFromDays t.days).2.1,
             day := (civilFromDays t.days).2.2, hour := t.second / 3600,
             minute := t.second / 60 % 60, second := t.shownSecond, nano := t.shownNano }, 0) := by
  obtain ⟨-, hm1, hm12, hd1, hdays⟩ := civil_round_trip t.days
  have hd31 : (civilFromDays t.days).2.2 ≤ 31 := by
    have : daysInMonth (civilFromDays t.days).1 (civilFromDays t.days).2.1 ≤ 31 := by
      unfold daysInMonth; split_ifs <;> omega
    omega
  have hsec := hv.second_lt
  have hshown := t.shownSecond_le
  have ends : ∀ c ∈ ['-', '+', 'T', ':', '.', 'Z'], ∀ r, EndsDigits (c :: r) :=
    fun c hc r => endsDigits_cons (isDigit_ascii hc) r
  rw [render_toList]
  simp only [TimeText.fields, year_yearChars hv.year_ge hv.year_le,
    literal_cons (isBlank_ascii (c := '-') (by simp)),
    field_padChars (w := 2) 1 12 (by omega) (by omega) hm1 hm12 (by omega)
      (ends '-' (by simp) _),
    field_padChars (w := 2) 1 31 (by omega) (by omega) hd1 hd31 (by omega)
      (ends 'T' (by simp) _),
    field_padChars (w := 2) (n := t.second / 3600) 0 23 (by omega) (by omega)
      (Nat.zero_le _) (by omega) (by omega) (ends ':' (by simp) _),
    field_padChars (w := 2) (n := t.second / 60 % 60) 0 59 (by omega) (by omega)
      (Nat.zero_le _) (by omega) (by omega) (ends ':' (by simp) _),
    literal_cons (isBlank_ascii (c := ':') (by simp)),
    field_padChars (w := 2) (n := t.shownSecond) 0 60 (by omega) (by omega)
      (Nat.zero_le _) hshown (by omega) (endsDigits_fracChars _),
    fraction_fracChars hv.shownNano_lt, true_or, if_true,
    dropBlank_cons (isBlank_ascii (c := 'Z') (by simp)), bind, Except.bind, pure, Except.pure]
  rfl

/-- Reading a shown second of 60 back as second 59 with nanoseconds past `10^9` restores the
second of the minute and the nanoseconds of a valid instant. -/
theorem Instant.Valid.unfold_leap {t : Instant} (hv : t.Valid) :
    (if t.shownSecond = 60 then (59, t.shownNano + 1000000000) else (t.shownSecond, t.shownNano))
      = (t.second % 60, t.nano) := by
  have := hv.nano_lt
  unfold Instant.shownSecond Instant.shownNano
  by_cases hl : t.nano ≥ 1000000000
  · simp only [hl, if_true]
    rw [if_pos (by omega)]
    ext <;> simp <;> omega
  · simp only [hl, if_false]
    rw [if_neg (by omega)]

/-- A valid instant reads back from its text. -/
theorem parse_render {t : Instant} (hv : t.Valid) : Instant.parse t.render = .ok t := by
  obtain ⟨hdays, -, -, -, hdim⟩ := civil_round_trip t.days
  have hsec := hv.second_lt
  -- the clock fields add back up to the second of the day, so the day is found again
  have hutc : t.days * 86400 + (((t.second / 3600 : Nat) : Int) * 3600
      + ((t.second / 60 % 60 : Nat) : Int) * 60 + ((t.second % 60 : Nat) : Int)) - 0
      = t.days * 86400 + t.second := by omega
  have hday : (t.days * 86400 + (t.second : Int)) / 86400 = t.days := by omega
  have hsecond : ((t.days * 86400 + (t.second : Int)) % 86400).toNat = t.second := by omega
  have hrange : ¬((civilFromDays t.days).1 < minYear ∨ (civilFromDays t.days).1 > maxYear) := by
    have := hv.year_ge; have := hv.year_le; omega
  unfold Instant.parse
  simp only [fields_render hv, hv.unfold_leap, hdays, hutc, hday, hsecond, bind, Except.bind,
    pure, Except.pure]
  rw [if_neg (by omega), if_neg (by simp), if_neg hrange]

end Tether
