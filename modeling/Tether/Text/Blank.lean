/-!
# Text.Blank — the characters of the Unicode `White_Space` property

Trimming "whitespace" from text means dropping the characters of the Unicode property
`White_Space`: the ASCII blanks and line breaks U+0009 to U+000D and U+0020, and U+0085,
U+00A0, U+1680, U+2000 to U+200A, U+2028, U+2029, U+202F, U+205F and U+3000.
-/

namespace Tether.Text

set_option autoImplicit false

/-- Whether a character has the Unicode `White_Space` property. -/
def isBlank (c : Char) : Bool :=
  let n := c.toNat
  (0x09 ≤ n && n ≤ 0x0D) || n = 0x20 || n = 0x85 || n = 0xA0 || n = 0x1680 ||
    (0x2000 ≤ n && n ≤ 0x200A) || n = 0x2028 || n = 0x2029 || n = 0x202F || n = 0x205F ||
    n = 0x3000

/-- Every character that core counts as whitespace is blank. -/
theorem isBlank_of_isWhitespace (c : Char) (h : c.isWhitespace = true) : isBlank c = true := by
  simp only [Char.isWhitespace, Bool.or_eq_true, decide_eq_true_eq] at h
  simp only [isBlank, Bool.or_eq_true, Bool.and_eq_true, decide_eq_true_eq]
  rcases h with ((h | h) | h) | h <;> simp [h]

/-- Drops the blanks at the start of a list of characters. -/
def dropBlank (cs : List Char) : List Char := cs.dropWhile isBlank

end Tether.Text
