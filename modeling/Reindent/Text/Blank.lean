/-!
# Blank characters and trimming

A character is *blank* when it only separates: the tab, the line and page breaks, the four
information separators `U+001C`–`U+001F`, and every space character of Unicode (`U+0020`,
`U+0085`, `U+00A0`, `U+1680`, `U+2000`–`U+200A`, `U+2028`, `U+2029`, `U+202F`, `U+205F`,
`U+3000`). That is 29 characters. Zero-width characters (`U+200B`, `U+FEFF`) and `U+180E` print
nothing but are not blank, so trimming keeps them.

Trimming removes blank characters from the ends of a line: `trimLeft` from the front,
`trimRight` from the back, `trim` from both.
-/

namespace Reindent.Text

/-- The blank characters as closed ranges of code points, ascending and apart. -/
def blankRanges : List (Nat × Nat) :=
  [(0x09, 0x0D), (0x1C, 0x20), (0x85, 0x85), (0xA0, 0xA0), (0x1680, 0x1680),
   (0x2000, 0x200A), (0x2028, 0x2029), (0x202F, 0x202F), (0x205F, 0x205F), (0x3000, 0x3000)]

/-- Whether a character only separates and is removed by trimming. -/
def isBlank (c : Char) : Bool :=
  blankRanges.any fun r => r.1 ≤ c.toNat && c.toNat ≤ r.2

/-- Every character that core calls whitespace is blank. -/
theorem isBlank_of_isWhitespace (c : Char) (h : c.isWhitespace = true) : isBlank c = true := by
  simp only [Char.isWhitespace, Bool.or_eq_true, decide_eq_true_eq] at h
  rcases h with ((h | h) | h) | h <;> subst h <;> decide

/-- The line without its leading blank characters. -/
def trimLeft (cs : List Char) : List Char := cs.dropWhile isBlank

/-- The line without its trailing blank characters. -/
def trimRight (cs : List Char) : List Char := (cs.reverse.dropWhile isBlank).reverse

/-- The line without blank characters at either end. -/
def trim (cs : List Char) : List Char := trimRight (trimLeft cs)

end Reindent.Text
