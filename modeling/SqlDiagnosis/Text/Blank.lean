import SqlDiagnosis.Text.RangeSet

/-!
# Blanks

The blank characters are the spaces of all scripts, the line and paragraph ends
and the four information separators. Stripping removes them at both ends of a
text and nowhere else.
-/

namespace SqlDiagnosis.Text

/-- Spaces, tabs, line ends and information separators. -/
def blankChars : RangeSet := ⟨[
  0x9, 0xE, 0x1C, 0x21, 0x85, 0x86, 0xA0, 0xA1, 0x1680, 0x1681, 0x2000, 0x200B,
  0x2028, 0x202A, 0x202F, 0x2030, 0x205F, 0x2060, 0x3000, 0x3001]⟩

/-- Whether a character is a blank. -/
def isBlank (c : Char) : Bool := blankChars.contains c

/-- Whether a character is one of the four information separators. -/
def isSeparator (c : Char) : Bool := '\x1c' ≤ c && c ≤ '\x1f'

/-- A text without the characters of a class at its two ends. -/
def stripBy (isStripped : Char → Bool) (cs : List Char) : List Char :=
  ((cs.dropWhile isStripped).reverse.dropWhile isStripped).reverse

/-- A string without the blanks at its two ends. -/
def strip (s : String) : String := String.ofList (stripBy isBlank s.toList)

end SqlDiagnosis.Text
