import Tolerance.Text

namespace Tolerance

/-!
# Blank code points

Settings, levels and severities are compared after the blanks around them are
dropped.  A blank is a code point with the Unicode property White_Space, or one
of the four separators U+001C to U+001F.  Around a number the separators are no
blanks.
-/

namespace CodePoint

/-- A code point with the Unicode property White_Space. -/
def isWhiteSpace (point : CodePoint) : Bool :=
  let number := point.val
  decide (0x09 ≤ number ∧ number ≤ 0x0d) ||
    number == 0x20 ||
    number == 0x85 ||
    number == 0xa0 ||
    number == 0x1680 ||
    decide (0x2000 ≤ number ∧ number ≤ 0x200a) ||
    number == 0x2028 ||
    number == 0x2029 ||
    number == 0x202f ||
    number == 0x205f ||
    number == 0x3000

/-- One of the four control characters that separate parts of data. -/
def isSeparator (point : CodePoint) : Bool :=
  decide (0x1c ≤ point.val ∧ point.val ≤ 0x1f)

/-- A code point that is dropped at the ends of a text. -/
def isBlank (point : CodePoint) : Bool :=
  point.isWhiteSpace || point.isSeparator

end CodePoint

namespace Text

/-- The text without the code points of a class at both ends. -/
def trim (inClass : CodePoint → Bool) (text : Text) : Text :=
  ((text.dropWhile inClass).reverse.dropWhile inClass).reverse

/-- The text without the blanks at both ends. -/
def trimBlanks (text : Text) : Text :=
  text.trim CodePoint.isBlank

/-- A text of blanks only, or of nothing. -/
def isBlank (text : Text) : Bool :=
  text.all CodePoint.isBlank

end Text

end Tolerance
