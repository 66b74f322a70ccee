import Tolerance.Text.Printable

namespace Tolerance

/-!
# Quoted texts

Messages show a file name or a setting between quotes, so that blanks and
control characters in it can be seen.  Single quotes are used unless the text
holds a single quote and no double quote.
-/

/-- Hexadecimal digits of a number, with leading zeros up to the given width. -/
def Text.hexadecimal (width number : Nat) : Text :=
  let digits := (Nat.toDigits 16 number).map CodePoint.ofChar
  List.replicate (width - digits.length) 0x30 ++ digits

namespace CodePoint

/-- The escape of a code point by its number, as short as its size allows. -/
def numericEscape (point : CodePoint) : Text :=
  if point.val ≤ 0xff then
    0x5c :: 0x78 :: Text.hexadecimal 2 point.val
  else if point.val ≤ 0xffff then
    0x5c :: 0x75 :: Text.hexadecimal 4 point.val
  else
    0x5c :: 0x55 :: Text.hexadecimal 8 point.val

/-- A code point as it stands between the given quotes. -/
def quotedWithin (quote point : CodePoint) : Text :=
  if point = quote ∨ point = 0x5c then
    [0x5c, point]
  else if point = 0x09 then
    "\\t"
  else if point = 0x0a then
    "\\n"
  else if point = 0x0d then
    "\\r"
  else if point.isPrintable then
    [point]
  else
    point.numericEscape

end CodePoint

namespace Text

/-- The quote that a text is put in. -/
def quoteMark (text : Text) : CodePoint :=
  if text.contains 0x27 && !text.contains 0x22 then 0x22 else 0x27

/-- A text between quotes, with everything escaped that could be misread. -/
def quoted (text : Text) : Text :=
  let quote := text.quoteMark
  quote :: (text.flatMap (CodePoint.quotedWithin quote) ++ [quote])

end Text

end Tolerance
