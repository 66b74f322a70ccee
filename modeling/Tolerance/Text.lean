namespace Tolerance

/-!
# Text as code points

Linter output, baseline files and settings can name every code point one by
one, half of a surrogate pair included, so a text is a list of code points and
not a list of Unicode scalar values.  Texts are ordered by their code points.
-/

/-- A Unicode code point, the surrogates included. -/
abbrev CodePoint := Fin 0x110000

namespace CodePoint

/-- There are code points, so that a numeral names one. -/
instance someExist : @NeZero Nat Zero.ofOfNat0 0x110000 :=
  ⟨by decide⟩

private theorem toNat_lt_of_char (character : Char) :
    character.toNat < 0x110000 := by
  rcases character.valid with low | high
  · exact Nat.lt_trans low (by decide)
  · exact high.2

/-- The code point of a character. -/
def ofChar (character : Char) : CodePoint :=
  ⟨character.toNat, toNat_lt_of_char character⟩

/-- The code point with the given number, or U+FFFD if there is none. -/
def ofNat (number : Nat) : CodePoint :=
  if bound : number < 0x110000 then ⟨number, bound⟩ else 0xfffd

/-- The first half of a surrogate pair. -/
def isHighSurrogate (point : CodePoint) : Bool :=
  decide (0xd800 ≤ point.val) && decide (point.val < 0xdc00)

/-- The second half of a surrogate pair. -/
def isLowSurrogate (point : CodePoint) : Bool :=
  decide (0xdc00 ≤ point.val) && decide (point.val < 0xe000)

/-- A code point that is no Unicode scalar value. -/
def isSurrogate (point : CodePoint) : Bool :=
  decide (0xd800 ≤ point.val) && decide (point.val < 0xe000)

/-- One of the digits `0` to `9`. -/
def isDigit (point : CodePoint) : Bool :=
  decide (0x30 ≤ point.val) && decide (point.val ≤ 0x39)

/-- The value of a hexadecimal digit, in either case. -/
def hexDigitValue? (point : CodePoint) : Option Nat :=
  let number := point.val
  if 0x30 ≤ number ∧ number ≤ 0x39 then
    some (number - 0x30)
  else if 0x61 ≤ number ∧ number ≤ 0x66 then
    some (number - 0x61 + 10)
  else if 0x41 ≤ number ∧ number ≤ 0x46 then
    some (number - 0x41 + 10)
  else
    none

/-- Lower the capital letters `A` to `Z` and keep all else. -/
def toLowerAscii (point : CodePoint) : CodePoint :=
  if 0x41 ≤ point.val ∧ point.val ≤ 0x5a then
    ofNat (point.val + 0x20)
  else
    point

/--
The capital of a small letter whose capital is one of `A` to `Z`: the letters
`a` to `z`, the dotless `ı` and the long `ſ`.  Every other code point is kept.
-/
def toUpperAscii (point : CodePoint) : CodePoint :=
  if 0x61 ≤ point.val ∧ point.val ≤ 0x7a then
    ofNat (point.val - 0x20)
  else if point.val = 0x131 then
    0x49
  else if point.val = 0x17f then
    0x53
  else
    point

end CodePoint

/-- A sequence of code points. -/
abbrev Text := List CodePoint

namespace Text

/-- The code points of a string. -/
def ofString (string : String) : Text :=
  string.toList.map CodePoint.ofChar

instance : Coe Char CodePoint :=
  ⟨CodePoint.ofChar⟩

instance : Coe String Text :=
  ⟨ofString⟩

@[simp] theorem ofString_empty : ofString "" = [] :=
  rfl

/-- The texts one after the other, with a separator between two neighbours. -/
def join (separator : Text) : List Text → Text
  | [] => []
  | [last] => last
  | first :: rest => first ++ separator ++ join separator rest

/-- The pieces between the occurrences of a code point; never an empty list. -/
def splitOn (separator : CodePoint) : Text → List Text
  | [] => [[]]
  | point :: rest =>
      if point = separator then
        [] :: splitOn separator rest
      else
        match splitOn separator rest with
        | [] => [[point]]
        | piece :: pieces => (point :: piece) :: pieces

/-- The same text with blanks in front until it has the given width. -/
def padLeft (width : Nat) (text : Text) : Text :=
  List.replicate (width - text.length) 0x20 ++ text

/-- The capital letters `A` to `Z` lowered. -/
def toLowerAscii (text : Text) : Text :=
  text.map CodePoint.toLowerAscii

/-- The letters with a capital among `A` to `Z` raised. -/
def toUpperAscii (text : Text) : Text :=
  text.map CodePoint.toUpperAscii

/-- The text without its beginning, if it begins with the given one. -/
def dropBeginning? : Text → Text → Option Text
  | text, [] => some text
  | [], _ :: _ => none
  | point :: text, expected :: beginning =>
      if point = expected then dropBeginning? text beginning else none

end Text

end Tolerance
