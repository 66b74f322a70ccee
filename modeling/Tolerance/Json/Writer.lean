import Tolerance.Json
import Tolerance.Text.Numeral
import Tolerance.Text.Quoted

namespace Tolerance

/-!
# Writing JSON

Everything outside printable ASCII is escaped, so that a written value is the
same bytes in every encoding.  A value is written on one line, or with two
blanks of indentation for each level of nesting.  Only a number with too many
digits has no written form.
-/

namespace Json

/-- A `\u` escape of a number below 0x10000. -/
def unicodeEscape (number : Nat) : Text :=
  0x5c :: 0x75 :: Text.hexadecimal 4 number

/-- A code point as it stands in a written string. -/
def writePoint (point : CodePoint) : Text :=
  if point = 0x22 then
    "\\\""
  else if point = 0x5c then
    "\\\\"
  else if point = 0x0a then
    "\\n"
  else if point = 0x0d then
    "\\r"
  else if point = 0x09 then
    "\\t"
  else if point = 0x08 then
    "\\b"
  else if point = 0x0c then
    "\\f"
  else if 0x20 ≤ point.val ∧ point.val < 0x7f then
    [point]
  else if point.val < 0x10000 then
    unicodeEscape point.val
  else
    unicodeEscape (0xd800 + (point.val - 0x10000) / 0x400) ++
      unicodeEscape (0xdc00 + (point.val - 0x10000) % 0x400)

/-- A string between its quotes. -/
def writeString (string : Text) : Text :=
  0x22 :: (string.flatMap writePoint ++ [0x22])

/-- Where the parts of an array or an object stand. -/
inductive Layout where
  | oneLine
  | indented
  deriving Repr, DecidableEq

namespace Layout

/-- What stands between two parts at the given depth. -/
def separator : Layout → Nat → Text
  | .oneLine, _ => ", "
  | .indented, depth => 0x2c :: 0x0a :: List.replicate (2 * depth) 0x20

/-- What stands between a bracket and the part beside it. -/
def edge : Layout → Nat → Text
  | .oneLine, _ => []
  | .indented, depth => 0x0a :: List.replicate (2 * depth) 0x20

/-- Parts between brackets; the parts stand one level deeper than the closing bracket. -/
def enclose
    (layout : Layout)
    (depth : Nat)
    (opening closing : CodePoint)
    (parts : List Text) :
    Text :=
  match parts with
  | [] => [opening, closing]
  | _ =>
      opening :: layout.edge (depth + 1) ++
        Text.join (layout.separator (depth + 1)) parts ++
        layout.edge depth ++ [closing]

end Layout

mutual

/-- Write a value that stands at the given depth. -/
def writeAt (layout : Layout) (depth : Nat) : Json → Except Numeral.Fault Text
  | .null => .ok "null"
  | .boolean value => .ok (if value then "true" else "false")
  | .integer value => Numeral.write value
  | .real written => .ok written
  | .string value => .ok (writeString value)
  | .array items => do
      let parts ← writeItems layout (depth + 1) items
      return layout.enclose depth 0x5b 0x5d parts
  | .object fields => do
      let parts ← writeFields layout (depth + 1) fields
      return layout.enclose depth 0x7b 0x7d parts

/-- Write the items of an array. -/
def writeItems
    (layout : Layout)
    (depth : Nat) :
    List Json → Except Numeral.Fault (List Text)
  | [] => .ok []
  | item :: items => do
      let part ← writeAt layout depth item
      let parts ← writeItems layout depth items
      return part :: parts

/-- Write the fields of an object. -/
def writeFields
    (layout : Layout)
    (depth : Nat) :
    List (Text × Json) → Except Numeral.Fault (List Text)
  | [] => .ok []
  | (name, value) :: fields => do
      let part ← writeAt layout depth value
      let parts ← writeFields layout depth fields
      return (writeString name ++ ": " ++ part) :: parts

end

/-- Write a value. -/
def write (layout : Layout) (value : Json) : Except Numeral.Fault Text :=
  writeAt layout 0 value

end Json

end Tolerance
