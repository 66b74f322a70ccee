import Tolerance.Json
import Tolerance.Text.Numeral
import Tolerance.Text.Quoted

namespace Tolerance

/-!
# Showing values in messages

A value shown to a person has its texts quoted as messages quote them, and the
words `None`, `True` and `False`.
-/

namespace Json

mutual

/-- Show a value. -/
def display : Json → Except Numeral.Fault Text
  | .null => .ok "None"
  | .boolean value => .ok (if value then "True" else "False")
  | .integer value => Numeral.write value
  | .real written => .ok written
  | .string value => .ok value.quoted
  | .array items => do
      let parts ← displayItems items
      return "[" ++ Text.join ", " parts ++ "]"
  | .object fields => do
      let parts ← displayFields fields
      return 0x7b :: (Text.join ", " parts ++ [0x7d])

/-- Show the items of an array. -/
def displayItems : List Json → Except Numeral.Fault (List Text)
  | [] => .ok []
  | item :: items => do
      let part ← display item
      let parts ← displayItems items
      return part :: parts

/-- Show the fields of an object. -/
def displayFields : List (Text × Json) → Except Numeral.Fault (List Text)
  | [] => .ok []
  | (name, value) :: fields => do
      let part ← display value
      let parts ← displayFields fields
      return (name.quoted ++ ": " ++ part) :: parts

end

end Json

end Tolerance
