import Tolerance.Number

namespace Tolerance

/-!
# JSON values

Linter output, baseline files and machine reports are JSON.  The fields of an
object keep the order in which their names were first written, and a whole
number is told apart from a number with a fraction or an exponent, whose
written form is kept.
-/

/-- A JSON value. -/
inductive Json where
  | null
  | boolean (value : Bool)
  | integer (value : Int)
  | real (written : Text)
  | string (value : Text)
  | array (items : List Json)
  | object (fields : List (Text × Json))
  deriving Repr, Inhabited

namespace Json

/-- The kind of a value, as messages name it. -/
def kindName : Json → Text
  | .null => "NoneType"
  | .boolean _ => "bool"
  | .integer _ => "int"
  | .real _ => "float"
  | .string _ => "str"
  | .array _ => "list"
  | .object _ => "dict"

/-- The value of a field, if there is one of that name. -/
def field? (name : Text) (fields : List (Text × Json)) : Option Json :=
  (fields.find? fun field => field.1 = name).map Prod.snd

/--
Give a field a value: a name that is there already keeps its place, and a new
one goes last.
-/
def setField
    (name : Text)
    (value : Json) :
    List (Text × Json) → List (Text × Json)
  | [] => [(name, value)]
  | field :: rest =>
      if field.1 = name then
        (name, value) :: rest
      else
        field :: setField name value rest

/-- A text value, if the value is one. -/
def text? : Json → Option Text
  | .string value => some value
  | _ => none

/-- A whole number, if the value is one; truth values are none. -/
def integer? : Json → Option Int
  | .integer value => some value
  | _ => none

/-- What a number stands for; a truth value counts as 0 or 1. -/
def number? : Json → Option Number
  | .integer value => some (.ofInt value)
  | .real written => some (.ofText written)
  | .boolean value => some (.ofInt (if value then 1 else 0))
  | _ => none

mutual

/--
Two values hold the same content: objects agree whatever the order of their
fields, and numbers agree if they stand for the same, however they are written.
-/
def sameContent : Json → Json → Bool
  | .null, .null => true
  | .string left, .string right => left == right
  | .array left, .array right => sameItems left right
  | .object left, .object right =>
      left.length == right.length && fieldsWithin left right
  | left, right =>
      match left.number?, right.number? with
      | some first, some second => decide (first = second)
      | _, _ => false

/-- Two arrays hold the same content item by item. -/
def sameItems : List Json → List Json → Bool
  | [], [] => true
  | left :: lefts, right :: rights =>
      sameContent left right && sameItems lefts rights
  | _, _ => false

/-- Every field of the first list has the same content in the second. -/
def fieldsWithin : List (Text × Json) → List (Text × Json) → Bool
  | [], _ => true
  | (name, value) :: rest, fields =>
      (match field? name fields with
        | some other => sameContent value other
        | none => false) &&
        fieldsWithin rest fields

end

end Json

end Tolerance
