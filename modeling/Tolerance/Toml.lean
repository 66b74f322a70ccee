import Tolerance.Text.Line
import Tolerance.Text.Quoted

namespace Tolerance

/-!
# TOML values

Settings files are TOML.  Dates and times and numbers with a fraction occur in
no setting, so only their kind is kept.
-/

/-- A TOML value. -/
inductive Toml where
  | string (value : Text)
  | integer (value : Int)
  | boolean (value : Bool)
  | real
  | moment
  | array (items : List Toml)
  | table (fields : List (Text × Toml))
  deriving Repr, Inhabited

namespace Toml

/-- The fields of a table, in the order in which they were first given a value. -/
abbrev Table := List (Text × Toml)

/-- The parts of a dotted key. -/
abbrev Key := List Text

/-- The value of a field, if there is one of that name. -/
def field? (name : Text) (table : Table) : Option Toml :=
  (table.find? fun field => field.1 = name).map Prod.snd

/-- Give a field a value: a name that is there keeps its place, and a new one goes last. -/
def setField (name : Text) (value : Toml) : Table → Table
  | [] => [(name, value)]
  | field :: rest =>
      if field.1 = name then
        (name, value) :: rest
      else
        field :: setField name value rest

/-- Whether a value is written between brackets or braces. -/
def isContainer : Toml → Bool
  | .array _ => true
  | .table _ => true
  | _ => false

/-- What can be wrong with a TOML document. -/
inductive Fault where
  | invalidStatement
  | expectedEndOfStatement
  | expectedEquals
  | invalidKeyPart
  | invalidValue
  | unterminatedString
  | expectedDelimiter (delimiter : Text)
  | illegalCharacter (point : CodePoint)
  | invalidCharacter (point : CodePoint)
  | unescapedBackslash
  | invalidHexValue
  | notAScalarValue
  | unclosedArray
  | unclosedInlineTable
  | duplicateInlineKey (name : Text)
  | expectedTableEnd
  | expectedArrayOfTablesEnd
  | declaredTwice (key : Key)
  | overwrittenValue
  | immutableNamespace (key : Key)
  | redefinedNamespace (key : Key)
  | invalidMoment
  deriving Repr, DecidableEq

/-- A dotted key in a message. -/
def displayKey (key : Key) : Text :=
  match key with
  | [part] => "(" ++ part.quoted ++ ",)"
  | _ => "(" ++ Text.join ", " (key.map Text.quoted) ++ ")"

namespace Fault

/-- The wording of a fault. -/
def message : Fault → Text
  | .invalidStatement => "Invalid statement"
  | .expectedEndOfStatement => "Expected newline or end of document after a statement"
  | .expectedEquals => "Expected '=' after a key in a key/value pair"
  | .invalidKeyPart => "Invalid initial character for a key part"
  | .invalidValue => "Invalid value"
  | .unterminatedString => "Unterminated string"
  | .expectedDelimiter delimiter => "Expected " ++ delimiter.quoted
  | .illegalCharacter point => "Illegal character " ++ Text.quoted [point]
  | .invalidCharacter point => "Found invalid character " ++ Text.quoted [point]
  | .unescapedBackslash => "Unescaped '\\' in a string"
  | .invalidHexValue => "Invalid hex value"
  | .notAScalarValue => "Escaped character is not a Unicode scalar value"
  | .unclosedArray => "Unclosed array"
  | .unclosedInlineTable => "Unclosed inline table"
  | .duplicateInlineKey name => "Duplicate inline table key " ++ name.quoted
  | .expectedTableEnd => "Expected ']' at the end of a table declaration"
  | .expectedArrayOfTablesEnd => "Expected ']]' at the end of an array declaration"
  | .declaredTwice key => "Cannot declare " ++ displayKey key ++ " twice"
  | .overwrittenValue => "Cannot overwrite a value"
  | .immutableNamespace key => "Cannot mutate immutable namespace " ++ displayKey key
  | .redefinedNamespace key => "Cannot redefine namespace " ++ displayKey key
  | .invalidMoment => "Invalid date or datetime"

end Fault

/--
Why a document was not read: a fault at a place, or at the end of the document
where there is no place, a numeral with too many digits, or values that are
nested too deep.
-/
inductive ReadError where
  | malformed (fault : Fault) (place : Option Place)
  | numeral (fault : Numeral.Fault)
  | tooDeep
  deriving Repr, DecidableEq

/-- The wording of the refusal to read values that are nested too deep. -/
def tooDeepMessage : Text :=
  "maximum recursion depth exceeded"

namespace ReadError

/-- The wording of a refusal, with the place of the fault. -/
def message : ReadError → Text
  | .malformed fault (some place) =>
      fault.message ++ " (at line " ++ Numeral.ofNat place.line ++
        ", column " ++ Numeral.ofNat place.column ++ ")"
  | .malformed fault none => fault.message ++ " (at end of document)"
  | .numeral fault => fault.message
  | .tooDeep => tooDeepMessage

end ReadError

/-- Why reading stopped; a fault carries the rest of the document from its place on. -/
inductive Stop where
  | fault (fault : Fault) (rest : Text)
  | numeral (fault : Numeral.Fault)
  | tooDeep

/-- A part of a document together with the text behind it. -/
abbrev Reading (α : Type) := Except Stop (α × Text)

end Toml

end Tolerance
