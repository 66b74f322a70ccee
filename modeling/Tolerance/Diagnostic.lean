import Tolerance.Json
import Tolerance.Text.Numeral

namespace Tolerance

/-!
# Diagnostics

A diagnostic is one violation of one rule in one file, whatever shape the
linter reported it in.
-/

/--
How grave a violation is.  Linter output yields errors and warnings only; a
diagnostic from elsewhere may carry a severity of another name.
-/
inductive Severity where
  | error
  | warning
  | named (name : Text)
  deriving Repr, DecidableEq

namespace Severity

/-- The name of a severity in reports. -/
def name : Severity → Text
  | .error => "error"
  | .warning => "warning"
  | .named name => name

/-- The severity with the given name. -/
def ofName (name : Text) : Severity :=
  if name = "error" then
    .error
  else if name = "warning" then
    .warning
  else
    .named name

/-- Everything counts as an error but the word `warning`, in any case and with blanks around it. -/
def ofJson : Json → Severity
  | .string written =>
      if written.trimBlanks.toLowerAscii = "warning" then .warning else .error
  | _ => .error

end Severity

/-- One violation that a linter reported. -/
structure Diagnostic where
  filename : Text
  rule : Text
  severity : Severity := .error
  message : Text := []
  line : Option Int := none
  column : Option Int := none
  help : Option Text := none
  url : Option Text := none
  deriving Repr, DecidableEq

namespace Diagnostic

/-- What a missing file name or rule is called. -/
def unknown : Text :=
  "unknown"

/--
The file, with line and column behind it if the line is known; a column that is
missing counts as 0.
-/
def location (diagnostic : Diagnostic) : Except Numeral.Fault Text :=
  match diagnostic.line with
  | none => .ok diagnostic.filename
  | some line => do
      let lineText ← Numeral.write line
      let columnText ← Numeral.write (diagnostic.column.getD 0)
      return diagnostic.filename ++ ":" ++ lineText ++ ":" ++ columnText

/-- An optional text in a report. -/
def optionalText : Option Text → Json
  | some text => .string text
  | none => .null

/-- An optional whole number in a report. -/
def optionalInteger : Option Int → Json
  | some number => .integer number
  | none => .null

/-- The diagnostic as it stands in a machine report, with its fields in ascending order. -/
def toJson (diagnostic : Diagnostic) : Json :=
  .object [
    ("column", optionalInteger diagnostic.column),
    ("filename", .string diagnostic.filename),
    ("help", optionalText diagnostic.help),
    ("line", optionalInteger diagnostic.line),
    ("message", .string diagnostic.message),
    ("rule", .string diagnostic.rule),
    ("severity", .string diagnostic.severity.name),
    ("url", optionalText diagnostic.url)]

end Diagnostic

end Tolerance
