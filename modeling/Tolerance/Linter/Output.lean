import Tolerance.Diagnostic
import Tolerance.Json.Reader
import Tolerance.Text.Quoted

namespace Tolerance

/-!
# Reading linter output

A linter reports its findings in one of two shapes.  The current shape is an
object with one array of records under `diagnostics`.  The former shape is an
object with one array of records per file.  A field of the wrong kind is taken
as missing, but a record that is no object rejects the whole output, so that no
violation is lost in silence.
-/

namespace Linter

/-- The two shapes of linter output. -/
inductive Shape where
  | current
  | former
  deriving Repr, DecidableEq

namespace Shape

/-- The name of a shape in log lines. -/
def name : Shape → Text
  | .current => "modern"
  | .former => "legacy"

end Shape

/-- What is wrong with an output that is rejected. -/
inductive OutputFault where
  | invalidJson (error : Json.ReadError)
  | notAnObject (kind : Text)
  | diagnosticsNotAnArray (kind : Text)
  | recordsNotAnArray (filename : Text) (kind : Text)
  | recordNotAnObject (kind : Text)
  deriving Repr, DecidableEq

namespace OutputFault

/-- The wording of a fault. -/
def message : OutputFault → Text
  | .invalidJson error => "Invalid JSON output: " ++ error.message
  | .notAnObject kind => "Expected a JSON object, got " ++ kind
  | .diagnosticsNotAnArray kind => "Expected diagnostics array, got " ++ kind
  | .recordsNotAnArray filename kind =>
      "Expected diagnostics array for " ++ filename.quoted ++ ", got " ++ kind
  | .recordNotAnObject kind => "Expected diagnostic object, got " ++ kind

end OutputFault

/--
Why no diagnostics were read: the output is rejected, or it holds a numeral
with more digits or a container at a greater depth than are read.
-/
inductive OutputError where
  | rejected (fault : OutputFault) (stdout stderr : Text)
  | numeral (fault : Numeral.Fault)
  | tooDeep (container : Json.Container)
  deriving Repr, DecidableEq

namespace OutputError

/-- The wording of a failure, which repeats what the linter printed. -/
def message : OutputError → Text
  | .rejected fault stdout stderr =>
      "Failed to parse linter output: " ++ fault.message ++
        "\nStdout: " ++ stdout ++ "\nStderr: " ++ stderr
  | .numeral fault => fault.message
  | .tooDeep container => container.tooDeepMessage

end OutputError

/-- The records of an output, each with its file if the shape gives one. -/
inductive Findings where
  | current (records : List Json)
  | former (files : List (Text × Json))

namespace Findings

/-- The shape that the findings were reported in. -/
def shape : Findings → Shape
  | .current _ => .current
  | .former _ => .former

end Findings

/-- Tell the shape of a decoded output. -/
def recognize : Json → Except OutputFault Findings
  | .object fields =>
      match Json.field? "diagnostics" fields with
      | some (.array records) => .ok (.current records)
      | some other => .error (.diagnosticsNotAnArray other.kindName)
      | none => .ok (.former fields)
  | other => .error (.notAnObject other.kindName)

/-- The text of a field, if it holds one. -/
def textField? (name : Text) (record : List (Text × Json)) : Option Text :=
  (Json.field? name record).bind Json.text?

/-- The text of a field, if it holds one that is not empty. -/
def filledField? (name : Text) (record : List (Text × Json)) : Option Text :=
  (textField? name record).filter fun text => !text.isEmpty

/-- The whole number of a field, if it holds one. -/
def integerField? (name : Text) (record : List (Text × Json)) : Option Int :=
  (Json.field? name record).bind Json.integer?

/-- The first source span of a record. -/
def firstSpan? (record : List (Text × Json)) : Option (List (Text × Json)) :=
  match Json.field? "labels" record with
  | some (.array (.object label :: _)) =>
      match Json.field? "span" label with
      | some (.object span) => some span
      | _ => none
  | _ => none

/-- Line and column of a record in the current shape. -/
def currentPosition (record : List (Text × Json)) : Option Int × Option Int :=
  match firstSpan? record with
  | some span => (integerField? "line" span, integerField? "column" span)
  | none => (none, none)

/--
Line and column of a record in the former shape, whose spans may hold offsets
only: the start stands in for the line and the length for the column.
-/
def formerPosition (record : List (Text × Json)) : Option Int × Option Int :=
  match firstSpan? record with
  | some span =>
      let start := integerField? "start" span
      let line := integerField? "line" span
      let column :=
        match integerField? "column" span with
        | some column => some column
        | none =>
            match start, integerField? "end" span with
            | some first, some last => some (last - first)
            | _, _ => none
      (line.or start, column)
  | none => (none, none)

/-- The diagnostic of a record, once its file, rule and position are known. -/
def diagnosticOf
    (filename rule : Text)
    (position : Option Int × Option Int)
    (record : List (Text × Json)) :
    Diagnostic where
  filename := filename
  rule := rule
  severity := Severity.ofJson ((Json.field? "severity" record).getD .null)
  message := (textField? "message" record).getD []
  line := position.1
  column := position.2
  help := textField? "help" record
  url := textField? "url" record

/-- The diagnostic of a record in the current shape. -/
def currentDiagnostic (record : List (Text × Json)) : Diagnostic :=
  diagnosticOf
    ((filledField? "filename" record).getD Diagnostic.unknown)
    ((filledField? "code" record).getD Diagnostic.unknown)
    (currentPosition record)
    record

/-- The diagnostic of a record in the former shape, found under its file. -/
def formerDiagnostic (filename : Text) (record : List (Text × Json)) : Diagnostic :=
  diagnosticOf
    filename
    (((filledField? "rule_id" record).or (filledField? "code" record)).getD
      Diagnostic.unknown)
    (formerPosition record)
    record

/-- Turn every record into a diagnostic, or reject the output for the first that is no object. -/
def readRecords
    (diagnosticOfRecord : List (Text × Json) → Diagnostic) :
    List Json → Except OutputFault (List Diagnostic)
  | [] => .ok []
  | .object record :: records => do
      let diagnostics ← readRecords diagnosticOfRecord records
      return diagnosticOfRecord record :: diagnostics
  | other :: _ => .error (.recordNotAnObject other.kindName)

/-- The diagnostics of all files of the former shape, in order. -/
def readFiles : List (Text × Json) → Except OutputFault (List Diagnostic)
  | [] => .ok []
  | (filename, .array records) :: files => do
      let diagnostics ← readRecords (formerDiagnostic filename) records
      let others ← readFiles files
      return diagnostics ++ others
  | (filename, other) :: _ =>
      .error (.recordsNotAnArray filename other.kindName)

namespace Findings

/-- The diagnostics of findings, in order. -/
def diagnostics : Findings → Except OutputFault (List Diagnostic)
  | .current records => readRecords currentDiagnostic records
  | .former files => readFiles files

end Findings

/-- The shape and the diagnostics of a decoded output. -/
def readDecoded (value : Json) : Except OutputFault (Shape × List Diagnostic) := do
  let findings ← recognize value
  let diagnostics ← findings.diagnostics
  return (findings.shape, diagnostics)

/-- What an output holds; a blank one has no shape and no diagnostics. -/
structure Output where
  shape : Option Shape
  diagnostics : List Diagnostic
  deriving Repr, DecidableEq

/-- Read what a linter printed on its standard output, with room for nested containers. -/
def readOutput
    (stdout stderr : Text)
    (room : Nat := Json.usualRoom) :
    Except OutputError Output :=
  if stdout.isBlank then
    .ok { shape := none, diagnostics := [] }
  else
    match Json.parse stdout room with
    | .error (.numeral fault) => .error (.numeral fault)
    | .error (.tooDeep container) => .error (.tooDeep container)
    | .error error => .error (.rejected (.invalidJson error) stdout stderr)
    | .ok value =>
        match readDecoded value with
        | .ok (shape, diagnostics) =>
            .ok { shape := some shape, diagnostics := diagnostics }
        | .error fault => .error (.rejected fault stdout stderr)

end Linter

end Tolerance
