import Tolerance.Baseline.Change
import Tolerance.Baseline.Excess
import Tolerance.Json.Writer

namespace Tolerance

/-!
# Reports for other programs

A machine report is one JSON object on one line, with the fields of every
object in ascending order.
-/

namespace Report

/-- The version that reports carry. -/
def version : Text :=
  "0.1.0"

/-- A group in excess in a machine report. -/
def excessToJson (group : Excess) : Json :=
  .object [
    ("actual", .integer group.actual),
    ("diagnostics", .array (group.diagnostics.map Diagnostic.toJson)),
    ("excess", .integer group.amount),
    ("expected", .integer group.expected),
    ("filename", .string group.filename),
    ("rule", .string group.rule)]

/-- The machine report of a check. -/
def checkToJson (groups : List Excess) (baselinePath inputSource : Text) : Json :=
  .object [
    ("excess", .array (groups.map excessToJson)),
    ("meta", .object [
      ("baseline", .string baselinePath),
      ("input_source", .string inputSource),
      ("version", .string version)]),
    ("summary", .object [
      ("files", .integer (Excess.filenames groups).length),
      ("rules", .integer groups.length),
      ("total_excess", .integer (Excess.totalAmount groups))])]

/-- A change in a machine report. -/
def changeToJson (change : Change) : Json :=
  .object [
    ("after", Diagnostic.optionalInteger change.after),
    ("before", Diagnostic.optionalInteger change.before),
    ("filename", .string change.filename),
    ("rule", .string change.rule)]

/-- The machine report of an update. -/
def updateToJson (changes : List Change) (baselinePath : Text) (diagnostics : Nat) : Json :=
  .object [
    ("baseline", .string baselinePath),
    ("changes", .array (changes.map changeToJson)),
    ("total_diagnostics", .integer diagnostics)]

/-- The line of a machine report. -/
def machine (report : Json) : Except Numeral.Fault Text :=
  Json.write .oneLine report

end Report

end Tolerance
