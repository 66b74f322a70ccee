import Tolerance.Baseline
import Tolerance.Json.Reader
import Tolerance.Json.Writer

namespace Tolerance

/-!
# The stored form of a baseline

A baseline is stored as a JSON object of files, each an object of rules, each
an object with a `count`.  What is stored is canonical: ascending at both levels
and without files that have no rules, so that two files differ only where the
counts do.
-/

namespace Baseline

/-- What keeps a JSON value from being a stored baseline. -/
inductive DocumentFault where
  | notAnObject
  | rulesNotAnObject (filename : Text)
  | entryWithoutCount (filename rule : Text)
  | countNotAnInteger (filename rule : Text)
  | countNegative (filename rule : Text) (count : Int)
  deriving Repr, DecidableEq

namespace DocumentFault

/-- The wording of a fault. -/
def message : DocumentFault → Text
  | .notAnObject => "baseline must be a JSON object keyed by filename"
  | .rulesNotAnObject filename =>
      filename ++ ": expected an object keyed by rule name"
  | .entryWithoutCount filename rule =>
      filename ++ "." ++ rule ++ ": expected an object with a 'count' field"
  | .countNotAnInteger filename rule =>
      filename ++ "." ++ rule ++ ".count must be an integer"
  | .countNegative filename rule count =>
      filename ++ "." ++ rule ++ ".count must be non-negative, got " ++
        Numeral.ofInt count

end DocumentFault

/-- The stored form of one count. -/
def entryToJson (count : Int) : Json :=
  .object [("count", .integer count)]

/-- The stored form of a baseline. -/
def toJson (baseline : Baseline) : Json :=
  .object (baseline.sorted.pruneEmpty.files.entries.map fun file =>
    (file.1, .object (file.2.entries.map fun entry =>
      (entry.1, entryToJson entry.2))))

/-- Read one count. -/
def entryOfJson (filename rule : Text) : Json → Except DocumentFault Int
  | .object fields =>
      match Json.field? "count" fields with
      | none => .error (.entryWithoutCount filename rule)
      | some (.integer count) =>
          if count < 0 then
            .error (.countNegative filename rule count)
          else
            .ok count
      | some _ => .error (.countNotAnInteger filename rule)
  | _ => .error (.entryWithoutCount filename rule)

/-- Add the rules of one file to a baseline. -/
def addRules
    (filename : Text) :
    Baseline → List (Text × Json) → Except DocumentFault Baseline
  | baseline, [] => .ok baseline
  | baseline, (rule, value) :: rest => do
      let count ← entryOfJson filename rule value
      addRules filename (baseline.set filename rule count) rest

/-- Add files to a baseline; a file without rules is listed too. -/
def addFiles : Baseline → List (Text × Json) → Except DocumentFault Baseline
  | baseline, [] => .ok baseline
  | baseline, (filename, .object rules) :: rest => do
      let extended ←
        addRules filename (baseline.replaceFile filename OrderedMap.empty) rules
      addFiles extended rest
  | _, (filename, _) :: _ => .error (.rulesNotAnObject filename)

/-- The baseline that a JSON value is the stored form of. -/
def ofJson : Json → Except DocumentFault Baseline
  | .object files => addFiles Ledger.empty files
  | _ => .error .notAnObject

/-- The text of a baseline file. -/
def fileText (baseline : Baseline) : Except Numeral.Fault Text := do
  let text ← Json.write .indented baseline.toJson
  return text ++ "\n"

end Baseline

end Tolerance
