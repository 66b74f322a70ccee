import Tolerance.Baseline.Excess
import Tolerance.Excerpt.Reader
import Tolerance.Report.Excerpt

namespace Tolerance

/-!
# The report for people

Groups in excess are listed under their files.  The first diagnostic of a group
is shown with its source, and the others too if the group is small; of a larger
group only two more are named.
-/

namespace Report

/-- The advice to accept everything that was seen. -/
def updateHint : Text :=
  "lint-ratchet --update [your-args]"

/-- The same advice by way of the environment. -/
def updateEnvironmentHint : Text :=
  "LINT_RATCHET_UPDATE_BASELINE=true lint-ratchet [your-args]"

/-- How many further diagnostics of a large group are named. -/
def namedDiagnostics : Nat :=
  2

/-- What a report says when nothing is in excess. -/
def success : Text :=
  (Style.boldColoured .green).apply "All errors are suppressed"

/-- Write with a reader of source files at hand. -/
abbrev Writing (α : Type) := StateT SourceReader (Except Fault) α

/-- The excerpt of a diagnostic, if its source can be read. -/
def readExcerpt (workspace : Workspace) (diagnostic : Diagnostic) : Writing (Option Excerpt) :=
  fun reader => (reader.excerpt? workspace diagnostic).mapError .sourcePath

/-- A diagnostic on one line, with its help on a second one. -/
def brief (diagnostic : Diagnostic) : Except Fault Text := do
  let place ← location diagnostic
  let line := "    - " ++ (Style.coloured .blue).apply place ++ ": " ++ diagnostic.message
  match diagnostic.help with
  | some help =>
      if help.isEmpty then
        return line
      else
        return line ++ "\n      " ++ (Style.coloured .cyan).apply help
  | none => return line

/-- A diagnostic with its source, or on one line if its source cannot be read. -/
def detailed
    (memory : Nat)
    (workspace : Workspace)
    (diagnostic : Diagnostic) :
    Writing Text := do
  match ← readExcerpt workspace diagnostic with
  | some found => excerpt found diagnostic memory
  | none => brief diagnostic

/-- Diagnostics one after the other, each with its source. -/
def detailedAll
    (memory : Nat)
    (workspace : Workspace) :
    List Diagnostic → Writing (List Text)
  | [] => pure []
  | diagnostic :: rest => do
      let shown ← detailed memory workspace diagnostic
      let others ← detailedAll memory workspace rest
      return shown :: others

/-- Diagnostics one after the other, each on one line. -/
def briefAll : List Diagnostic → Except Fault (List Text)
  | [] => .ok []
  | diagnostic :: rest => do
      let shown ← brief diagnostic
      let others ← briefAll rest
      return shown :: others

/-- How many diagnostics a group hides, if it hides any. -/
def hiddenLines (hidden : Nat) : List Text :=
  if hidden = 0 then
    []
  else
    ["    " ++ Style.faint.apply ("... and " ++ Numeral.ofNat hidden ++ " more")]

/-- The diagnostics of a group, with all sources if there are no more than `showCode`. -/
def groupDiagnostics
    (memory : Nat)
    (workspace : Workspace)
    (showCode : Int) :
    List Diagnostic → Writing (List Text)
  | [] => pure []
  | first :: rest => do
      if showCode ≤ 0 then
        return []
      else
        let shown ← detailed memory workspace first
        if (rest.length : Int) + 1 ≤ showCode then
          let others ← detailedAll memory workspace rest
          return [[], shown] ++ others
        else
          let others ← briefAll (rest.take namedDiagnostics)
          return [[], shown] ++ others ++ hiddenLines (rest.length - namedDiagnostics)

/-- The line that names a group and its counts. -/
def groupHeading (group : Excess) : Except Fault Text := do
  let amount ← number group.amount
  let expected ← number group.expected
  let actual ← number group.actual
  let noun : Text := if group.amount = 1 then "error" else "errors"
  return "  " ++ (Style.boldColoured .yellow).apply "!" ++ " " ++
    (Style.coloured .red).apply group.rule ++ ": " ++
    Style.emphasis.apply amount ++ " excess " ++ noun ++
    " (expected: " ++ Style.faint.apply expected ++
    ", actual: " ++ Style.emphasis.apply actual ++ ")"

/-- The lines of one group. -/
def groupLines
    (memory : Nat)
    (workspace : Workspace)
    (showCode : Int)
    (group : Excess) :
    Writing (List Text) := do
  let heading ← groupHeading group
  let diagnostics ← groupDiagnostics memory workspace showCode group.diagnostics
  return [heading] ++ diagnostics ++
    ["    " ++ (Style.coloured .cyan).apply "To suppress, re-run with:",
      "    " ++ Style.emphasis.apply updateEnvironmentHint,
      []]

/-- The lines of several groups. -/
def groupsLines
    (memory : Nat)
    (workspace : Workspace)
    (showCode : Int) :
    List Excess → Writing (List Text)
  | [] => pure []
  | group :: rest => do
      let lines ← groupLines memory workspace showCode group
      let others ← groupsLines memory workspace showCode rest
      return lines ++ others

/-- The heading of a file. -/
def fileHeading (filename : Text) : Text :=
  (Style.boldColoured .blue).apply filename ++ ":"

/-- The lines of several files, each with its groups. -/
def filesLines
    (memory : Nat)
    (workspace : Workspace)
    (showCode : Int)
    (groups : List Excess) :
    List Text → Writing (List Text)
  | [] => pure []
  | filename :: rest => do
      let lines ← groupsLines memory workspace showCode
        (groups.filter fun group => group.filename = filename)
      let others ← filesLines memory workspace showCode groups rest
      return fileHeading filename :: lines ++ others

/-- The lines that sum a report up. -/
def summaryLines (groups : List Excess) : Except Fault (List Text) := do
  let total ← number (Excess.totalAmount groups)
  return [
    [],
    Style.emphasis.apply "Summary:",
    "  - Files with issues: " ++ Numeral.ofNat (Excess.filenames groups).length,
    "  - Rules with excess errors: " ++ Numeral.ofNat groups.length,
    "  - Total excess errors: " ++ total,
    [],
    (Style.coloured .cyan).apply "To suppress all current errors, run:",
    "  " ++ Style.emphasis.apply updateHint]

/-- The report for people on groups in excess. -/
def human
    (workspace : Workspace)
    (showCode : Int)
    (groups : List Excess)
    (memory : Nat := usualMemory) :
    Writing Text := do
  let lines ← filesLines memory workspace showCode groups (Excess.filenames groups)
  let summary ← summaryLines groups
  return Text.join "\n"
    ([(Style.boldColoured .red).apply "Found unsuppressed errors:", []] ++
      lines ++ summary)

end Report

end Tolerance
