import Tolerance.Baseline.Storage
import Tolerance.Toml

namespace Tolerance

/-!
# Settings

Settings say where the baseline is, how a check ends and reports, and how the
linter is called.  Each setting that a file leaves out has its default,
whatever the file says of the others.
-/

/-- The two forms of a report. -/
inductive ReportFormat where
  | human
  | json
  deriving Repr, DecidableEq

namespace ReportFormat

/-- The name of a form. -/
def name : ReportFormat → Text
  | .human => "human"
  | .json => "json"

/-- The form of a name, in capital or small letters. -/
def ofName? (name : Text) : Option ReportFormat :=
  let lowered := name.toLowerAscii
  if lowered = "human" then
    some .human
  else if lowered = "json" then
    some .json
  else
    none

/-- The wording of a refused name. -/
def refusal : Text :=
  "format must be one of: human, json"

end ReportFormat

/-- What a settings file decides; `source` is the path of the file. -/
structure Settings where
  baseline : Text := Baseline.defaultPath
  failOnExcess : Bool := true
  showCode : Int := 3
  format : ReportFormat := .human
  command : Option (List Text) := none
  arguments : List Text := []
  source : Option Path := none
  deriving Repr, DecidableEq

namespace Settings

/-- What is wrong with a setting. -/
inductive Fault where
  | linterNotATable
  | wrongKind (key noun : Text)
  | negativeShowCode
  | unknownFormat
  | notStrings (key : Text)
  | emptyCommand
  deriving Repr, DecidableEq

namespace Fault

/-- The wording of a fault. -/
def message : Fault → Text
  | .linterNotATable => "linter must be a table/object"
  | .wrongKind key noun => key ++ " must be " ++ noun
  | .negativeShowCode => "show_code must be >= 0"
  | .unknownFormat => ReportFormat.refusal
  | .notStrings key => key ++ " must be a list of strings"
  | .emptyCommand => "linter.command must not be empty"

end Fault

/-- A setting that holds a text. -/
def textSetting (table : Toml.Table) (key default : Text) : Except Fault Text :=
  match Toml.field? key table with
  | none => .ok default
  | some (.string value) => .ok value
  | some _ => .error (.wrongKind key "a string")

/-- A setting that holds a whole number. -/
def integerSetting (table : Toml.Table) (key : Text) (default : Int) : Except Fault Int :=
  match Toml.field? key table with
  | none => .ok default
  | some (.integer value) => .ok value
  | some _ => .error (.wrongKind key "an integer")

/-- A setting that holds a truth value. -/
def booleanSetting (table : Toml.Table) (key : Text) (default : Bool) : Except Fault Bool :=
  match Toml.field? key table with
  | none => .ok default
  | some (.boolean value) => .ok value
  | some _ => .error (.wrongKind key "a boolean")

/-- The texts of an array that holds nothing else. -/
def texts? : List Toml → Option (List Text)
  | [] => some []
  | .string value :: rest => (texts? rest).map (value :: ·)
  | _ :: _ => none

/-- The texts of a value that is an array of texts. -/
def textList (key : Text) (value : Toml) : Except Fault (List Text) :=
  match value with
  | .array items =>
      match texts? items with
      | some texts => .ok texts
      | none => .error (.notStrings key)
  | _ => .error (.notStrings key)

/-- The table of settings for the linter. -/
def linterTable (table : Toml.Table) : Except Fault Toml.Table :=
  match Toml.field? "linter" table with
  | none => .ok []
  | some (.table linter) => .ok linter
  | some _ => .error .linterNotATable

/-- How many diagnostics of a group are shown with their source. -/
def showCodeSetting (table : Toml.Table) : Except Fault Int := do
  let showCode ← integerSetting table "show_code" 3
  if showCode < 0 then throw .negativeShowCode else return showCode

/-- The form of the report. -/
def formatSetting (table : Toml.Table) : Except Fault ReportFormat := do
  let name ← textSetting table "format" "human"
  match ReportFormat.ofName? name with
  | some format => return format
  | none => throw .unknownFormat

/-- The command that runs the linter. -/
def commandSetting (linter : Toml.Table) : Except Fault (Option (List Text)) :=
  match Toml.field? "command" linter with
  | none => .ok none
  | some value => do
      let command ← textList "linter.command" value
      if command.isEmpty then throw .emptyCommand else return some command

/-- The arguments that the linter always gets. -/
def argumentsSetting (linter : Toml.Table) : Except Fault (List Text) :=
  match Toml.field? "args" linter with
  | none => .ok []
  | some value => textList "linter.args" value

/-- Read the settings in a table of the file at a path. -/
def ofTable (source : Path) (table : Toml.Table) : Except Fault Settings := do
  let linter ← linterTable table
  let showCode ← showCodeSetting table
  let format ← formatSetting table
  let command ← commandSetting linter
  let baseline ← textSetting table "baseline" Baseline.defaultPath
  let failOnExcess ← booleanSetting table "fail_on_excess" true
  let arguments ← argumentsSetting linter
  return {
    baseline := baseline
    failOnExcess := failOnExcess
    showCode := showCode
    format := format
    command := command
    arguments := arguments
    source := some source
  }

/-- A settings file to start from. -/
def template : Text :=
  Text.join "\n" [
    "baseline = \"" ++ Baseline.defaultPath ++ "\"",
    "fail_on_excess = true",
    "show_code = 3",
    "format = \"human\"",
    "",
    "[linter]",
    "# command = [\"pnpm\", \"exec\", \"oxlint\"]",
    "args = [\"--type-aware\"]",
    ""]

end Settings

end Tolerance
