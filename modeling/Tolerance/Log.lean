import Tolerance.Settings.Environment
import Tolerance.Text.Numeral
import Tolerance.Text.Quoted
import Tolerance.Text.Styled

namespace Tolerance

/-!
# Logging

A log line names its level and, when the log is detailed, the part of the
program that wrote it.  Lines below the threshold are dropped; a threshold of 0
stands for no threshold of the log's own, so that warnings are the least.  What
other programs log is not the concern of this log: from warnings on it is shown
as it is.
-/

namespace Log

/-- How important a line is. -/
abbrev Level := Int

/-- The level of details. -/
def debug : Level :=
  10

/-- The level of news. -/
def info : Level :=
  20

/-- The level of warnings, which is the threshold if none is set. -/
def warning : Level :=
  30

/-- The level of errors. -/
def error : Level :=
  40

/-- The highest level that has a name. -/
def critical : Level :=
  50

/-- The names that a threshold can be set by. -/
def levelNames : List (Text × Level) := [
  ("CRITICAL", critical),
  ("FATAL", critical),
  ("ERROR", error),
  ("WARN", warning),
  ("WARNING", warning),
  ("INFO", info),
  ("DEBUG", debug),
  ("NOTSET", 0)]

/-- The level of a name, in capital or small letters. -/
def levelOfName? (name : Text) : Option Level :=
  (levelNames.find? fun entry => entry.1 = name.toUpperAscii).map Prod.snd

/-- The name of a level in a log line. -/
def levelName (level : Level) : Text :=
  if level = critical then
    "CRITICAL"
  else if level = error then
    "ERROR"
  else if level = warning then
    "WARNING"
  else if level = info then
    "INFO"
  else if level = debug then
    "DEBUG"
  else if level = 0 then
    "NOTSET"
  else
    "Level " ++ Numeral.ofInt level

/-- The variable that sets the threshold. -/
def levelVariable : Text :=
  "LINT_RATCHET_LOG_LEVEL"

/-- Why a threshold made of digits is not a number. -/
inductive LevelFault where
  | notDecimal (written : Text)
  | tooLong (digits : Nat)
  deriving Repr, DecidableEq

namespace LevelFault

/-- The longest part of a refused threshold that is shown. -/
def shownLength : Nat :=
  200

/-- The wording of a fault. -/
def message : LevelFault → Text
  | .notDecimal written =>
      "invalid literal for int() with base 10: " ++ written.quoted.take shownLength
  | .tooLong digits => (Numeral.Fault.unreadable digits).message

end LevelFault

/--
The threshold that the environment sets, as a number in digits of any script or
as a name; anything else sets none.
-/
def levelInEnvironment (environment : Environment) : Except LevelFault (Option Level) :=
  let written := (environment.value levelVariable).trimBlanks.toUpperAscii
  if !written.isEmpty && written.all CodePoint.isDigitOfAnyKind then
    match Numeral.read written with
    | .ok level => .ok (some level)
    | .error .malformed => .error (.notDecimal written)
    | .error (.tooLong digits) => .error (.tooLong digits)
  else
    .ok (levelOfName? written)

/-- The threshold of a run: a given one, or else that of the environment unless it is 0. -/
def threshold
    (given : Option Level)
    (environment : Environment) :
    Except LevelFault Level :=
  match given with
  | some level => .ok level
  | none => do
      match ← levelInEnvironment environment with
      | some level => if level = 0 then return warning else return level
      | none => return warning

/-- The colour of a log line, if its level has one. -/
def colourOf? (level : Level) : Option Colour :=
  if error ≤ level then
    some .red
  else if warning ≤ level then
    some .yellow
  else if info ≤ level then
    some .green
  else if debug ≤ level then
    some .brightBlack
  else
    none

/-- A message for the log. -/
structure Record where
  level : Level
  origin : Text
  message : Text
  deriving Repr, DecidableEq

/-- The least level that is written under a threshold. -/
def leastLevel (threshold : Level) : Level :=
  if threshold = 0 then warning else threshold

/-- Whether a record is written; a level of 0 or below never is. -/
def isWritten (threshold : Level) (record : Record) : Bool :=
  decide (0 < record.level ∧ leastLevel threshold ≤ record.level)

/-- Whether log lines name where they come from. -/
def isDetailed (threshold : Level) : Bool :=
  decide (threshold ≤ debug)

/-- The line of a record.  In place of a line number it has the letter N. -/
def line (threshold : Level) (record : Record) : Text :=
  let origin : Text :=
    if isDetailed threshold then "[" ++ record.origin ++ ":N] " else []
  let plain := "[" ++ levelName record.level ++ "] " ++ origin ++ record.message
  match colourOf? record.level with
  | some colour => (Style.coloured colour).apply plain ++ "\n"
  | none => plain ++ "\n"

/-- The name of the program, as its parts name where a record comes from. -/
def program : Text :=
  "lint_ratchet"

/-- Whether a part of the program wrote a record. -/
def isOwn (record : Record) : Bool :=
  record.origin == program || (program ++ ".").isPrefixOf record.origin

/-- What a record adds to the log. -/
def written (threshold : Level) (record : Record) : Text :=
  if isOwn record then
    if isWritten threshold record then line threshold record else []
  else
    if warning ≤ record.level then record.message ++ "\n" else []

end Log

end Tolerance
