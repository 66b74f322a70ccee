import Tolerance.CommandLine.Invocation
import Tolerance.Log.Event
import Tolerance.Report.Excerpt

namespace Tolerance

/-!
# A session

A session is what a run has done so far: the workspace it left, what it
printed, and how it called the linter.  Standard output takes only text that
can be encoded; on standard error a surrogate is shown as its escape.
-/

namespace CommandLine

/-- A failure that a run does not put into words of its own. -/
inductive Crash where
  | logLevel (fault : Log.LevelFault)
  | undecodable (fault : Utf8.DecodeFault)
  | unprintable (fault : Utf8.EncodeFault)
  | numeral (fault : Numeral.Fault)
  | deepJson (container : Json.Container)
  | deepSettings
  | access (fault : AccessFault)
  | report (fault : Report.Fault)
  deriving Repr, DecidableEq

namespace Crash

/-- The wording of a failure. -/
def message : Crash → Text
  | .logLevel fault => fault.message
  | .undecodable fault => fault.message
  | .unprintable fault => fault.message
  | .numeral fault => fault.message
  | .deepJson container => container.tooDeepMessage
  | .deepSettings => Toml.tooDeepMessage
  | .access fault => fault.message
  | .report fault => fault.message

end Crash

/-- How a run ends. -/
inductive Ending where
  | exit (code : Nat)
  | usage (fault : UsageFault)
  | crash (fault : Crash)
  deriving Repr, DecidableEq

/-- The code of a run that found nothing to complain of. -/
def exitOk : Nat :=
  0

/-- The code of a run that found violations beyond the baseline. -/
def exitExcess : Nat :=
  1

/-- The code of a run that could not do its work. -/
def exitError : Nat :=
  2

/-- What a run has done so far. -/
structure Session where
  workspace : Workspace
  threshold : Log.Level := Log.warning
  stdout : Text := []
  stderr : Text := []
  calls : List Linter.Call := []
  deriving Repr, DecidableEq

/-- A part of a run, which goes on with a value or ends the run. -/
abbrev Act (α : Type) := EStateM Ending Session α

/-- End a run with a failure that it has no words of its own for. -/
def crash (fault : Crash) : Act α :=
  throw (.crash fault)

/-- End a run because of how it was asked for. -/
def refuseUsage (fault : UsageFault) : Act α :=
  throw (.usage fault)

/-- Print to standard output, without styles, if all of it can be encoded. -/
def print (text : Text) : Act Unit :=
  let plain := text.withoutStyles
  match Utf8.faultAt 0 plain with
  | some fault => crash (.unprintable fault)
  | none => modify fun session => { session with stdout := session.stdout ++ plain }

/-- Print a line to standard output. -/
def printLine (text : Text) : Act Unit :=
  print (text ++ "\n")

/-- Print a line to standard error, without styles. -/
def printErrorLine (text : Text) : Act Unit :=
  modify fun session =>
    { session with
      stderr := session.stderr ++ (text ++ "\n").withoutStyles.escapeSurrogates }

/-- Log an event. -/
def note (event : Log.Event) : Act Unit :=
  modify fun session =>
    { session with
      stderr :=
        session.stderr ++ (event.written session.threshold).escapeSurrogates }

/-- Say what is wrong and end the run. -/
def stopWith (message : Text) : Act α := do
  printErrorLine ("error: " ++ message)
  throw (.exit exitError)

/-- Go on with an answer, or crash for its fault. -/
def orCrash (fault : ε → Crash) (answer : Except ε α) : Act α :=
  match answer with
  | .ok value => pure value
  | .error cause => crash (fault cause)

end CommandLine

end Tolerance
