import Tolerance.Linter.Command
import Tolerance.Linter.Output
import Tolerance.Log

namespace Tolerance

/-!
# What a run logs

Every part of a run that is worth a line in a detailed log is an event.
-/

namespace Log

/-- Something that a run did. -/
inductive Event where
  | diagnosticsRead (count : Nat) (shape : Linter.Shape)
  | baselineMissing (path : Path)
  | baselineLoaded (path : Path) (files : Nat) (total : Int)
  | baselineWritten (path : Path) (files : Nat)
  | excessFound (groups : Nat)
  | commandDetected (command : List Text) (lockFile : Path)
  | linterStarted (call : Linter.Call)
  | linterEnded (code : Int)
  | baselineUpdated (changes : Nat)
  deriving Repr, DecidableEq

namespace Event

/-- The part of the program that an event belongs to. -/
def origin : Event → Text
  | .diagnosticsRead _ _ => "lint_ratchet.adapter"
  | .baselineMissing _ => "lint_ratchet.baseline"
  | .baselineLoaded _ _ _ => "lint_ratchet.baseline"
  | .baselineWritten _ _ => "lint_ratchet.baseline"
  | .excessFound _ => "lint_ratchet.reconcile"
  | .commandDetected _ _ => "lint_ratchet.runner"
  | .linterStarted _ => "lint_ratchet.runner"
  | .linterEnded _ => "lint_ratchet.runner"
  | .baselineUpdated _ => "lint_ratchet.cli"

/-- The wording of an event, if all its numbers can be written. -/
def message : Event → Except Numeral.Fault Text
  | .diagnosticsRead count shape =>
      .ok ("parsed " ++ Numeral.ofNat count ++ " diagnostics from " ++ shape.name ++
        " output")
  | .baselineMissing path =>
      .ok ("baseline " ++ path.toText ++ " does not exist, starting empty")
  | .baselineLoaded path files total => do
      let total ← Numeral.write total
      return "loaded baseline " ++ path.toText ++ ": " ++ Numeral.ofNat files ++
        " files, " ++ total ++ " tolerated violations"
  | .baselineWritten path files =>
      .ok ("wrote baseline " ++ path.toText ++ ": " ++ Numeral.ofNat files ++ " files")
  | .excessFound groups => .ok ("found " ++ Numeral.ofNat groups ++ " excess groups")
  | .commandDetected command lockFile =>
      .ok ("using " ++ Text.join " " command ++ " from " ++ lockFile.toText)
  | .linterStarted call =>
      .ok ("running " ++ Text.join " " call.command ++ " in " ++ call.directory.toText)
  | .linterEnded code => do
      let code ← Numeral.write code
      return "linter exited with " ++ code
  | .baselineUpdated changes =>
      .ok ("baseline update changed " ++ Numeral.ofNat changes ++ " entries")

/-- What an event adds to the log; one that cannot be put into words adds nothing. -/
def written (threshold : Level) (event : Event) : Text :=
  match event.message with
  | .error _ => []
  | .ok message =>
      Log.written threshold {
        level := debug
        origin := event.origin
        message := message
      }

end Event

end Log

end Tolerance
