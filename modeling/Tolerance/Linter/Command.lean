import Tolerance.Workspace

namespace Tolerance

/-!
# Calling the linter

The linter is called through the package manager whose lock file is nearest,
at or above the directory; of several in one directory the first name in the
list counts.
-/

namespace Linter

/-- The names of lock files with the commands that call the linter. -/
def lockFileCommands : List (Text × List Text) := [
  ("pnpm-lock.yaml", ["pnpm", "exec", "oxlint"]),
  ("yarn.lock", ["yarn", "exec", "oxlint"]),
  ("package-lock.json", ["npx", "oxlint"])]

/-- The command without a lock file. -/
def plainCommand : List Text :=
  ["oxlint"]

/-- The arguments that ask for a report in JSON. -/
def jsonArguments : List Text :=
  ["-f", "json"]

/-- The first of several paths at which there is something. -/
def firstPath (workspace : Workspace) : List Path → Except SystemFault (Option Path)
  | [] => .ok none
  | path :: others =>
      match workspace.hasPath path with
      | .error fault => .error fault
      | .ok true => .ok (some path)
      | .ok false => firstPath workspace others

/-- Where lock files are looked for, the nearest directory first. -/
def lockFileCandidates (directory : Path) : List Path :=
  directory.lineage.flatMap fun ancestor =>
    lockFileCommands.map fun entry => ancestor.child entry.1

/-- The lock file that is nearest to a directory. -/
def lockFile (workspace : Workspace) (directory : Path) : Except AccessFault (Option Path) :=
  match directory.resolve workspace.here with
  | .error fault => .error (.path fault)
  | .ok directory =>
      (firstPath workspace (lockFileCandidates directory)).mapError .system

/-- The command that belongs to a lock file. -/
def commandFor (lockFile : Option Path) : List Text :=
  match lockFile with
  | some path =>
      ((lockFileCommands.find? fun entry => entry.1 = path.name).map Prod.snd).getD
        plainCommand
  | none => plainCommand

/-- The command that calls the linter from a directory. -/
def detectCommand (workspace : Workspace) (directory : Path) : Except AccessFault (List Text) :=
  (lockFile workspace directory).map commandFor

/--
The command to call the linter with: a given one that is not empty, or else the
detected one, with the lock file that decided it.
-/
def chooseCommand
    (workspace : Workspace)
    (directory : Path)
    (given : Option (List Text)) :
    Except AccessFault (List Text × Option Path) :=
  match given with
  | some (program :: rest) => .ok (program :: rest, none)
  | _ => (lockFile workspace directory).map fun found => (commandFor found, found)

/-- The whole command line of a call. -/
def commandLine (command arguments : List Text) : List Text :=
  command ++ jsonArguments ++ arguments

/-- How the system answers a call of the linter. -/
inductive Response where
  | notStarted (refusal : Refusal)
  | finished (stdout stderr : Text) (code : Int)
  deriving Repr, DecidableEq

/-- A command with the directory that it is called in. -/
structure Call where
  command : List Text
  directory : Path
  deriving Repr, DecidableEq

/-- A command that could not be started. -/
structure LaunchFault where
  program : Text
  fault : SystemFault
  deriving Repr, DecidableEq

namespace LaunchFault

/-- The wording of a failed start. -/
def message (launch : LaunchFault) : Text :=
  "Failed to run " ++ launch.program ++ ": " ++ launch.fault.message

end LaunchFault

/-- What the linter printed, and the code it ended with. -/
structure Captured where
  stdout : Text
  stderr : Text
  code : Int
  deriving Repr, DecidableEq

/-- What is captured of a call, given the system's answer to it. -/
def capture (call : Call) : Response → Except LaunchFault Captured
  | .finished stdout stderr code =>
      .ok { stdout := stdout, stderr := stderr, code := code }
  | .notStarted refusal =>
      let program := call.command.headD []
      .error {
        program := program
        fault := { refusal := refusal, subject := program }
      }

end Linter

end Tolerance
