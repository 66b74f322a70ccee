import Tolerance.Baseline.Excess
import Tolerance.Baseline.Revision
import Tolerance.CommandLine.Session
import Tolerance.Report.Changes
import Tolerance.Report.Human
import Tolerance.Report.Machine

namespace Tolerance

/-!
# Runs

A run reads diagnostics, from a file, from standard input or from the linter,
and compares them with the baseline.  It checks, updates the baseline, or
tightens it and then reports as a check does.
-/

namespace CommandLine

/-- What the machine has left for a run: of its stack, and of its memory. -/
structure Machine where
  /-- How many containers fit into the outermost one of what the linter printed. -/
  room : Nat := 988
  /-- A length for which there is no memory. -/
  memory : Nat := Report.usualMemory
  deriving Repr, DecidableEq

namespace Machine

/-- Room for what the linter printed, which is read furthest down the stack. -/
def linterRoom (machine : Machine) : Nat :=
  machine.room + 1

/-- Room for what is on standard input or in a file, which is read one call higher up. -/
def inputRoom (machine : Machine) : Nat :=
  machine.room + 2

/-- Room for a baseline that is loaded to be updated. -/
def updateRoom (machine : Machine) : Baseline.Room where
  levels := machine.room + 3
  enough := Nat.le_add_left 3 machine.room

/-- Room for a baseline that is loaded for a check. -/
def checkRoom (machine : Machine) : Baseline.Room where
  levels := machine.room + 4
  enough := Nat.le_add_left 3 (machine.room + 1)

end Machine

/-- Everything from outside that a run depends on, but for the workspace. -/
structure Request where
  arguments : List Text := []
  environment : Environment := OrderedMap.empty
  stdin : Bytes := []
  /-- How the system answers if the linter is called. -/
  linter : Linter.Response := .notStarted .noEntry
  machine : Machine := {}
  deriving DecidableEq

/-- What a check does, once options, environment and settings are weighed. -/
structure Plan where
  store : Path
  update : Bool
  tighten : Bool
  failOnExcess : Bool
  showCode : Int
  format : ReportFormat
  machine : Machine := {}
  deriving Repr, DecidableEq

/-- End the run for a failure to load or save the baseline. -/
def stopForStorage (error : Baseline.StorageError) : Act α :=
  match error with
  | .unreadable .. => stopWith error.message
  | .corrupt .. => stopWith error.message
  | .unwritable .. => stopWith error.message
  | .undecodable fault => crash (.undecodable fault)
  | .tooDeep container => crash (.deepJson container)
  | .inaccessible fault => crash (.access fault)
  | .numeral fault => crash (.numeral fault)

/-- Read the diagnostics in linter output, with room for nested containers. -/
def readDiagnostics (stdout stderr : Text) (room : Nat) : Act (List Diagnostic) :=
  match Linter.readOutput stdout stderr room with
  | .error (.numeral fault) => crash (.numeral fault)
  | .error (.tooDeep container) => crash (.deepJson container)
  | .error error => stopWith error.message
  | .ok output => do
      match output.shape with
      | some shape => note (.diagnosticsRead output.diagnostics.length shape)
      | none => pure ()
      return output.diagnostics

/-- The text of bytes from outside, with its line endings made equal. -/
def decodeInput (bytes : Bytes) : Act Text := do
  let text ← orCrash .undecodable (Utf8.decode bytes)
  return text.unifyLineEndings

/-- Read the diagnostics in a file. -/
def diagnosticsInFile (path : Path) (room : Nat) : Act (List Diagnostic) := do
  match (← get).workspace.readFile path with
  | .error (.system fault) => refuseUsage (.inputFile fault)
  | .error fault => crash (.access fault)
  | .ok bytes => readDiagnostics (← decodeInput bytes) [] room

/-- The directory that the linter runs in. -/
def linterDirectory : Path :=
  "."

/-- The command that calls the linter: the one in the settings, or the one detected. -/
def linterCommand (command : Option (List Text)) : Act (List Text) := do
  let workspace := (← get).workspace
  let (chosen, lockFile) ← orCrash .access
    (Linter.chooseCommand workspace linterDirectory command)
  match lockFile with
  | some path => note (.commandDetected chosen path)
  | none => pure ()
  return chosen

/-- Call the linter, to which the system answers as given. -/
def callLinter
    (response : Linter.Response)
    (command : Option (List Text))
    (arguments : List Text) :
    Act Linter.Captured := do
  let front ← linterCommand command
  let call : Linter.Call := {
    command := Linter.commandLine front arguments
    directory := linterDirectory
  }
  note (.linterStarted call)
  modify fun session => { session with calls := session.calls ++ [call] }
  match Linter.capture call response with
  | .error launch => stopWith launch.message
  | .ok captured =>
      note (.linterEnded captured.code)
      return captured

/-- Where diagnostics come from, as a report names it. -/
def inputName (invocation : Invocation) : Text :=
  match invocation.inputFile with
  | some path => "input_file:" ++ path.toText
  | none => if invocation.stdin then "stdin" else "linter"

/-- The diagnostics of a run. -/
def collectDiagnostics
    (request : Request)
    (invocation : Invocation)
    (settings : Settings) :
    Act (List Diagnostic) :=
  match invocation.inputFile with
  | some path => diagnosticsInFile path request.machine.inputRoom
  | none =>
      if invocation.stdin then do
        readDiagnostics (← decodeInput request.stdin) [] request.machine.inputRoom
      else do
        let captured ← callLinter request.linter settings.command
          (settings.arguments ++ invocation.linterArguments)
        readDiagnostics captured.stdout captured.stderr request.machine.linterRoom

/-- Load the baseline. -/
def loadBaseline (path : Path) (room : Baseline.Room) : Act Baseline := do
  match Baseline.loadFile? (← get).workspace path room with
  | .error error => stopForStorage error
  | .ok none =>
      note (.baselineMissing path)
      return Ledger.empty
  | .ok (some baseline) =>
      note (.baselineLoaded path baseline.size (Baseline.total baseline))
      return baseline

/-- Save the baseline. -/
def saveBaseline (path : Path) (baseline : Baseline) : Act Unit := do
  match Baseline.save path baseline (← get).workspace with
  | .error error workspace =>
      modify fun session => { session with workspace := workspace }
      stopForStorage error
  | .ok _ workspace =>
      modify fun session => { session with workspace := workspace }
      note (.baselineWritten path baseline.size)

/-- Absorb what was seen into the baseline and say what changed. -/
def updateBaseline (plan : Plan) (diagnostics : List Diagnostic) : Act Unit := do
  let current ← loadBaseline plan.store plan.machine.updateRoom
  let updated := Baseline.absorb current diagnostics
  saveBaseline plan.store updated
  let changed := Baseline.changes current updated
  note (.baselineUpdated changed.length)
  match plan.format with
  | .json =>
      let report := Report.updateToJson changed plan.store.toText diagnostics.length
      printLine (← orCrash .numeral (Report.machine report))
  | .human =>
      printLine ("Updated baseline file: " ++ plan.store.toText)
      printLine ("Total diagnostics: " ++ Numeral.ofNat diagnostics.length)
      printLine (← orCrash .numeral (Report.changes changed))

/-- Tighten the baseline by what was seen and say what changed. -/
def tightenBaseline
    (plan : Plan)
    (current : Baseline)
    (diagnostics : List Diagnostic) :
    Act Unit := do
  let tightened := Baseline.tighten current diagnostics
  saveBaseline plan.store tightened
  let saved : Text := "Tightened baseline file: " ++ plan.store.toText
  match plan.format with
  | .json => printErrorLine saved
  | .human => printLine saved
  printErrorLine
    (← orCrash .numeral (Report.changes (Baseline.changes current tightened)))

/-- Report the groups in excess. -/
def reportExcess (plan : Plan) (source : Text) (groups : List Excess) : Act Unit := do
  match plan.format with
  | .json =>
      let report := Report.checkToJson groups plan.store.toText source
      printLine (← orCrash .numeral (Report.machine report))
  | .human =>
      if groups.isEmpty then
        printLine Report.success
      else
        let workspace := (← get).workspace
        let (report, _) ← orCrash .report
          ((Report.human workspace plan.showCode groups plan.machine.memory).run {})
        printErrorLine report

/-- Compare what was seen with the baseline, and tighten it if that is planned. -/
def checkBaseline
    (plan : Plan)
    (source : Text)
    (diagnostics : List Diagnostic) :
    Act Unit := do
  let current ← loadBaseline plan.store plan.machine.checkRoom
  let groups := Baseline.excess current diagnostics
  note (.excessFound groups.length)
  if plan.tighten then
    tightenBaseline plan current diagnostics
  reportExcess plan source groups
  if !groups.isEmpty && plan.failOnExcess then
    throw (.exit exitExcess)

/-- Load the settings. -/
def loadSettings (file : Option Path) : Act Settings := do
  match Settings.load (← get).workspace linterDirectory file with
  | .ok settings => return settings
  | .error (.refused fault) => crash (.access (.system fault))
  | .error .tooDeep => crash .deepSettings
  | .error error => refuseUsage (.settings error)

/-- The form of the report: the one asked for, or the one in the settings. -/
def chooseFormat (invocation : Invocation) (settings : Settings) : Act ReportFormat :=
  match invocation.format with
  | some (first :: rest) =>
      match ReportFormat.ofName? (first :: rest) with
      | some format => pure format
      | none => refuseUsage .unknownFormat
  | _ => pure settings.format

/-- Weigh options, environment and settings. -/
def planOf
    (invocation : Invocation)
    (settings : Settings)
    (switches : Switches)
    (format : ReportFormat)
    (machine : Machine) :
    Plan where
  store := invocation.baseline.getD (Path.ofText settings.baseline)
  update := invocation.update || switches.update
  tighten := invocation.tighten || switches.tighten
  failOnExcess := invocation.failOnExcess.getD settings.failOnExcess
  showCode := invocation.showCode.getD settings.showCode
  format := format
  machine := machine

/-- Do what a command line asks for. -/
def perform (request : Request) (invocation : Invocation) : Act Unit := do
  let given := if invocation.verbose then some Log.debug else none
  let threshold ← orCrash .logLevel (Log.threshold given request.environment)
  modify fun session => { session with threshold := threshold }
  let settings ← loadSettings invocation.config
  let format ← chooseFormat invocation settings
  if invocation.inputFile.isSome && invocation.stdin then
    refuseUsage .twoInputs
  let switches := Switches.ofEnvironment request.environment
  let plan := planOf invocation settings switches format request.machine
  let diagnostics ← collectDiagnostics request invocation settings
  if plan.update then
    updateBaseline plan diagnostics
  else
    checkBaseline plan (inputName invocation) diagnostics

/-- Print what was asked for instead of a check. -/
def printNotice : Notice → Act Unit
  | .version => printLine Report.version
  | .configTemplate => print Settings.template

/-- Read the command line and do what it asks for. -/
def act (request : Request) : Act Unit := do
  match parse request.arguments with
  | .error fault => refuseUsage (.option fault)
  | .ok parsed =>
      match parsed.notice? with
      | some notice => printNotice notice
      | none =>
          match invocation parsed with
          | .error (.usage fault) => refuseUsage fault
          | .error (.path fault) => crash (.access (.path fault))
          | .ok invocation => perform request invocation

/-- How a run ended and what it had done by then. -/
structure Outcome where
  ending : Ending
  session : Session
  deriving Repr, DecidableEq

/-- Run the program in a workspace. -/
def run (workspace : Workspace) (request : Request) : Outcome :=
  match act request { workspace := workspace } with
  | .ok _ session => { ending := .exit exitOk, session := session }
  | .error ending session => { ending := ending, session := session }

end CommandLine

end Tolerance
