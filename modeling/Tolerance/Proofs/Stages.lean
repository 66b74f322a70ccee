import Tolerance.CommandLine.Run

namespace Tolerance.CommandLine

/-!
# The stages of a run

A run settles what is asked for, fetches linter output, reads the diagnostics in
it, and then turns to the baseline.  Each of these stages ends the run if it
fails, so that what comes after it does not matter then.
-/

/-- Weigh options, environment and settings, or refuse what is asked for. -/
def settle (request : Request) (invocation : Invocation) : Act (Settings × Plan) := do
  let given := if invocation.verbose then some Log.debug else none
  let threshold ← orCrash .logLevel (Log.threshold given request.environment)
  modify fun session => { session with threshold := threshold }
  let settings ← loadSettings invocation.config
  let format ← chooseFormat invocation settings
  if invocation.inputFile.isSome && invocation.stdin then
    refuseUsage .twoInputs
  let switches := Switches.ofEnvironment request.environment
  return (settings, planOf invocation settings switches format request.machine)

/-- Fetch linter output: what is in a file or on standard input, or what the linter prints. -/
def fetchOutput
    (request : Request)
    (invocation : Invocation)
    (settings : Settings) :
    Act (Text × Text) :=
  match invocation.inputFile with
  | some path => do
      match (← get).workspace.readFile path with
      | .error (.system fault) => refuseUsage (.inputFile fault)
      | .error fault => crash (.access fault)
      | .ok bytes => return (← decodeInput bytes, [])
  | none =>
      if invocation.stdin then do
        return (← decodeInput request.stdin, [])
      else do
        let captured ← callLinter request.linter settings.command
          (settings.arguments ++ invocation.linterArguments)
        return (captured.stdout, captured.stderr)

/-- How many containers may nest in the linter output of a run. -/
def Request.outputRoom (request : Request) (invocation : Invocation) : Nat :=
  match invocation.inputFile with
  | some _ => request.machine.inputRoom
  | none =>
      if invocation.stdin then
        request.machine.inputRoom
      else
        request.machine.linterRoom

/-- The room in which a run loads the baseline. -/
def Plan.loadRoom (plan : Plan) : Baseline.Room :=
  if plan.update then plan.machine.updateRoom else plan.machine.checkRoom

/-- Go on with what came of reading a file of linter output. -/
def takeContents : Except AccessFault Bytes → Act (Text × Text)
  | .error (.system fault) => refuseUsage (.inputFile fault)
  | .error fault => crash (.access fault)
  | .ok bytes => do return (← decodeInput bytes, [])

/-- What is fetched from a file is what is taken from its contents. -/
theorem run_fetchOutput_of_file
    {request : Request}
    {invocation : Invocation}
    {settings : Settings}
    {session : Session}
    {path : Path}
    (fromFile : invocation.inputFile = some path) :
    (fetchOutput request invocation settings).run session =
      (takeContents (session.workspace.readFile path)).run session := by
  unfold fetchOutput
  rw [fromFile]
  rfl

/-- Turn to the baseline with what was seen. -/
def conclude
    (plan : Plan)
    (source : Text)
    (diagnostics : List Diagnostic) :
    Act Unit :=
  if plan.update then
    updateBaseline plan diagnostics
  else
    checkBaseline plan source diagnostics

/-- Diagnostics are read in the linter output that is fetched. -/
theorem collectDiagnostics_eq
    (request : Request)
    (invocation : Invocation)
    (settings : Settings) :
    collectDiagnostics request invocation settings = (do
      let (stdout, stderr) ← fetchOutput request invocation settings
      readDiagnostics stdout stderr (request.outputRoom invocation)) := by
  unfold collectDiagnostics fetchOutput Request.outputRoom
  cases invocation.inputFile with
  | some path =>
      unfold diagnosticsInFile
      simp only [bind_assoc]
      refine bind_congr fun session => ?_
      cases session.workspace.readFile path with
      | error fault =>
          cases fault <;> rfl
      | ok bytes =>
          simp
  | none =>
      dsimp only
      split <;> simp

/-- A run settles what is asked for, collects diagnostics and turns to the baseline. -/
theorem perform_eq
    (request : Request)
    (invocation : Invocation) :
    perform request invocation = (do
      let (settings, plan) ← settle request invocation
      let diagnostics ← collectDiagnostics request invocation settings
      conclude plan (inputName invocation) diagnostics) := by
  unfold perform settle conclude
  simp only [bind_assoc]
  refine bind_congr fun threshold => bind_congr fun _ => ?_
  refine bind_congr fun settings => bind_congr fun format => ?_
  split <;> simp

variable {request : Request} {parsed : Parsed}

/-- A command line that cannot be parsed is refused. -/
theorem act_eq_refuseUsage
    {fault : OptionFault}
    (misused : parse request.arguments = .error fault) :
    act request = refuseUsage (.option fault) := by
  simp only [act, misused]

/-- What a command line asks for decides how it is done. -/
theorem act_eq_of_parse
    (understood : parse request.arguments = .ok parsed) :
    act request =
      match parsed.notice? with
      | some notice => printNotice notice
      | none =>
          match invocation parsed with
          | .error (.usage fault) => refuseUsage fault
          | .error (.path fault) => crash (.access (.path fault))
          | .ok invocation => perform request invocation := by
  unfold act
  generalize parse request.arguments = result at understood
  cases understood
  rfl

/-- A command line that asks for a check performs it. -/
theorem act_eq_perform
    {invocation : Invocation}
    (understood : parse request.arguments = .ok parsed)
    (noNotice : parsed.notice? = none)
    (asked : CommandLine.invocation parsed = .ok invocation) :
    act request = perform request invocation := by
  rw [act_eq_of_parse understood, noNotice]
  dsimp only
  rw [asked]

/-- A run that goes on from a session ends as it does from there. -/
theorem run_eq_of_error
    {workspace : Workspace}
    {ending : Ending}
    {after : Session}
    (failed :
      (act request).run { workspace := workspace } = .error ending after) :
    run workspace request = { ending := ending, session := after } := by
  rw [run, show act request { workspace := workspace } = _ from failed]

end Tolerance.CommandLine
