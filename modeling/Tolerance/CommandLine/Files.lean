import Tolerance.CommandLine.Run

namespace Tolerance

/-!
# The files of a run

A run sees only the files of its workspace, so they have to be put there first.
Which ones it reads depends on its options, then on its settings, and then on
the diagnostics: the list grows while the workspace is filled.
-/

namespace CommandLine

/-- The files that options name. -/
def optionFiles (parsed : Parsed) : List Path :=
  [parsed.baseline?, parsed.config?, parsed.inputFile?].filterMap fun written =>
    written.map Path.ofText

/-- The files that are looked for whatever the options are. -/
def standingFiles (workspace : Workspace) : List Path :=
  Settings.candidates linterDirectory ++
    Linter.lockFileCandidates (linterDirectory.absolute workspace.here)

/-- The baseline that the settings name, as far as they are known. -/
def settingsFiles (workspace : Workspace) (parsed : Parsed) : List Path :=
  match Settings.load workspace linterDirectory (parsed.config?.map Path.ofText) with
  | .ok settings => [Path.ofText settings.baseline]
  | .error _ => []

/-- The bytes of the linter output that is read, as far as they are known. -/
def outputBytes (workspace : Workspace) (request : Request) (parsed : Parsed) : Bytes :=
  match parsed.inputFile? with
  | some path =>
      match workspace.readFile (Path.ofText path) with
      | .ok bytes => bytes
      | .error _ => []
  | none => request.stdin

/-- The source files that diagnostics name, as far as they are known. -/
def sourceFiles (workspace : Workspace) (request : Request) (parsed : Parsed) : List Path :=
  match Utf8.decode (outputBytes workspace request parsed) with
  | .error _ => []
  | .ok text =>
      match Linter.readOutput text.unifyLineEndings [] request.machine.inputRoom with
      | .error _ => []
      | .ok output =>
          output.diagnostics.map fun diagnostic => Path.ofText diagnostic.filename

/-- The files that a run reads, as far as the workspace tells. -/
def filesOf (workspace : Workspace) (request : Request) : List Path :=
  match parse request.arguments with
  | .error _ => []
  | .ok parsed =>
      (optionFiles parsed ++ standingFiles workspace ++ settingsFiles workspace parsed ++
        sourceFiles workspace request parsed).eraseDups

/-- Whether a run reads its standard input. -/
def readsStandardInput (arguments : List Text) : Bool :=
  match parse arguments with
  | .error _ => false
  | .ok parsed => parsed.stdin

end CommandLine

end Tolerance
