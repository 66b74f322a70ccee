import Tolerance.Settings
import Tolerance.Toml.Reader

namespace Tolerance

/-!
# Finding the settings file

Without a path the first file that is there decides: a settings file of its own
under one of two names, or the project file if it has a table of settings that
is not empty.  A file that decides and is wrong is reported; no other file is
tried in its place.
-/

namespace Settings

/-- The names of a settings file, in the order in which they are tried. -/
def filenames : List Text :=
  [".lint-ratchet.toml", "lint-ratchet.toml"]

/-- The name of the project file. -/
def projectFilename : Text :=
  "pyproject.toml"

/-- The names of the table of settings in the project file's table of tools. -/
def toolKeys : List Text :=
  ["lint_ratchet", "lint-ratchet"]

/--
Why no settings were loaded.  All but the last three are faults of the settings:
those are values that are nested too deep, a path of which the file system
refuses to say anything, and a path that cannot be looked up.
-/
inductive LoadError where
  | missing (path : Path)
  | malformed (path : Path) (error : Toml.ReadError)
  | numeral (fault : Numeral.Fault)
  | undecodable (fault : Utf8.DecodeFault)
  | invalid (fault : Fault)
  | tooDeep
  | refused (fault : SystemFault)
  | unusablePath (fault : Path.Fault)
  deriving Repr, DecidableEq

namespace LoadError

/-- The wording of a failure. -/
def message : LoadError → Text
  | .missing path => "Config file does not exist: " ++ path.toText
  | .malformed path error => "Invalid TOML in " ++ path.toText ++ ": " ++ error.message
  | .numeral fault => fault.message
  | .undecodable fault => fault.message
  | .invalid fault => fault.message
  | .tooDeep => Toml.tooDeepMessage
  | .refused fault => fault.message
  | .unusablePath fault => fault.message

end LoadError

/-- Whether a path names a project file. -/
def isProjectFile (path : Path) : Bool :=
  path.name = projectFilename

/-- The table of settings in a project file, or an empty one. -/
def projectTable (document : Toml.Table) : Toml.Table :=
  match Toml.field? "tool" document with
  | some (.table tools) =>
      (toolKeys.findSome? fun key =>
        match Toml.field? key tools with
        | some (.table found) => some found
        | _ => none).getD []
  | _ => []

/-- Read a settings file as a document. -/
def documentOfBytes (path : Path) (bytes : Bytes) : Except LoadError Toml.Table :=
  match Utf8.decode bytes with
  | .error fault => .error (.undecodable fault)
  | .ok text =>
      match Toml.parse text with
      | .error (.numeral fault) => .error (.numeral fault)
      | .error .tooDeep => .error .tooDeep
      | .error error => .error (.malformed path error)
      | .ok document => .ok document

/-- The table of settings in the file at a path. -/
def readTable (workspace : Workspace) (path : Path) : Except LoadError Toml.Table :=
  match workspace.readFile path with
  | .error (.path fault) => .error (.unusablePath fault)
  | .error (.system fault) => .error (.refused fault)
  | .ok bytes =>
      (documentOfBytes path bytes).map fun document =>
        if isProjectFile path then projectTable document else document

/-- The settings in a table. -/
def settingsIn (path : Path) (table : Toml.Table) : Except LoadError Settings :=
  (ofTable path table).mapError .invalid

/-- The settings in the file at a path, which has to be there. -/
def loadFrom (workspace : Workspace) (path : Path) : Except LoadError Settings :=
  match workspace.hasFile path with
  | .error fault => .error (.refused fault)
  | .ok false => .error (.missing path)
  | .ok true => do settingsIn path (← readTable workspace path)

/-- The settings in the first of several files that decides, or the defaults. -/
def loadFirst (workspace : Workspace) : List Path → Except LoadError Settings
  | [] => .ok {}
  | path :: others =>
      match workspace.hasFile path with
      | .error fault => .error (.refused fault)
      | .ok false => loadFirst workspace others
      | .ok true => do
          let table ← readTable workspace path
          if table.isEmpty && isProjectFile path then
            loadFirst workspace others
          else
            settingsIn path table

/-- The files that are tried in a directory, in order. -/
def candidates (directory : Path) : List Path :=
  (filenames ++ [projectFilename]).map directory.child

/-- Load the settings for a directory, from the given file if there is one. -/
def load
    (workspace : Workspace)
    (directory : Path)
    (file : Option Path) :
    Except LoadError Settings :=
  match directory.resolve workspace.here with
  | .error fault => .error (.unusablePath fault)
  | .ok directory =>
      match file with
      | some path => loadFrom workspace (path.within directory)
      | none => loadFirst workspace (candidates directory)

end Settings

end Tolerance
