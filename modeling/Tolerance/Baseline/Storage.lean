import Tolerance.Baseline.Document
import Tolerance.Text.Line
import Tolerance.Workspace.Access

namespace Tolerance

/-!
# Keeping a baseline in a file

A missing file is the empty baseline.  A new baseline is written beside the old
one and then takes its place in one step, so that a failure leaves the old file
as it was; the new file has the permissions of the old one.
-/

namespace Baseline

/-- Where a baseline is kept unless the settings say otherwise. -/
def defaultPath : Text :=
  ".oxlint-suppressions.json"

/-- What is wrong with the text of a baseline file. -/
inductive FileFault where
  | json (error : Json.ReadError)
  | document (fault : DocumentFault)
  deriving Repr, DecidableEq

namespace FileFault

/-- The wording of a fault. -/
def message : FileFault → Text
  | .json error => error.message
  | .document fault => fault.message

end FileFault

/--
Why a baseline was not loaded or not saved.  The last four do not name the
baseline file: its bytes are no text, it nests containers too deep, its path
cannot be looked up, or a count has too many digits to be written.
-/
inductive StorageError where
  | unreadable (path : Path) (fault : SystemFault)
  | corrupt (path : Path) (fault : FileFault)
  | unwritable (path : Path) (fault : SystemFault)
  | undecodable (fault : Utf8.DecodeFault)
  | tooDeep (container : Json.Container)
  | inaccessible (fault : AccessFault)
  | numeral (fault : Numeral.Fault)
  deriving Repr, DecidableEq

namespace StorageError

/-- The wording of a failure. -/
def message : StorageError → Text
  | .unreadable path fault =>
      "Failed to read baseline file " ++ path.toText ++ ": " ++ fault.message
  | .corrupt path fault =>
      "Failed to parse baseline file " ++ path.toText ++ ": " ++ fault.message
  | .unwritable path fault =>
      "Failed to write baseline file " ++ path.toText ++ ": " ++ fault.message
  | .undecodable fault => fault.message
  | .tooDeep container => container.tooDeepMessage
  | .inaccessible fault => fault.message
  | .numeral fault => fault.message

end StorageError

/-- Room for nested containers that is enough for the stored form of a baseline. -/
structure Room where
  levels : Nat
  enough : 3 ≤ levels

namespace Room

/-- The room of a caller that says nothing of it. -/
def usual : Room where
  levels := Json.usualRoom
  enough := by decide

end Room

/-- Read the text of a baseline file. -/
def ofFileText (text : Text) (room : Room) : Except FileFault Baseline :=
  match Json.parse text room.levels with
  | .error error => .error (.json error)
  | .ok value =>
      match ofJson value with
      | .error fault => .error (.document fault)
      | .ok baseline => .ok baseline

/-- Read the bytes of a baseline file, whose path is named in a failure. -/
def ofFileBytes
    (path : Path)
    (bytes : Bytes)
    (room : Room) :
    Except StorageError Baseline :=
  match Utf8.decode bytes with
  | .error fault => .error (.undecodable fault)
  | .ok text =>
      match ofFileText text.unifyLineEndings room with
      | .error (.json (.tooDeep container)) => .error (.tooDeep container)
      | .error fault => .error (.corrupt path fault)
      | .ok baseline => .ok baseline

/-- The baseline in the file at a path, if there is anything at the path. -/
def loadFile?
    (workspace : Workspace)
    (path : Path)
    (room : Room) :
    Except StorageError (Option Baseline) :=
  match workspace.hasPath path with
  | .error fault => .error (.inaccessible (.system fault))
  | .ok false => .ok none
  | .ok true =>
      match workspace.readFile path with
      | .error (.system fault) => .error (.unreadable path fault)
      | .error fault => .error (.inaccessible fault)
      | .ok bytes =>
          match ofFileBytes path bytes room with
          | .error error => .error error
          | .ok baseline => .ok (some baseline)

/-- The baseline in the file at a path, or the empty one if there is nothing at the path. -/
def load
    (workspace : Workspace)
    (path : Path)
    (room : Room := .usual) :
    Except StorageError Baseline :=
  (loadFile? workspace path room).map fun baseline => baseline.getD Ledger.empty

/-- The steps in which a file is replaced. -/
inductive SaveStep where
  | makeDirectories
  | createTemporary
  | writeTemporary
  | readMode
  | changeMode
  | rename
  deriving Repr, DecidableEq

/-- A failure of a step from outside, and how far the step had come by then. -/
structure Outage where
  fault : SystemFault
  progress : Nat := 0
  deriving Repr, DecidableEq

/-- Do a step, or only its beginning if it is among those that fail from outside. -/
def attempt
    (outages : SaveStep → Option Outage)
    (step : SaveStep)
    (beginning : Nat → Access Unit)
    (action : Access α) :
    Access α :=
  match outages step with
  | some outage => do
      beginning outage.progress
      throw (.system outage.fault)
  | none => action

/-- The beginning of a step that the file system does all at once. -/
def nothingYet (_ : Nat) : Access Unit :=
  pure ()

/-- Make the first of the directories that lead to a path. -/
def makeFirstDirectories (path : Path) (count : Nat) : Access Unit :=
  Access.makeDirectories { path with parts := path.parts.take count }

/-- Write the first bytes of a file. -/
def writeFirstBytes (path : Path) (contents : Bytes) (count : Nat) : Access Unit :=
  Access.writeFile path (contents.take count)

/-- The permissions for the new file: those of the old one, or the usual ones. -/
def modeFor (path : Path) : Access Nat := do
  let workspace ← get
  match workspace.status path with
  | .ok node => pure node.mode
  | .error (.system fault) =>
      if fault.refusal = .noEntry then
        pure workspace.fileMode
      else
        throw (.system fault)
  | .error fault => throw fault

/-- Fill a temporary file and move it to its path. -/
def install
    (outages : SaveStep → Option Outage)
    (temporary path : Path)
    (contents : Bytes) :
    Access Unit := do
  attempt outages .writeTemporary (writeFirstBytes temporary contents)
    (Access.writeFile temporary contents)
  let mode ← attempt outages .readMode nothingYet (modeFor path)
  attempt outages .changeMode nothingYet (Access.changeMode temporary mode)
  attempt outages .rename nothingYet (Access.rename temporary path)

/-- Replace the bytes of the file at a path, all or nothing. -/
def replaceContents
    (outages : SaveStep → Option Outage)
    (path : Path)
    (contents : Bytes) :
    Access Unit := do
  attempt outages .makeDirectories (makeFirstDirectories path.parent)
    (Access.makeDirectories path.parent)
  let temporary ←
    attempt outages .createTemporary nothingYet (Access.createTemporary path)
  try
    install outages temporary path contents
  catch fault =>
    Access.removeFile temporary
    throw fault

/-- An operation that loads or saves a baseline. -/
abbrev StorageAccess (α : Type) := EStateM StorageError Workspace α

/-- Name the path of a baseline file that the file system refused to write. -/
def writeError (path : Path) : AccessFault → StorageError
  | .system fault => .unwritable path fault
  | .path fault => .inaccessible (.path fault)

/-- Save a baseline while some steps may fail from outside. -/
def saveDespite
    (outages : SaveStep → Option Outage)
    (path : Path)
    (baseline : Baseline) :
    StorageAccess Unit :=
  match baseline.fileText with
  | .error fault => throw (.numeral fault)
  | .ok text =>
      EStateM.adaptExcept (writeError path)
        (replaceContents outages path (text.flatMap Utf8.encodePoint))

/-- Save the canonical form of a baseline to the file at a path. -/
def save (path : Path) (baseline : Baseline) : StorageAccess Unit :=
  saveDespite (fun _ => none) path baseline

end Baseline

end Tolerance
