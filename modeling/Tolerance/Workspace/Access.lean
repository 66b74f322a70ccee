import Tolerance.Workspace

namespace Tolerance

/-!
# Changing the workspace

An operation ends with a value or a fault, and in both cases with a workspace:
what was done before a fault stays done.
-/

/-- An operation on the workspace. -/
abbrev Access (α : Type) := EStateM AccessFault Workspace α

namespace Access

/-- Turn an answer about the present workspace into an operation. -/
def ofExcept (answer : Except AccessFault α) : Access α :=
  match answer with
  | .ok value => pure value
  | .error fault => throw fault

/-- The location that a path leads to. -/
def locate (path : Path) : Access Location := do
  ofExcept ((← get).locate path)

/-- What a path leads to. -/
def status (path : Path) : Access Node := do
  ofExcept ((← get).status path)

/-- Refuse an operation on a path. -/
def refuse (path : Path) (refusal : Refusal) : Access α :=
  throw (Workspace.refusedFor path refusal)

/-- Whether the last part of a path is a name of its own. -/
def endsWithName (path : Path) : Bool :=
  !path.parts.isEmpty && path.name ≠ Path.above

/-- Make one directory where there is nothing. -/
def makeDirectory (path : Path) : Access Unit := do
  let location ← locate path
  let workspace ← get
  if endsWithName path && (workspace.nodeAt? location).isNone then
    set (workspace.put location (.directory workspace.directoryMode))
  else
    refuse path .exists

/-- Overlook a refusal to make a directory that is there already. -/
def acceptDirectory (path : Path) (fault : SystemFault) : Access Unit := do
  match (← get).hasDirectory path with
  | .ok true => pure ()
  | .ok false => throw (.system fault)
  | .error other => throw (.system other)

/--
Make a directory and every missing one above it.  The parts of the path come
last part first.
-/
def makeDirectoriesAlong (anchor : Anchor) : List Text → Access Unit
  | [] => pure ()
  | last :: front => do
      let path : Path := { anchor := anchor, parts := front.reverse ++ [last] }
      try
        makeDirectory path
      catch
        | .path fault => throw (.path fault)
        | .system fault =>
            if fault.refusal = .noEntry then
              makeDirectoriesAlong anchor front
              try
                makeDirectory path
              catch
                | .path fault => throw (.path fault)
                | .system fault =>
                    if fault.refusal = .noEntry then
                      throw (.system fault)
                    else
                      acceptDirectory path fault
            else
              acceptDirectory path fault

/-- Make a directory and every missing one above it. -/
def makeDirectories (path : Path) : Access Unit :=
  makeDirectoriesAlong path.anchor path.parts.reverse

/-- The name of a temporary file for a file of the given name. -/
def temporaryName (name token : Text) : Text :=
  "." ++ name ++ "." ++ token ++ ".tmp"

/-- Make an empty file under the first of several names that is free. -/
def createTemporaryAmong (folder : Path) (name : Text) : List Text → Access Path
  | [] => refuse folder .exists
  | token :: others => do
      let path := folder.child (temporaryName name token)
      let location ← locate path
      let workspace ← get
      if (workspace.nodeAt? location).isSome then
        createTemporaryAmong folder name others
      else
        set (workspace.put location (.file [] 0o600))
        pure path

/-- Make an empty temporary file beside the file at a path. -/
def createTemporary (path : Path) : Access Path := do
  let workspace ← get
  createTemporaryAmong
    (path.parent.absolute workspace.here)
    path.name
    workspace.tokens

/-- Replace the bytes of the file at a path. -/
def writeFile (path : Path) (contents : Bytes) : Access Unit := do
  let location ← locate path
  match ← status path with
  | .directory _ => refuse path .isDirectory
  | .file _ mode => modify fun workspace => workspace.put location (.file contents mode)

/-- Give the file or directory at a path other permissions. -/
def changeMode (path : Path) (mode : Nat) : Access Unit := do
  let location ← locate path
  let node ← status path
  modify fun workspace => workspace.put location (node.withMode mode)

/-- Move a file to where a path leads, in the place of a file that is there. -/
def rename (source target : Path) : Access Unit := do
  let refused (refusal : Refusal) : AccessFault :=
    .system {
      refusal := refusal
      subject := source.toText
      target := some target.toText
    }
  let workspace ← get
  match workspace.locate source, workspace.locate target with
  | .ok old, .ok new =>
      if !endsWithName target then
        throw (refused .busy)
      else
        match workspace.nodeAt? old, workspace.nodeAt? new with
        | _, some (.directory _) => throw (refused .isDirectory)
        | none, _ => throw (refused .noEntry)
        | some node, _ => set ((workspace.erase old).put new node)
  | .error (.system fault), _ => throw (refused fault.refusal)
  | _, .error (.system fault) => throw (refused fault.refusal)
  | .error (.path fault), _ => throw (.path fault)
  | _, .error (.path fault) => throw (.path fault)

/-- Remove the file at a path, if there is one. -/
def removeFile (path : Path) : Access Unit := do
  match (← get).locate path with
  | .ok location => modify fun workspace => workspace.erase location
  | .error _ => pure ()

end Access

end Tolerance
