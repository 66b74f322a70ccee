import Tolerance.Path

namespace Tolerance

/-!
# The workspace

The files that a run can see are a finite set of nodes, each at a location: the
list of names that leads to it from the root.  There are no links.  An operation
that the file system refuses says why, and of which path.
-/

/-- The names that lead from the root to a file or a directory. -/
abbrev Location := List Bytes

/-- What can be at a location. -/
inductive Node where
  | directory (mode : Nat)
  | file (contents : Bytes) (mode : Nat)
  deriving Repr, DecidableEq

namespace Node

/-- The permissions of a node. -/
def mode : Node → Nat
  | .directory mode => mode
  | .file _ mode => mode

/-- The same node with other permissions. -/
def withMode (mode : Nat) : Node → Node
  | .directory _ => .directory mode
  | .file contents _ => .file contents mode

/-- Whether a node is a file. -/
def isFile : Node → Bool
  | .directory _ => false
  | .file _ _ => true

/-- Whether a node is a directory. -/
def isDirectory : Node → Bool
  | .directory _ => true
  | .file _ _ => false

end Node

/-- Why the file system refuses an operation. -/
inductive Refusal where
  | noEntry
  | busy
  | exists
  | notDirectory
  | isDirectory
  | nameTooLong
  | other (number : Int) (wording : Text)
  deriving Repr, DecidableEq

namespace Refusal

/-- The number of a refusal. -/
def number : Refusal → Int
  | .noEntry => 2
  | .busy => 16
  | .exists => 17
  | .notDirectory => 20
  | .isDirectory => 21
  | .nameTooLong => 36
  | .other number _ => number

/-- The wording of a refusal. -/
def wording : Refusal → Text
  | .noEntry => "No such file or directory"
  | .busy => "Device or resource busy"
  | .exists => "File exists"
  | .notDirectory => "Not a directory"
  | .isDirectory => "Is a directory"
  | .nameTooLong => "File name too long"
  | .other _ wording => wording

end Refusal

/-- A refused operation with the path it was about, and the second path of a renaming. -/
structure SystemFault where
  refusal : Refusal
  subject : Text
  target : Option Text := none
  deriving Repr, DecidableEq

namespace SystemFault

/-- The wording of a refused operation. -/
def message (fault : SystemFault) : Text :=
  "[Errno " ++ Numeral.ofInt fault.refusal.number ++ "] " ++
    fault.refusal.wording ++ ": " ++ fault.subject.quoted ++
    match fault.target with
    | some target => " -> " ++ target.quoted
    | none => []

end SystemFault

/-- Why an operation on a path failed: the path is none, or the file system refused. -/
inductive AccessFault where
  | path (fault : Path.Fault)
  | system (fault : SystemFault)
  deriving Repr, DecidableEq

namespace AccessFault

/-- The wording of a failed operation. -/
def message : AccessFault → Text
  | .path fault => fault.message
  | .system fault => fault.message

end AccessFault

/--
The files and directories that a run can see, the directory it runs in, and
the names that temporary files may take.
-/
structure Workspace where
  here : Path
  nodes : List (Location × Node)
  umask : Nat := 0o022
  tokens : List Text := []
  deriving Repr, DecidableEq

namespace Workspace

/-- The names of a path's parts. -/
def names (path : Path) : Location :=
  path.parts.map fun part => part.flatMap Utf8.encodePathPoint

/-- What is at a location. -/
def nodeAt? (workspace : Workspace) (location : Location) : Option Node :=
  (workspace.nodes.find? fun entry => entry.1 = location).map Prod.snd

/-- Put a node at a location of a list. -/
def putNode
    (location : Location)
    (node : Node) :
    List (Location × Node) → List (Location × Node)
  | [] => [(location, node)]
  | entry :: rest =>
      if entry.1 = location then
        (location, node) :: rest
      else
        entry :: putNode location node rest

/-- The workspace with a node at a location. -/
def put
    (workspace : Workspace)
    (location : Location)
    (node : Node) :
    Workspace :=
  { workspace with nodes := putNode location node workspace.nodes }

/-- The workspace without what was at a location. -/
def erase (workspace : Workspace) (location : Location) : Workspace :=
  { workspace with nodes := workspace.nodes.filter fun entry => entry.1 ≠ location }

/-- The permissions of a new directory. -/
def directoryMode (workspace : Workspace) : Nat :=
  0o777 - (0o777 &&& workspace.umask)

/-- The permissions of a new file. -/
def fileMode (workspace : Workspace) : Nat :=
  0o666 - (0o666 &&& workspace.umask)

/-- The workspace with directories at a location and everywhere above it. -/
def withDirectories (workspace : Workspace) (location : Location) : Workspace :=
  (List.range (location.length + 1)).foldl
    (fun extended length =>
      match extended.nodeAt? (location.take length) with
      | some _ => extended
      | none =>
          extended.put (location.take length) (.directory extended.directoryMode))
    workspace

/-- An empty directory to run in, with the given names for temporary files. -/
def fresh (here : Path) (tokens : List Text) : Workspace :=
  withDirectories
    { here := here, nodes := [], tokens := tokens }
    (names here)

/-- The location of a path's absolute form. -/
def locationOf (workspace : Workspace) (path : Path) : Location :=
  names (path.absolute workspace.here)

/--
The workspace with a file, and with the directories above it.  A file that is
there already keeps its permissions.
-/
def withFile (workspace : Workspace) (path : Path) (contents : Bytes) : Workspace :=
  let location := workspace.locationOf path
  let extended := workspace.withDirectories location.dropLast
  let mode :=
    match extended.nodeAt? location with
    | some node => node.mode
    | none => extended.fileMode
  extended.put location (.file contents mode)

/-- The bytes of every file, by location. -/
def files (workspace : Workspace) : List (Location × Bytes) :=
  workspace.nodes.filterMap fun entry =>
    match entry.2 with
    | .directory _ => none
    | .file contents _ => some (entry.1, contents)

/-- The files that a workspace has and another one lacks or holds with other bytes. -/
def filesBeyond (workspace other : Workspace) : List (Location × Bytes) :=
  workspace.files.filter fun file => !other.files.contains file

/-- The locations of files that a workspace has and another one lacks. -/
def filesMissingFrom (workspace other : Workspace) : List Location :=
  (workspace.files.map Prod.fst).filter fun location =>
    !(other.files.map Prod.fst).contains location

/-- The longest name of a file or directory, in bytes. -/
def longestName : Nat :=
  255

/-- The length, in bytes, that the text of a path stays below. -/
def longestPath : Nat :=
  4096

/--
Follow names from a location.  Every location that is left must be a directory;
what the last name leads to need not exist.
-/
def walk (workspace : Workspace) : Location → List Bytes → Except Refusal Location
  | location, [] => .ok location
  | location, name :: rest =>
      match workspace.nodeAt? location with
      | none => .error .noEntry
      | some (.file _ _) => .error .notDirectory
      | some (.directory _) =>
          if name = [0x2e, 0x2e] then
            walk workspace location.dropLast rest
          else if longestName < name.length then
            .error .nameTooLong
          else
            walk workspace (location ++ [name]) rest

/-- Name the path that an operation was refused for. -/
def refusedFor (path : Path) (refusal : Refusal) : AccessFault :=
  .system { refusal := refusal, subject := path.toText }

/-- The location that a path leads to, whether or not there is something. -/
def locate (workspace : Workspace) (path : Path) : Except AccessFault Location :=
  match path.encode with
  | .error fault => .error (.path fault)
  | .ok bytes =>
      if longestPath ≤ bytes.length then
        .error (refusedFor path .nameTooLong)
      else
        let start := if path.isAbsolute then [] else names workspace.here
        match workspace.walk start (names path) with
        | .error refusal => .error (refusedFor path refusal)
        | .ok location => .ok location

/-- What a path leads to. -/
def status (workspace : Workspace) (path : Path) : Except AccessFault Node :=
  match workspace.locate path with
  | .error fault => .error fault
  | .ok location =>
      match workspace.nodeAt? location with
      | none => .error (refusedFor path .noEntry)
      | some node => .ok node

/--
Whether a path leads to something that passes a test.  A path that leads nowhere
or that cannot be looked up does not; any other refusal is passed on.
-/
def holds
    (workspace : Workspace)
    (path : Path)
    (test : Node → Bool) :
    Except SystemFault Bool :=
  match workspace.status path with
  | .ok node => .ok (test node)
  | .error (.path _) => .ok false
  | .error (.system fault) =>
      if fault.refusal = .noEntry ∨ fault.refusal = .notDirectory then
        .ok false
      else
        .error fault

/-- Whether there is something at a path. -/
def hasPath (workspace : Workspace) (path : Path) : Except SystemFault Bool :=
  workspace.holds path fun _ => true

/-- Whether there is a file at a path. -/
def hasFile (workspace : Workspace) (path : Path) : Except SystemFault Bool :=
  workspace.holds path Node.isFile

/-- Whether there is a directory at a path. -/
def hasDirectory (workspace : Workspace) (path : Path) : Except SystemFault Bool :=
  workspace.holds path Node.isDirectory

/-- The bytes of the file at a path. -/
def readFile (workspace : Workspace) (path : Path) : Except AccessFault Bytes :=
  match workspace.status path with
  | .error fault => .error fault
  | .ok (.directory _) => .error (refusedFor path .isDirectory)
  | .ok (.file contents _) => .ok contents

end Workspace

end Tolerance
