import Tolerance.CommandLine.Files

namespace Tolerance

/-!
# The program

The program fills a workspace from the machine, runs in it, and brings what the
run wrote back to the machine.  It starts no other program: linter output comes
from a file or from standard input.
-/

namespace Program

/-- A text as a string; a surrogate becomes U+FFFD. -/
def stringOf (text : Text) : String :=
  String.ofList (text.map fun point =>
    if point.isSurrogate then Char.ofNat 0xfffd else Char.ofNat point.val)

/-- The path of a location. -/
def pathOf (location : Location) : String :=
  stringOf ("/" ++ Text.join "/" (location.map Utf8.decodePath))

/-- Put a file of the machine into a workspace, if it can be read. -/
def loadFile (workspace : Workspace) (path : Path) : IO Workspace := do
  let .ok bytes ← (IO.FS.readBinFile (stringOf path.toText)).toBaseIO | return workspace
  return workspace.withFile path bytes.toList

/-- Put the files into a workspace that a run in it reads, as far as it tells. -/
def loadFiles (request : CommandLine.Request) (workspace : Workspace) : IO Workspace :=
  (CommandLine.filesOf workspace request).foldlM loadFile workspace

/-- The variables that a run looks at. -/
def variableNames : List String :=
  ["LINT_RATCHET_LOG_LEVEL", "LINT_RATCHET_UPDATE_BASELINE", "LINT_RATCHET_TIGHTEN_BASELINE"]

/-- The variables of the machine that a run looks at. -/
def environment : IO Environment :=
  variableNames.foldlM
    (fun known name => do
      match ← IO.getEnv name with
      | some value => return known.insert name value
      | none => return known)
    OrderedMap.empty

/-- What the machine asks for. -/
def request (arguments : List String) : IO CommandLine.Request := do
  let words := arguments.map Text.ofString
  let input ← IO.getStdin
  let bytes ←
    if CommandLine.readsStandardInput words then input.readBinToEnd else pure ByteArray.empty
  return {
    arguments := words
    environment := ← environment
    stdin := bytes.toList
  }

/-- Bring a file of a workspace to the machine. -/
def storeFile (file : Location × Bytes) : IO Unit := do
  IO.FS.createDirAll (pathOf file.1.dropLast)
  IO.FS.writeBinFile (pathOf file.1) (ByteArray.mk file.2.toArray)

/-- What is printed for a run that ends without words of its own. -/
def closingWords : CommandLine.Ending → Text
  | .exit _ => []
  | .usage fault => fault.message ++ "\n"
  | .crash fault => fault.message ++ "\n"

/-- The exit code of a run. -/
def exitCode : CommandLine.Ending → UInt32
  | .exit code => UInt32.ofNat code
  | .usage _ => UInt32.ofNat CommandLine.exitError
  | .crash _ => UInt32.ofNat CommandLine.exitExcess

/-- Run the program with the words of a command line. -/
def start (arguments : List String) : IO UInt32 := do
  let here ← IO.currentDir
  let asked ← request arguments
  let empty := Workspace.fresh (Path.ofText here.toString) ["new"]
  let workspace ← loadFiles asked (← loadFiles asked empty)
  let outcome := CommandLine.run workspace asked
  (outcome.session.workspace.filesBeyond workspace).forM storeFile
  (← IO.getStdout).putStr (stringOf outcome.session.stdout)
  (← IO.getStderr).putStr (stringOf (outcome.session.stderr ++ closingWords outcome.ending))
  return exitCode outcome.ending

end Program

end Tolerance

/-- The entry of the program. -/
def main (arguments : List String) : IO UInt32 :=
  Tolerance.Program.start arguments
