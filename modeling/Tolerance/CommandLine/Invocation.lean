import Tolerance.CommandLine.Options
import Tolerance.Path
import Tolerance.Settings.Discovery

namespace Tolerance

/-!
# What a command line asks for

The last use of an option counts.  Values are checked in the order in which
their options were first used, so that of two wrong values the one that came
first is reported.
-/

namespace CommandLine

/-- How a run is asked for in a way that it refuses. -/
inductive UsageFault where
  | option (fault : OptionFault)
  | showCodeNotAnInteger (written : Text)
  | showCodeNegative (value : Int)
  | settings (error : Settings.LoadError)
  | unknownFormat
  | twoInputs
  | inputFile (fault : SystemFault)
  deriving Repr, DecidableEq

namespace UsageFault

/-- The wording of a refusal. -/
def message : UsageFault → Text
  | .option fault => fault.message
  | .showCodeNotAnInteger written =>
      "Invalid value for '--show-code': " ++ written.quoted ++
        " is not a valid integer range."
  | .showCodeNegative value =>
      "Invalid value for '--show-code': " ++ Numeral.ofInt value ++
        " is not in the range x>=0."
  | .settings error => "Invalid value for config: " ++ error.message
  | .unknownFormat => "Invalid value for --format: " ++ ReportFormat.refusal
  | .twoInputs => "Invalid value: Use either --input-file or --stdin, not both."
  | .inputFile fault => "Invalid value for --input-file: " ++ fault.message

end UsageFault

/-- What to print instead of a check. -/
inductive Notice where
  | version
  | configTemplate
  deriving Repr, DecidableEq

/-- The options of a check, each with the value that counts. -/
structure Invocation where
  baseline : Option Path := none
  update : Bool := false
  tighten : Bool := false
  failOnExcess : Option Bool := none
  showCode : Option Int := none
  format : Option Text := none
  inputFile : Option Path := none
  stdin : Bool := false
  config : Option Path := none
  verbose : Bool := false
  linterArguments : List Text := []
  deriving Repr, DecidableEq

namespace Parsed

/-- The value of the last use of an option, which the given function picks out. -/
def last? (parsed : Parsed) (pick : Occurrence → Option α) : Option α :=
  parsed.occurrences.reverse.findSome? pick

/-- The value that counts for the baseline. -/
def baseline? (parsed : Parsed) : Option Text :=
  parsed.last? fun
    | .baseline path => some path
    | _ => none

/-- The value that counts for the number of sources shown. -/
def showCode? (parsed : Parsed) : Option Text :=
  parsed.last? fun
    | .showCode written => some written
    | _ => none

/-- The value that counts for the form of the report. -/
def format? (parsed : Parsed) : Option Text :=
  parsed.last? fun
    | .format name => some name
    | _ => none

/-- The value that counts for the input file. -/
def inputFile? (parsed : Parsed) : Option Text :=
  parsed.last? fun
    | .inputFile path => some path
    | _ => none

/-- The value that counts for the settings file. -/
def config? (parsed : Parsed) : Option Text :=
  parsed.last? fun
    | .config path => some path
    | _ => none

/-- Whether an excess is asked to fail the run or not to. -/
def failOnExcess? (parsed : Parsed) : Option Bool :=
  parsed.last? fun
    | .failOnExcess wanted => some wanted
    | _ => none

/-- Whether linter output is asked for from standard input. -/
def stdin (parsed : Parsed) : Bool :=
  (parsed.last? fun
    | .stdin wanted => some wanted
    | _ => none).getD false

/-- The first thing asked for that is printed instead of a check. -/
def notice? (parsed : Parsed) : Option Notice :=
  parsed.occurrences.findSome? fun
    | .version => some .version
    | .configTemplate => some .configTemplate
    | _ => none

end Parsed

/-- Why the value of an option is no value for it. -/
inductive ValueFault where
  | usage (fault : UsageFault)
  | path (fault : Path.Fault)
  deriving Repr, DecidableEq

/-- Check that a text can be looked up as a path. -/
def checkPath (text : Text) : Except ValueFault Unit :=
  match Utf8.encodePath text with
  | .error fault => .error (.path (.unencodable fault))
  | .ok bytes => if bytes.contains 0 then .error (.path .nullByte) else .ok ()

/-- Read the number of sources shown, which is not negative. -/
def readShowCode (written : Text) : Except ValueFault Int :=
  match Numeral.read written with
  | .error _ => .error (.usage (.showCodeNotAnInteger written))
  | .ok value =>
      if value < 0 then .error (.usage (.showCodeNegative value)) else .ok value

/-- Check the value that counts for an option that was used. -/
def checkValue (parsed : Parsed) (occurrence : Occurrence) : Except ValueFault Unit :=
  match occurrence with
  | .baseline path => checkPath (parsed.baseline?.getD path)
  | .inputFile path => checkPath (parsed.inputFile?.getD path)
  | .config path => checkPath (parsed.config?.getD path)
  | .showCode written =>
      (readShowCode (parsed.showCode?.getD written)).map fun _ => ()
  | _ => .ok ()

/-- Check the values that count, in the order in which their options were first used. -/
def checkValues (parsed : Parsed) : List Occurrence → Except ValueFault Unit
  | [] => .ok ()
  | occurrence :: rest => do
      checkValue parsed occurrence
      checkValues parsed rest

/-- The number of sources shown that a command line asks for. -/
def showCodeOf (parsed : Parsed) : Except ValueFault (Option Int) :=
  match parsed.showCode? with
  | none => .ok none
  | some written => (readShowCode written).map some

/-- What a command line asks for, if all its values are right. -/
def invocation (parsed : Parsed) : Except ValueFault Invocation := do
  checkValues parsed parsed.occurrences
  let showCode ← showCodeOf parsed
  return {
    baseline := parsed.baseline?.map Path.ofText
    update := parsed.occurrences.contains .update
    tighten := parsed.occurrences.contains .tighten
    failOnExcess := parsed.failOnExcess?
    showCode := showCode
    format := parsed.format?
    inputFile := parsed.inputFile?.map Path.ofText
    stdin := parsed.stdin
    config := parsed.config?.map Path.ofText
    verbose := parsed.occurrences.contains .verbose
    linterArguments := parsed.linterArguments
  }

end CommandLine

end Tolerance
