import Tolerance.Proofs.Session

namespace Tolerance

/-!
# What a run says on standard error

Besides its report a run logs events, and says what is wrong or what it did in
lines of its own.  All of these are messages on standard error: each step of a
run adds its own to those before, and leaves standard output alone.
-/

open Outcome

namespace CommandLine

variable {Value Result : Type} {before between after : Session}

/-- Something that a run says besides its report. -/
inductive Message where
  | log (event : Log.Event)
  | line (text : Text)
  deriving Repr, DecidableEq

namespace Message

/-- A message as it stands on standard error. -/
def written (threshold : Log.Level) : Message → Text
  | .log event => (event.written threshold).escapeSurrogates
  | .line text => (text ++ "\n").withoutStyles.escapeSurrogates

/-- What a run says before it ends because something is wrong. -/
def complaint (message : Text) : Message :=
  .line ("error: " ++ message)

end Message

/-- Messages as they stand on standard error, one after the other. -/
def transcript (threshold : Log.Level) (messages : List Message) : Text :=
  messages.flatMap (Message.written threshold)

theorem transcript_append
    (threshold : Log.Level)
    (earlier later : List Message) :
    transcript threshold (earlier ++ later) =
      transcript threshold earlier ++ transcript threshold later :=
  List.flatMap_append

/-- These messages were added to standard error, and nothing to standard output. -/
structure Said (messages : List Message) (before after : Session) : Prop where
  threshold : after.threshold = before.threshold
  stderr : after.stderr = before.stderr ++ transcript before.threshold messages
  stdout : after.stdout = before.stdout

namespace Said

variable {earlier later : List Message}

/-- Where both streams are as they were, nothing was said. -/
theorem nothing
    (threshold : after.threshold = before.threshold)
    (stderr : after.stderr = before.stderr)
    (stdout : after.stdout = before.stdout) :
    Said [] before after where
  threshold := threshold
  stderr := stderr.trans (List.append_nil _).symm
  stdout := stdout

theorem append
    (first : Said earlier before between)
    (second : Said later between after) :
    Said (earlier ++ later) before after where
  threshold := second.threshold.trans first.threshold
  stderr := by
    rw [second.stderr, first.stderr, first.threshold, transcript_append,
      List.append_assoc]
  stdout := second.stdout.trans first.stdout

end Said

/-! ## Operations that say something -/

/--
A run ends without a report: abruptly, or with code 2 when the last of its
messages was a complaint.
-/
def EndsSaying
    (complains : List Message → Prop)
    (before : Session)
    (ending : Ending)
    (after : Session) :
    Prop :=
  ending.Abrupt ∧ after.stdout = before.stdout ∨
    ending = .exit exitError ∧
      ∃ messages, complains messages ∧ Said messages before after

/-- An operation adds messages and goes on, or it ends the run without a report. -/
def Says
    (operation : Act Value)
    (before : Session)
    (returns : Value → List Message → Prop)
    (complains : List Message → Prop) :
    Prop :=
  Guarantees operation before
    (fun value after =>
      ∃ messages, returns value messages ∧ Said messages before after)
    (EndsSaying complains before)

namespace Says

variable {operation : Act Value}
  {returns weakerReturns : Value → List Message → Prop}
  {complains weakerComplains : List Message → Prop}

theorem of_run
    {value : Value}
    {messages : List Message}
    (ran : operation.run before = .ok value after)
    (returned : returns value messages)
    (said : Said messages before after) :
    Says operation before returns complains :=
  Guarantees.of_run ran ⟨messages, returned, said⟩

theorem pure
    {value : Value}
    (returned : returns value []) :
    Says (pure value) before returns complains :=
  of_run rfl returned (.nothing rfl rfl rfl)

/-- The messages of the second step come after those of the first one. -/
theorem bind
    {next : Value → Act Result}
    {nextReturns : Result → List Message → Prop}
    (first : Says operation before returns complains)
    (second :
      ∀ value messages between,
        returns value messages →
        Says (next value) between
          (fun result later => nextReturns result (messages ++ later))
          fun later => complains (messages ++ later)) :
    Says (operation >>= next) before nextReturns complains := by
  refine Guarantees.bind (Guarantees.imp first ?_ fun _ _ ended => ended)
  rintro value between ⟨messages, returned, said⟩
  refine Guarantees.imp (second value messages between returned) ?_ ?_
  · rintro result after ⟨later, returnedLater, saidLater⟩
    exact ⟨messages ++ later, returnedLater, said.append saidLater⟩
  · rintro ending after
      (⟨abrupt, unprinted⟩ | ⟨ended, later, complained, saidLater⟩)
    · exact Or.inl ⟨abrupt, unprinted.trans said.stdout⟩
    · exact Or.inr ⟨ended, messages ++ later, complained, said.append saidLater⟩

/-- What comes next is asked with the present state. -/
theorem get_bind
    {next : Session → Act Result}
    {nextReturns : Result → List Message → Prop}
    (second : Says (next before) before nextReturns complains) :
    Says (get >>= next) before nextReturns complains :=
  Guarantees.get_bind second

theorem imp
    (speaks : Says operation before returns complains)
    (onValue :
      ∀ value messages, returns value messages → weakerReturns value messages)
    (onComplaint : ∀ messages, complains messages → weakerComplains messages) :
    Says operation before weakerReturns weakerComplains := by
  refine Guarantees.imp speaks ?_ ?_
  · rintro value after ⟨messages, returned, said⟩
    exact ⟨messages, onValue value messages returned, said⟩
  · rintro ending after (abrupt | ⟨ended, messages, complained, said⟩)
    · exact Or.inl abrupt
    · exact Or.inr ⟨ended, messages, onComplaint messages complained, said⟩

end Says

variable {returns : Value → List Message → Prop}
  {complains : List Message → Prop}

/-- The call of the linter with a command and with arguments behind it. -/
def linterCall (front arguments : List Text) : Linter.Call where
  command := Linter.commandLine front arguments
  directory := linterDirectory

/-- What is said while the linter is called: how its command was found, and how it fared. -/
def callMessages
    (front : List Text)
    (lockFile : Option Path)
    (arguments : List Text)
    (response : Linter.Response) :
    List Message :=
  lockFile.toList.map (fun path => .log (.commandDetected front path)) ++
    .log (.linterStarted (linterCall front arguments)) ::
      match response with
      | .finished _ _ code => [.log (.linterEnded code)]
      | .notStarted _ => []

/-- What is said while linter output is fetched: nothing, unless the linter is called for it. -/
inductive FetchSays
    (workspace : Workspace)
    (request : Request)
    (invocation : Invocation)
    (settings : Settings) :
    List Message → Prop where
  | given
      (elsewhere : invocation.inputFile.isSome = true ∨ invocation.stdin = true) :
      FetchSays workspace request invocation settings []
  | called
      (front : List Text)
      (lockFile : Option Path)
      (noFile : invocation.inputFile = none)
      (noStdin : invocation.stdin = false)
      (chosen :
        Linter.chooseCommand workspace linterDirectory settings.command =
          .ok (front, lockFile)) :
      FetchSays workspace request invocation settings
        (callMessages front lockFile
          (settings.arguments ++ invocation.linterArguments) request.linter)

/-- What is said if the linter cannot be started. -/
inductive FetchComplains
    (workspace : Workspace)
    (request : Request)
    (invocation : Invocation)
    (settings : Settings) :
    List Message → Prop where
  | notStarted
      (front : List Text)
      (lockFile : Option Path)
      (launch : Linter.LaunchFault)
      (noFile : invocation.inputFile = none)
      (noStdin : invocation.stdin = false)
      (chosen :
        Linter.chooseCommand workspace linterDirectory settings.command =
          .ok (front, lockFile))
      (failed :
        Linter.capture
            (linterCall front (settings.arguments ++ invocation.linterArguments))
            request.linter =
          .error launch) :
      FetchComplains workspace request invocation settings
        (callMessages front lockFile
            (settings.arguments ++ invocation.linterArguments) request.linter ++
          [.complaint launch.message])

/-- What is said of an output that is read. -/
def readMessages (output : Linter.Output) : List Message :=
  output.shape.toList.map fun shape =>
    .log (.diagnosticsRead output.diagnostics.length shape)

/-- What is said when a baseline is loaded, or when there is none. -/
def loadMessages (path : Path) : Option Baseline → List Message
  | none => [.log (.baselineMissing path)]
  | some baseline =>
      [.log (.baselineLoaded path baseline.size (Baseline.total baseline))]

end CommandLine

end Tolerance
