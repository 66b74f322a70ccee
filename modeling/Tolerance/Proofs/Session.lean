import Tolerance.Proofs.Outcome
import Tolerance.Proofs.Stages

namespace Tolerance

/-!
# The quiet parts of a run

Until a run saves a baseline or reports what it found, it leaves the files and
standard output alone, whether it goes on or ends.  What it reads it reads from
the files as they were, and only a rejected output and a baseline file that
cannot be used end it with an exit code.
-/

open Outcome

/-- An output that a run rejects in words of its own. -/
def Linter.OutputError.Reported : OutputError → Prop
  | .rejected _ _ _ => True
  | .numeral _ => False
  | .tooDeep _ => False

/-- A failure of the baseline file that a run reports in words of its own. -/
def Baseline.StorageError.Reported : StorageError → Prop
  | .unreadable _ _ => True
  | .corrupt _ _ => True
  | .unwritable _ _ => True
  | .undecodable _ => False
  | .tooDeep _ => False
  | .inaccessible _ => False
  | .numeral _ => False

namespace CommandLine

/-- Neither the files nor standard output have changed. -/
structure Untouched (before after : Session) : Prop where
  workspace : after.workspace = before.workspace
  stdout : after.stdout = before.stdout

instance : Accumulates Untouched where
  refl _ := ⟨rfl, rfl⟩
  trans earlier later :=
    ⟨later.workspace.trans earlier.workspace,
      later.stdout.trans earlier.stdout⟩

/-- A run ends without a code of its own. -/
def Ending.Abrupt (ending : Ending) : Prop :=
  ∀ code, ending ≠ .exit code

/-- A run ends without having done its work. -/
def Ending.Unfinished (ending : Ending) : Prop :=
  ending.Abrupt ∨ ending = .exit exitError

variable {Value Result : Type} {before : Session}

/--
An operation changes nothing that counts, and this is what it says about the
value or the ending.
-/
abbrev Quietly
    (operation : Act Value)
    (before : Session)
    (returns : Value → Prop)
    (fails : Ending → Prop) :
    Prop :=
  Within Untouched operation before returns fails

variable {fails : Ending → Prop}

theorem quietly_modify
    {change : Session → Session}
    (untouched : Untouched before (change before)) :
    Quietly (modify change) before (fun _ => True) fails :=
  ⟨trivial, untouched⟩

theorem quietly_note
    (event : Log.Event) :
    Quietly (note event) before (fun _ => True) fails :=
  quietly_modify ⟨rfl, rfl⟩

theorem quietly_printErrorLine
    (text : Text) :
    Quietly (printErrorLine text) before (fun _ => True) fails :=
  quietly_modify ⟨rfl, rfl⟩

theorem quietly_stopWith
    {returns : Value → Prop}
    (failed : fails (.exit exitError))
    (message : Text) :
    Quietly (stopWith message) before returns fails :=
  .bind (quietly_printErrorLine _) fun _ _ _ _ => .throw failed

theorem quietly_crash
    {returns : Value → Prop}
    (fault : Crash) :
    Quietly (crash fault) before returns Ending.Abrupt :=
  .throw fun _ same => by cases same

theorem quietly_refuseUsage
    {returns : Value → Prop}
    (fault : UsageFault) :
    Quietly (refuseUsage fault) before returns Ending.Abrupt :=
  .throw fun _ same => by cases same

theorem quietly_orCrash
    {Failure : Type}
    (fault : Failure → Crash)
    (answer : Except Failure Value) :
    Quietly (orCrash fault answer) before
      (fun value => answer = .ok value) Ending.Abrupt := by
  unfold orCrash
  split
  · exact .pure rfl
  · exact quietly_crash _

/-! ## Settings -/

theorem quietly_loadSettings
    (file : Option Path) :
    Quietly (loadSettings file) before
      (fun settings =>
        Settings.load before.workspace linterDirectory file = .ok settings)
      Ending.Abrupt := by
  unfold loadSettings
  refine .get_bind ?_
  split
  · next loaded => exact .pure loaded
  · exact quietly_crash _
  · exact quietly_crash _
  · exact quietly_refuseUsage _

/-- The form of a report is the one asked for, or the one in the settings. -/
def FormatChosen
    (invocation : Invocation)
    (settings : Settings)
    (format : ReportFormat) :
    Prop :=
  match invocation.format with
  | some (first :: rest) => ReportFormat.ofName? (first :: rest) = some format
  | _ => format = settings.format

theorem quietly_chooseFormat
    (invocation : Invocation)
    (settings : Settings) :
    Quietly (chooseFormat invocation settings) before
      (FormatChosen invocation settings) Ending.Abrupt := by
  unfold chooseFormat FormatChosen
  rcases invocation.format with _ | _ | ⟨first, rest⟩
  · exact .pure rfl
  · exact .pure rfl
  · dsimp only
    split
    · next named => exact .pure named
    · exact quietly_refuseUsage _

/-! ## Diagnostics -/

/-- Linter output is read, or its error is reported, or the run ends abruptly. -/
theorem quietly_readDiagnostics
    (stdout stderr : Text)
    (room : Nat) :
    Quietly (readDiagnostics stdout stderr room) before
      (fun diagnostics =>
        ∃ output,
          Linter.readOutput stdout stderr room = .ok output ∧
            diagnostics = output.diagnostics)
      (fun ending =>
        ending.Abrupt ∨
          ending = .exit exitError ∧
            ∃ error,
              Linter.readOutput stdout stderr room = .error error ∧
                error.Reported) := by
  unfold readDiagnostics
  split
  · exact (quietly_crash _).imp (fun _ returned => returned) fun _ => Or.inl
  · exact (quietly_crash _).imp (fun _ returned => returned) fun _ => Or.inl
  · next error notNumeral notTooDeep read =>
      refine quietly_stopWith (Or.inr ⟨rfl, error, read, ?_⟩) _
      cases error with
      | rejected _ _ _ => exact trivial
      | numeral fault => exact notNumeral fault rfl
      | tooDeep container => exact notTooDeep container rfl
  · next output read =>
      have returned :
          ∃ read,
            Linter.readOutput stdout stderr room = .ok read ∧
              output.diagnostics = read.diagnostics :=
        ⟨output, read, rfl⟩
      dsimp only
      split
      · exact .bind (quietly_note _) fun _ _ _ _ => .pure returned
      · exact .pure returned

theorem quietly_decodeInput
    (bytes : Bytes) :
    Quietly (decodeInput bytes) before
      (fun text =>
        ∃ decoded,
          Utf8.decode bytes = .ok decoded ∧ text = decoded.unifyLineEndings)
      Ending.Abrupt :=
  .bind (quietly_orCrash _ _) fun decoded _ read _ =>
    .pure ⟨decoded, read, rfl⟩

/-- Linter output is decoded before it is read. -/
theorem quietly_readBytes
    (bytes : Bytes)
    (room : Nat) :
    Quietly (do readDiagnostics (← decodeInput bytes) [] room) before
      (fun diagnostics =>
        ∃ text output,
          Utf8.decode bytes = .ok text ∧
            Linter.readOutput text.unifyLineEndings [] room = .ok output ∧
              diagnostics = output.diagnostics)
      (fun ending =>
        ending.Abrupt ∨
          ending = .exit exitError ∧
            ∃ text error,
              Utf8.decode bytes = .ok text ∧
                Linter.readOutput text.unifyLineEndings [] room = .error error ∧
                  error.Reported) := by
  refine .bind ((quietly_decodeInput bytes).imp (fun _ read => read)
    fun _ => Or.inl) ?_
  rintro _ between ⟨text, decoded, rfl⟩ _
  refine (quietly_readDiagnostics _ _ _).imp ?_ ?_
  · rintro diagnostics ⟨output, read, same⟩
    exact ⟨text, output, decoded, read, same⟩
  · rintro ending (abrupt | ⟨same, error, read, reported⟩)
    · exact Or.inl abrupt
    · exact Or.inr ⟨same, text, error, decoded, read, reported⟩

private theorem quietly_callLinter
    (response : Linter.Response)
    (command : Option (List Text))
    (arguments : List Text) :
    Quietly (callLinter response command arguments) before
      (fun _ => True) Ending.Unfinished := by
  unfold callLinter
  have quietCommand :
      Quietly (linterCommand command) before (fun _ => True)
        Ending.Unfinished := by
    unfold linterCommand
    refine .get_bind ?_
    refine .bind ((quietly_orCrash _ _).imp (fun _ _ => trivial)
      fun _ => Or.inl) ?_
    rintro ⟨chosen, lockFile⟩ between - -
    dsimp only
    split
    · exact .bind (quietly_note _) fun _ _ _ _ => .pure trivial
    · exact .pure trivial
  refine .bind quietCommand fun front _ _ _ => ?_
  refine .bind (quietly_note _) fun _ _ _ _ => ?_
  refine .bind (quietly_modify ⟨rfl, rfl⟩) fun _ _ _ _ => ?_
  split
  · exact quietly_stopWith (Or.inr rfl) _
  · exact .bind (quietly_note _) fun _ _ _ _ => .pure trivial

/-- Nothing is changed or printed while linter output is fetched. -/
theorem quietly_fetchOutput
    (request : Request)
    (invocation : Invocation)
    (settings : Settings) :
    Quietly (fetchOutput request invocation settings) before
      (fun _ => True) Ending.Unfinished := by
  have quietDecode (bytes : Bytes) {between : Session} :
      Quietly (do return (← decodeInput bytes, ([] : Text))) between
        (fun _ => True) Ending.Unfinished :=
    .bind ((quietly_decodeInput bytes).imp (fun _ _ => trivial) fun _ => Or.inl)
      fun _ _ _ _ => .pure trivial
  unfold fetchOutput
  split
  · refine .get_bind ?_
    split
    · exact (quietly_refuseUsage _).imp (fun _ returned => returned) fun _ => Or.inl
    · exact (quietly_crash _).imp (fun _ returned => returned) fun _ => Or.inl
    · exact quietDecode _
  split
  · exact quietDecode _
  · exact
      .bind (quietly_callLinter _ _ _) fun _ _ _ _ => .pure trivial

/-- Nothing is changed or printed while diagnostics are collected. -/
theorem quietly_collectDiagnostics
    (request : Request)
    (invocation : Invocation)
    (settings : Settings) :
    Quietly (collectDiagnostics request invocation settings) before
      (fun _ => True) (fun _ => True) := by
  rw [collectDiagnostics_eq]
  exact
    .bind (quietly_fetchOutput _ _ _).anyhow fun _ _ _ _ =>
      (quietly_readDiagnostics _ _ _).anyhow

/-- Diagnostics from standard input are read without calling the linter. -/
theorem collectDiagnostics_of_stdin
    {request : Request}
    {invocation : Invocation}
    {settings : Settings}
    (noFile : invocation.inputFile = none)
    (fromStdin : invocation.stdin = true) :
    collectDiagnostics request invocation settings =
      (do
        readDiagnostics (← decodeInput request.stdin) [] request.machine.inputRoom) := by
  rw [collectDiagnostics, noFile]
  exact if_pos fromStdin

/-! ## The baseline -/

/-- A failure of the baseline file ends the run, with code 2 if it is reported. -/
theorem quietly_stopForStorage
    {returns : Value → Prop}
    (error : Baseline.StorageError) :
    Quietly (stopForStorage error) before returns
      (fun ending =>
        ending.Abrupt ∨ ending = .exit exitError ∧ error.Reported) := by
  have crashes
      (fault : Crash) :
      Quietly (crash fault : Act Value) before returns
        (fun ending =>
          ending.Abrupt ∨ ending = .exit exitError ∧ error.Reported) :=
    (quietly_crash fault).imp (fun _ returned => returned) fun _ => Or.inl
  cases error with
  | unreadable path fault =>
      exact quietly_stopWith (Or.inr ⟨rfl, trivial⟩) _
  | corrupt path fault =>
      exact quietly_stopWith (Or.inr ⟨rfl, trivial⟩) _
  | unwritable path fault =>
      exact quietly_stopWith (Or.inr ⟨rfl, trivial⟩) _
  | undecodable fault => exact crashes _
  | tooDeep container => exact crashes _
  | inaccessible fault => exact crashes _
  | numeral fault => exact crashes _

/-- A baseline is loaded, or its error is reported, or the run ends abruptly. -/
theorem quietly_loadBaseline
    (path : Path)
    (room : Baseline.Room) :
    Quietly (loadBaseline path room) before
      (fun baseline => Baseline.load before.workspace path room = .ok baseline)
      (fun ending =>
        ending.Abrupt ∨
          ending = .exit exitError ∧
            ∃ error,
              Baseline.load before.workspace path room = .error error ∧
                error.Reported) := by
  unfold loadBaseline Baseline.load
  refine .get_bind ?_
  cases Baseline.loadFile? before.workspace path room with
  | error error =>
      refine (quietly_stopForStorage error).imp (fun _ returned => returned) ?_
      rintro ending (abrupt | ⟨same, reported⟩)
      · exact Or.inl abrupt
      · exact Or.inr ⟨same, error, rfl, reported⟩
  | ok found =>
      cases found with
      | none =>
          exact .bind (quietly_note _) fun _ _ _ _ => .pure rfl
      | some baseline =>
          exact .bind (quietly_note _) fun _ _ _ _ => .pure rfl

/-! ## The whole run -/

/-- What a run settles is what options, environment and settings amount to. -/
theorem quietly_settle
    (request : Request)
    (invocation : Invocation) :
    Quietly (settle request invocation) before
      (fun settled =>
        ∃ format,
          Settings.load before.workspace linterDirectory invocation.config =
              .ok settled.1 ∧
            FormatChosen invocation settled.1 format ∧
              (invocation.inputFile.isSome && invocation.stdin) = false ∧
                settled.2 =
                  planOf invocation settled.1
                    (Switches.ofEnvironment request.environment) format
                    request.machine)
      Ending.Abrupt := by
  unfold settle
  refine .bind (quietly_orCrash _ _) fun threshold between _ first => ?_
  refine .bind (quietly_modify ⟨rfl, rfl⟩) fun _ _ _ second => ?_
  have untouched := Accumulates.trans first second
  refine .bind (quietly_loadSettings _) fun settings _ loaded _ => ?_
  rw [untouched.workspace] at loaded
  refine .bind (quietly_chooseFormat _ _) fun format _ chosen _ => ?_
  dsimp only
  split
  · exact .bind (quietly_refuseUsage _) fun _ _ impossible _ => False.elim impossible
  · next oneInput =>
      exact
        .pure ⟨format, loaded, chosen, Bool.eq_false_iff.mpr oneInput, rfl⟩

/--
A run weighs its options first, and changes nothing until it has diagnostics.
What it guarantees is what it does from then on, if an abrupt end before is
allowed for.
-/
theorem guarantees_perform
    {request : Request}
    {invocation : Invocation}
    {returns : Unit → Session → Prop}
    {endings : Ending → Session → Prop}
    (abrupt :
      ∀ ending after,
        ending.Abrupt → Untouched before after → endings ending after)
    (finishes :
      ∀ settings format between,
        Untouched before between →
        Settings.load before.workspace linterDirectory invocation.config =
          .ok settings →
        FormatChosen invocation settings format →
        (invocation.inputFile.isSome && invocation.stdin) = false →
        let plan :=
          planOf invocation settings
            (Switches.ofEnvironment request.environment) format request.machine
        Guarantees
          (do
            let diagnostics ← collectDiagnostics request invocation settings
            if plan.update then
              updateBaseline plan diagnostics
            else
              checkBaseline plan (inputName invocation) diagnostics)
          between returns endings) :
    Guarantees (perform request invocation) before returns endings := by
  rw [perform_eq]
  refine Within.andThen (quietly_settle request invocation) abrupt ?_
  rintro ⟨settings, plan⟩ between ⟨format, loaded, chosen, oneInput, same⟩
    untouched
  dsimp only at same
  subst same
  exact finishes settings format between untouched loaded chosen oneInput

/-- What is guaranteed of both outcomes holds of the ending of a run. -/
theorem guarantees_run
    {workspace : Workspace}
    {request : Request}
    {statement : Ending → Session → Prop}
    (guarantees :
      Guarantees (act request) { workspace := workspace }
        (fun _ after => statement (.exit exitOk) after) statement) :
    statement (run workspace request).ending
      (run workspace request).session := by
  unfold run
  cases ran : (act request).run { workspace := workspace } with
  | ok _ after =>
      rw [show act request { workspace := workspace } = _ from ran]
      exact guarantees.of_run_eq_ok ran
  | error ending after =>
      rw [show act request { workspace := workspace } = _ from ran]
      exact guarantees.of_run_eq_error ran

end CommandLine

end Tolerance
