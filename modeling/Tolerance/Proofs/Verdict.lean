import Tolerance.Proofs.Excess
import Tolerance.Proofs.Printing
import Tolerance.Proofs.Storage

namespace Tolerance

/-!
# The verdict of a check

A check that revises nothing ends with a code only in three ways: the linter
output is rejected, the baseline file cannot be used, or the two were compared.
The codes of these ways tell what was found.
-/

open Outcome

namespace Baseline

open Diagnostic

/-- More was seen of some rule in some file than is tolerated. -/
def Exceeded (baseline : Baseline) (diagnostics : List Diagnostic) : Prop :=
  ∃ filename rule,
    baseline.count filename rule < occurrences diagnostics filename rule

/-- Nothing is reported exactly if nothing was seen more often than tolerated. -/
theorem excess_isEmpty_iff
    {baseline : Baseline}
    (nonnegative : baseline.Nonnegative)
    (diagnostics : List Diagnostic) :
    (baseline.excess diagnostics).isEmpty = true ↔
      ¬baseline.Exceeded diagnostics := by
  rw [List.isEmpty_iff, excess_eq_nil_iff nonnegative]
  simp [Exceeded]

end Baseline

namespace CommandLine

/-- Options, environment and settings amount to this plan. -/
inductive Planned
    (workspace : Workspace)
    (request : Request)
    (invocation : Invocation) :
    Plan → Prop where
  | weighed
      (settings : Settings)
      (format : ReportFormat)
      (loaded :
        Settings.load workspace linterDirectory invocation.config =
          .ok settings)
      (chosen : FormatChosen invocation settings format) :
      Planned workspace request invocation
        (planOf invocation settings
          (Switches.ofEnvironment request.environment) format request.machine)

/-- The code of a check that compared what was seen with the baseline. -/
def comparedCode (plan : Plan) (groups : List Excess) : Nat :=
  if !groups.isEmpty && plan.failOnExcess then exitExcess else exitOk

/-- A run fails exactly if there is an excess and an excess is to fail it. -/
theorem comparedCode_cases
    {baseline : Baseline}
    (plan : Plan)
    (nonnegative : baseline.Nonnegative)
    (diagnostics : List Diagnostic) :
    (plan.failOnExcess = true ∧ baseline.Exceeded diagnostics) ∧
        comparedCode plan (baseline.excess diagnostics) = exitExcess ∨
      ¬(plan.failOnExcess = true ∧ baseline.Exceeded diagnostics) ∧
        comparedCode plan (baseline.excess diagnostics) = exitOk := by
  have failsIff :
      (!(baseline.excess diagnostics).isEmpty && plan.failOnExcess) = true ↔
        plan.failOnExcess = true ∧ baseline.Exceeded diagnostics := by
    rw [Bool.and_eq_true, Bool.not_eq_true', ← Bool.not_eq_true,
      Baseline.excess_isEmpty_iff nonnegative, not_not, and_comm]
  by_cases fails : plan.failOnExcess = true ∧ baseline.Exceeded diagnostics
  · exact Or.inl ⟨fails, if_pos (failsIff.mpr fails)⟩
  · exact Or.inr ⟨fails, if_neg fun other => fails (failsIff.mp other)⟩

/-- The ways in which a check of the given linter output ends with a code. -/
inductive CheckEnds
    (output : Except Linter.OutputError Linter.Output)
    (plan : Plan)
    (source : Text)
    (before after : Session) :
    Nat → Prop where
  | rejected
      (error : Linter.OutputError)
      (refused : output = .error error)
      (reported : error.Reported)
      (untouched : Untouched before after) :
      CheckEnds output plan source before after exitError
  | unloaded
      (read : Linter.Output)
      (accepted : output = .ok read)
      (error : Baseline.StorageError)
      (refused :
        Baseline.load before.workspace plan.store plan.machine.checkRoom =
          .error error)
      (reported : error.Reported)
      (untouched : Untouched before after) :
      CheckEnds output plan source before after exitError
  | compared
      (read : Linter.Output)
      (accepted : output = .ok read)
      (baseline : Baseline)
      (loaded :
        Baseline.load before.workspace plan.store plan.machine.checkRoom =
          .ok baseline)
      (workspace : after.workspace = before.workspace)
      (printed : Text)
      (announced :
        Announced plan source (baseline.excess read.diagnostics) printed)
      (stdout : after.stdout = before.stdout ++ printed) :
      CheckEnds output plan source before after
        (comparedCode plan (baseline.excess read.diagnostics))

/-- What went before quietly does not matter. -/
theorem CheckEnds.of_untouched
    {output : Except Linter.OutputError Linter.Output}
    {plan : Plan}
    {source : Text}
    {before between after : Session}
    {code : Nat}
    (earlier : Untouched before between)
    (ends : CheckEnds output plan source between after code) :
    CheckEnds output plan source before after code := by
  cases ends with
  | rejected error refused reported untouched =>
      exact
        .rejected error refused reported (Accumulates.trans earlier untouched)
  | unloaded read accepted error refused reported untouched =>
      rw [earlier.workspace] at refused
      exact
        .unloaded read accepted error refused reported
          (Accumulates.trans earlier untouched)
  | compared read accepted baseline loaded workspace printed announced stdout =>
      rw [earlier.workspace] at loaded
      exact
        .compared read accepted baseline loaded
          (workspace.trans earlier.workspace) printed announced
          (by rw [stdout, earlier.stdout])

/-- A check without tightening compares, or it cannot load the baseline. -/
theorem guarantees_checkBaseline
    {before : Session}
    {plan : Plan}
    (noTighten : plan.tighten = false)
    (source : Text)
    (read : Linter.Output) :
    Guarantees (checkBaseline plan source read.diagnostics) before
      (fun _ after =>
        CheckEnds (.ok read) plan source before after exitOk)
      (fun ending after =>
        ∀ code, ending = .exit code →
          CheckEnds (.ok read) plan source before after code) := by
  unfold checkBaseline
  refine Within.andThen (quietly_loadBaseline plan.store _) ?_ ?_
  · rintro ending after (abrupt | ⟨rfl, error, refused, reported⟩) untouched code
      same
    · exact (abrupt code same).elim
    · cases same
      exact .unloaded read rfl error refused reported untouched
  intro baseline between loaded first
  dsimp only
  refine Within.andThen (quietly_note _)
    (fun _ _ impossible _ => False.elim impossible) fun _ later _ second => ?_
  have untouched := Accumulates.trans first second
  rw [if_neg (by simp [noTighten])]
  refine Guarantees.bind
    (Guarantees.imp (guarantees_reportExcess plan source _) ?_ ?_)
  · rintro _ after ⟨sameWorkspace, printed, announced, stdout⟩
    have compared :
        CheckEnds (.ok read) plan source before after
          (comparedCode plan (baseline.excess read.diagnostics)) :=
      .compared read rfl baseline loaded
        (sameWorkspace.trans untouched.workspace) printed announced
        (by rw [stdout, untouched.stdout])
    unfold comparedCode at compared
    split
    · next failed =>
        rw [if_pos failed] at compared
        rintro code ⟨⟩
        exact compared
    · next passed =>
        rw [if_neg passed] at compared
        exact compared
  · rintro ending after ⟨unprinted, _⟩ code same
    exact (unprinted.abrupt code same).elim

/-- If a check ends with a code there are a plan, an output and a way to it. -/
def CheckVerdict
    (request : Request)
    (invocation : Invocation)
    (before : Session)
    (ending : Ending)
    (after : Session) :
    Prop :=
  ∀ code,
    ending = .exit code →
    ∃ plan text,
      Planned before.workspace request invocation plan ∧
        Utf8.decode request.stdin = .ok text ∧
          CheckEnds
            (Linter.readOutput text.unifyLineEndings []
              request.machine.inputRoom)
            plan "stdin" before after code

/-- A check of standard input that ends with a code ends in one of three ways. -/
theorem guarantees_perform_check
    {request : Request}
    {invocation : Invocation}
    {before : Session}
    (fromStdin : invocation.stdin = true)
    (noUpdate :
      (invocation.update ||
        (Switches.ofEnvironment request.environment).update) = false)
    (noTighten :
      (invocation.tighten ||
        (Switches.ofEnvironment request.environment).tighten) = false) :
    Guarantees (perform request invocation) before
      (fun _ after =>
        CheckVerdict request invocation before (.exit exitOk) after)
      (CheckVerdict request invocation before) := by
  refine guarantees_perform
    (fun ending _ abrupt _ code same => (abrupt code same).elim) ?_
  intro settings format between first loaded chosen oneInput
  have noFile : invocation.inputFile = none := by
    simpa [fromStdin] using oneInput
  have source : inputName invocation = "stdin" := by
    rw [inputName, noFile]
    exact if_pos fromStdin
  have planned :
      Planned before.workspace request invocation
        (planOf invocation settings
          (Switches.ofEnvironment request.environment) format request.machine) :=
    .weighed settings format loaded chosen
  dsimp only
  rw [collectDiagnostics_of_stdin noFile fromStdin, source]
  refine Within.andThen (quietly_readBytes request.stdin _) ?_ ?_
  · rintro ending after
      (abrupt | ⟨rfl, text, error, decoded, refused, reported⟩) second code same
    · exact (abrupt code same).elim
    · cases same
      exact
        ⟨_, text, planned, decoded,
          .rejected error refused reported (Accumulates.trans first second)⟩
  · rintro _ later ⟨text, output, decoded, read, rfl⟩ second
    have untouched := Accumulates.trans first second
    rw [if_neg (by simp [planOf, noUpdate])]
    refine Guarantees.imp (guarantees_checkBaseline noTighten "stdin" output)
      ?_ ?_
    · rintro _ after ends _ ⟨⟩
      exact
        ⟨_, text, planned, decoded, read ▸ ends.of_untouched untouched⟩
    · intro ending after ends code same
      exact
        ⟨_, text, planned, decoded,
          read ▸ (ends code same).of_untouched untouched⟩

/-- A run that checks standard input ends in one of three ways, if with a code. -/
theorem checkVerdict_run
    {workspace : Workspace}
    {request : Request}
    {parsed : Parsed}
    {invocation : Invocation}
    (understood : parse request.arguments = .ok parsed)
    (noNotice : parsed.notice? = none)
    (asked : CommandLine.invocation parsed = .ok invocation)
    (fromStdin : invocation.stdin = true)
    (noUpdate :
      (invocation.update ||
        (Switches.ofEnvironment request.environment).update) = false)
    (noTighten :
      (invocation.tighten ||
        (Switches.ofEnvironment request.environment).tighten) = false) :
    CheckVerdict request invocation { workspace := workspace }
      (run workspace request).ending (run workspace request).session := by
  have guaranteed :
      Guarantees (perform request invocation) { workspace := workspace } _ _ :=
    guarantees_perform_check fromStdin noUpdate noTighten
  rw [← act_eq_perform understood noNotice asked] at guaranteed
  exact guarantees_run guaranteed

/--
Standard output tells, in the form of the report, whether nothing is in excess.
-/
def TellsWhetherClean
    (format : ReportFormat)
    (stdout : Text)
    (clean : Prop) :
    Prop :=
  match format with
  | .human => stdout = "All errors are suppressed\n" ↔ clean
  | .json =>
      ∃ fields listed report,
        Report.machine (.object fields) = .ok report ∧
          Json.field? "excess" fields = some (.array listed) ∧
            stdout = report ++ "\n" ∧ (listed = [] ↔ clean)

theorem tellsWhetherClean_of_announced
    {plan : Plan}
    {source printed : Text}
    {groups : List Excess}
    {clean : Prop}
    (announced : Announced plan source groups printed)
    (cleanIff : groups.isEmpty = true ↔ clean) :
    TellsWhetherClean plan.format printed clean := by
  unfold Announced at announced
  unfold TellsWhetherClean
  generalize plan.format = format at announced ⊢
  cases format with
  | human =>
      rw [show printed = _ from announced, ← cleanIff]
      cases groups.isEmpty <;> decide
  | json =>
      obtain ⟨report, wrote, same⟩ := announced
      refine ⟨_, groups.map Report.excessToJson, report, wrote, rfl, same, ?_⟩
      rw [← cleanIff, List.map_eq_nil_iff, List.isEmpty_iff]

/--
A check of linter output from standard input that revises nothing, neither by an
option nor by the environment, and ends with a code, ends with 2 exactly if the
output is rejected or the baseline file cannot be used, with 1 exactly if an
excess fails the run and more was seen of some rule in some file than is
tolerated, and with 0 otherwise.  If output and baseline were read, standard
output tells whether there is such a pair.  No file is created, changed or
deleted.
-/
theorem check_ends_with_verdict
    {workspace : Workspace}
    {request : Request}
    {parsed : Parsed}
    {invocation : Invocation}
    {code : Nat}
    (understood : parse request.arguments = .ok parsed)
    (noNotice : parsed.notice? = none)
    (asked : CommandLine.invocation parsed = .ok invocation)
    (fromStdin : invocation.stdin = true)
    (noUpdate :
      (invocation.update ||
        (Switches.ofEnvironment request.environment).update) = false)
    (noTighten :
      (invocation.tighten ||
        (Switches.ofEnvironment request.environment).tighten) = false)
    (ended : (run workspace request).ending = .exit code) :
    ∃ plan text,
      Planned workspace request invocation plan ∧
        Utf8.decode request.stdin = .ok text ∧
          let output :=
            Linter.readOutput text.unifyLineEndings [] request.machine.inputRoom
          let loaded :=
            Baseline.load workspace plan.store plan.machine.checkRoom
          let after := (run workspace request).session
          (code = exitError ↔
              (∃ error, output = .error error ∧ error.Reported) ∨
                ∃ error, loaded = .error error ∧ error.Reported) ∧
            (code = exitExcess ↔
              ∃ read baseline,
                output = .ok read ∧
                  loaded = .ok baseline ∧
                    plan.failOnExcess = true ∧
                      baseline.Exceeded read.diagnostics) ∧
              (code = exitOk ↔
                ∃ read baseline,
                  output = .ok read ∧
                    loaded = .ok baseline ∧
                      ¬(plan.failOnExcess = true ∧
                        baseline.Exceeded read.diagnostics)) ∧
                (∀ read baseline,
                  output = .ok read →
                  loaded = .ok baseline →
                  TellsWhetherClean plan.format after.stdout
                    (¬baseline.Exceeded read.diagnostics)) ∧
                  after.workspace = workspace := by
  obtain ⟨plan, text, planned, decoded, ends⟩ :=
    checkVerdict_run understood noNotice asked fromStdin noUpdate noTighten code
      ended
  refine ⟨plan, text, planned, decoded, ?_⟩
  dsimp only
  generalize
    Linter.readOutput text.unifyLineEndings [] request.machine.inputRoom =
      output at ends ⊢
  generalize (run workspace request).session = after at ends ⊢
  cases ends with
  | rejected error refused reported untouched =>
      subst refused
      simp [exitError, exitExcess, exitOk, reported, untouched.workspace]
  | unloaded read accepted error refused reported untouched =>
      subst accepted
      rw [refused]
      simp [exitError, exitExcess, exitOk, reported, untouched.workspace]
  | compared read accepted baseline loaded sameWorkspace printed announced
      stdout =>
      subst accepted
      rw [loaded]
      have nonnegative := Baseline.nonnegative_of_load loaded
      have tells :=
        tellsWhetherClean_of_announced announced
          (Baseline.excess_isEmpty_iff nonnegative read.diagnostics)
      rw [← stdout.trans (List.nil_append printed)] at tells
      rcases comparedCode_cases plan nonnegative read.diagnostics with
        ⟨failed, codeIs⟩ | ⟨passed, codeIs⟩
      · rw [codeIs]
        simpa [exitError, exitExcess, exitOk, failed, sameWorkspace] using
          tells
      · rw [codeIs]
        simpa [exitError, exitExcess, exitOk, passed, sameWorkspace] using
          And.intro (not_and.mp passed) tells

/--
A violation that no baseline tolerates fails a check of standard input.
-/
theorem untolerated_violation_fails :
    let workspace := Workspace.fresh "/w" ["t"]
    let output : Text :=
      "\x7b\"diagnostics\": [\x7b\"filename\": \"a.ts\", \"code\": \"no-var\"\x7d]\x7d"
    let request : Request := {
      arguments := ["--stdin", "--format", "json"]
      stdin := output.flatMap Utf8.encodePoint
    }
    let parsed : Parsed := {
      occurrences := [.stdin true, .format "json"]
    }
    let invocation : Invocation := { stdin := true, format := some "json" }
    parse request.arguments = .ok parsed ∧
      parsed.notice? = none ∧
        CommandLine.invocation parsed = .ok invocation ∧
          (run workspace request).ending = .exit exitExcess ∧
            (run workspace request).session.workspace = workspace ∧
              ∃ plan read baseline,
                Planned workspace request invocation plan ∧
                  Baseline.load workspace plan.store plan.machine.checkRoom =
                      .ok baseline ∧
                    baseline.Exceeded (Linter.Output.diagnostics read) := by
  intro workspace output request parsed invocation
  have understood : parse request.arguments = .ok parsed := by decide +kernel
  have noNotice : parsed.notice? = none := by decide
  have asked : CommandLine.invocation parsed = .ok invocation := by
    decide +kernel
  have ended : (run workspace request).ending = .exit exitExcess := by
    decide +kernel
  obtain ⟨plan, text, planned, _, _, fails, _, _, unchanged⟩ :=
    check_ends_with_verdict understood noNotice asked rfl (by decide)
      (by decide) ended
  obtain ⟨read, baseline, _, loaded, _, exceeded⟩ := fails.mp rfl
  exact
    ⟨understood, noNotice, asked, ended, unchanged, plan, read, baseline,
      planned, loaded, exceeded⟩

end CommandLine

end Tolerance
