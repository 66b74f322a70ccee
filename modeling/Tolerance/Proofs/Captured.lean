import Tolerance.Proofs.Channels
import Tolerance.Proofs.Fallback
import Tolerance.Proofs.Refusal
import Tolerance.Proofs.Verdict

namespace Tolerance

/-!
# Captured output

A check of linter output in a file gives its verdict as soon as the output is
read and the baseline is loaded.  What such a check cannot read it refuses, but
for bytes that are no text, and for text that the JSON reader stops at without a
fault of its own.
-/

open Outcome

namespace CommandLine

/-! ## The file that is given -/

/-- Values of which all are checked are checked one by one. -/
theorem checkValue_of_checkValues
    {parsed : Parsed}
    {occurrences : List Occurrence}
    (checked : checkValues parsed occurrences = .ok ())
    {occurrence : Occurrence}
    (member : occurrence ∈ occurrences) :
    checkValue parsed occurrence = .ok () := by
  induction occurrences with
  | nil =>
      cases member
  | cons first rest inductionHypothesis =>
      obtain ⟨_, firstChecked, restChecked⟩ := bind_eq_ok_iff.mp checked
      rcases List.mem_cons.mp member with rfl | inRest
      · exact firstChecked
      · exact inductionHypothesis restChecked inRest

/-- The value of an option that counts comes from one of its uses. -/
theorem mem_of_inputFile?
    {parsed : Parsed}
    {text : Text}
    (given : parsed.inputFile? = some text) :
    .inputFile text ∈ parsed.occurrences := by
  obtain ⟨occurrence, member, picked⟩ :=
    List.exists_of_findSome?_eq_some given
  cases occurrence with
  | inputFile path =>
      cases picked
      exact List.mem_reverse.mp member
  | _ =>
      cases picked

/-- What is asked to be read is a path that can be looked up. -/
theorem accepted_of_invocation
    {parsed : Parsed}
    {invocation : Invocation}
    (asked : CommandLine.invocation parsed = .ok invocation)
    {path : Path}
    (fromFile : invocation.inputFile = some path) :
    path.Accepted := by
  obtain ⟨_, checked, rest⟩ := bind_eq_ok_iff.mp asked
  obtain ⟨_, _, made⟩ := bind_eq_ok_iff.mp rest
  cases made
  obtain ⟨text, given, rfl⟩ := Option.map_eq_some_iff.mp fromFile
  have textChecked :=
    checkValue_of_checkValues checked (mem_of_inputFile? given)
  rw [checkValue, given] at textChecked
  exact Path.accepted_ofText_iff.mpr (checkPath_eq_ok_iff.mp textChecked)

variable {workspace : Workspace}
  {request : Request}
  {plan : Plan}
  {path : Path}
  {session before : Session}
  {baseline : Baseline}

/-- A plan to check for people, without sources, and to revise nothing. -/
structure Plan.Plain (plan : Plan) : Prop where
  check : plan.update = false
  noTighten : plan.tighten = false
  human : plan.format = .human
  noSource : plan.showCode = 0

/-- A run has settled what to do and comes to the file that it is given. -/
inductive ComesToFile
    (workspace : Workspace)
    (request : Request)
    (path : Path)
    (plan : Plan)
    (session : Session) :
    Prop where
  | reached
      (parsed : Parsed)
      (invocation : Invocation)
      (settings : Settings)
      (understood : parse request.arguments = .ok parsed)
      (noNotice : parsed.notice? = none)
      (asked : CommandLine.invocation parsed = .ok invocation)
      (fromFile : invocation.inputFile = some path)
      (settled :
        (settle request invocation).run { workspace := workspace } =
          .ok (settings, plan) session) :
      ComesToFile workspace request path plan session

namespace ComesToFile

theorem untouched
    (comes : ComesToFile workspace request path plan session) :
    Untouched { workspace := workspace } session := by
  obtain ⟨_, invocation, _, _, _, _, _, settled⟩ := comes
  exact ((quietly_settle request invocation).of_run_eq_ok settled).2

theorem accepted
    (comes : ComesToFile workspace request path plan session) :
    path.Accepted := by
  obtain ⟨_, _, _, _, _, asked, fromFile, _⟩ := comes
  exact accepted_of_invocation asked fromFile

/-- A run whose file holds text comes to read it. -/
theorem fetched
    {bytes : Bytes}
    {text : Text}
    (comes : ComesToFile workspace request path plan session)
    (found : workspace.readFile path = .ok bytes)
    (decoded : Utf8.decode bytes = .ok text) :
    Fetched workspace request plan text.unifyLineEndings []
      request.machine.inputRoom session := by
  have sameFiles := comes.untouched.workspace
  obtain ⟨parsed, invocation, settings, understood, noNotice, asked, fromFile,
      settled⟩ := comes
  refine .reached parsed invocation settings session understood noNotice asked
    settled ?_ ?_
  · rw [run_fetchOutput_of_file fromFile, sameFiles, found]
    simp only [takeContents, decodeInput, orCrash, decoded, pure_bind]
    rfl
  · rw [Request.outputRoom, fromFile]

/-- A run that cannot go on with the contents of the file ends there. -/
private theorem run_eq_of_stops
    {contents : Except AccessFault Bytes}
    {ending : Ending}
    (comes : ComesToFile workspace request path plan session)
    (found : workspace.readFile path = contents)
    (failed : (takeContents contents).run session = .error ending session) :
    run workspace request = { ending := ending, session := session } := by
  have sameFiles := comes.untouched.workspace
  obtain ⟨_, _, settings, understood, noNotice, asked, fromFile, settled⟩ := comes
  apply run_eq_of_error
  rw [act_eq_perform understood noNotice asked, perform_eq,
    run_bind_of_ok settled]
  dsimp only
  rw [collectDiagnostics_eq, bind_assoc]
  apply run_bind_of_error
  rw [run_fetchOutput_of_file fromFile, sameFiles, found, failed]

/-- A file that cannot be read is named as the fault of the option. -/
theorem run_eq_of_refused
    {fault : AccessFault}
    (comes : ComesToFile workspace request path plan session)
    (refused : workspace.readFile path = .error fault) :
    ∃ refusal,
      fault = .system refusal ∧
        run workspace request =
          { ending := .usage (.inputFile refusal), session := session } := by
  obtain ⟨refusal, rfl⟩ :=
    Workspace.fromSystem_of_readFile_eq_error refused comes.accepted
  exact ⟨refusal, rfl, comes.run_eq_of_stops refused rfl⟩

/-- Bytes that are no text end the run without a word. -/
theorem run_eq_of_undecodable
    {bytes : Bytes}
    {fault : Utf8.DecodeFault}
    (comes : ComesToFile workspace request path plan session)
    (found : workspace.readFile path = .ok bytes)
    (noText : Utf8.decode bytes = .error fault) :
    run workspace request =
      { ending := .crash (.undecodable fault), session := session } := by
  refine comes.run_eq_of_stops found ?_
  simp only [takeContents, decodeInput, orCrash, noText]
  rfl

end ComesToFile

/-! ## What is read -/

variable {stdout stderr : Text}
  {room : Nat}
  {output : Linter.Output}
  {error : Linter.OutputError}

/-- Output that is rejected with words of its own ends the run with an error line. -/
theorem Fetched.refuses
    (fetched : Fetched workspace request plan stdout stderr room session)
    (refused : Linter.readOutput stdout stderr room = .error error)
    (reported : error.Reported) :
    ∃ rest,
      Refuses workspace session "Failed to parse linter output: " rest
        (run workspace request) := by
  cases error with
  | rejected fault listed complaint =>
      refine
        ⟨fault.message ++ "\nStdout: " ++ listed ++ "\nStderr: " ++ complaint,
          refuses_of_stopWith (by decide) fetched.untouched ?_ fetched.run_eq⟩
      simp [readDiagnostics, refused, Linter.OutputError.message,
        List.append_assoc]
  | numeral fault => cases reported
  | tooDeep container => cases reported

/-- Output that the JSON reader stops at otherwise ends the run without a word. -/
theorem Fetched.crashes
    (fetched : Fetched workspace request plan stdout stderr room session)
    (refused : Linter.readOutput stdout stderr room = .error error)
    (unreported : ¬error.Reported) :
    Crashes workspace session error.message (run workspace request) := by
  cases error with
  | rejected fault listed complaint => exact (unreported trivial).elim
  | numeral fault =>
      refine crashes_of_crash (.numeral fault) fetched.untouched ?_ fetched.run_eq
      simp only [readDiagnostics, refused]
  | tooDeep container =>
      refine
        crashes_of_crash (.deepJson container) fetched.untouched ?_ fetched.run_eq
      simp only [readDiagnostics, refused]

theorem exists_run_readDiagnostics
    (before : Session)
    (read : Linter.readOutput stdout stderr room = .ok output) :
    ∃ after,
      Untouched before after ∧
        (readDiagnostics stdout stderr room).run before =
          .ok output.diagnostics after := by
  unfold readDiagnostics
  rw [read]
  dsimp only
  cases output.shape with
  | none =>
      refine ⟨_, ?_, rfl⟩
      exact ⟨rfl, rfl⟩
  | some shape =>
      refine ⟨_, ?_, rfl⟩
      exact ⟨rfl, rfl⟩

theorem exists_run_loadBaseline
    {room : Baseline.Room}
    (loaded : Baseline.load before.workspace path room = .ok baseline) :
    ∃ after,
      Untouched before after ∧
        (loadBaseline path room).run before = .ok baseline after := by
  unfold Baseline.load at loaded
  cases found : Baseline.loadFile? before.workspace path room with
  | error error =>
      rw [found] at loaded
      cases loaded
  | ok listed =>
      rw [found] at loaded
      cases loaded
      simp only [loadBaseline, EStateM.run_bind, EStateM.run_get, found]
      cases listed with
      | none =>
          refine ⟨_, ?_, rfl⟩
          exact ⟨rfl, rfl⟩
      | some baseline =>
          refine ⟨_, ?_, rfl⟩
          exact ⟨rfl, rfl⟩

/-! ## The verdict -/

/-- What is left of a check when it is known what is in excess. -/
def giveVerdict (plan : Plan) (source : Text) (groups : List Excess) : Act Unit := do
  reportExcess plan source groups
  if !groups.isEmpty && plan.failOnExcess then
    throw (.exit exitExcess)

/-- A report without sources can be written exactly if its counts can be. -/
theorem exists_human_of_noSource
    (workspace : Workspace)
    {showCode : Int}
    (noSource : showCode ≤ 0)
    (groups : List Excess)
    (memory : Nat) :
    (∃ outcome,
        (Report.human workspace showCode groups memory).run {} = .ok outcome) ↔
      Report.CountableGroups groups := by
  have faithful : SourceReader.Faithful workspace {} :=
    SourceReader.faithful_of_unread rfl workspace
  refine
    Iff.trans
      (Report.writesIff_human showCode groups {}
        (SourceReader.Continues.refl faithful)).exists_eq_ok_iff
      (and_iff_left ?_)
  intro group _
  exact
    { inFull := by simp [Report.inFull, noSource]
      inBrief := by simp [Report.inBrief, noSource] }

/-- Groups are reported to people exactly if they can be counted. -/
theorem exists_run_reportExcess_iff
    (plain : plan.Plain)
    (source : Text)
    (groups : List Excess) :
    (∃ after, (reportExcess plan source groups).run before = .ok () after) ↔
      Report.CountableGroups groups := by
  unfold reportExcess
  rw [plain.human]
  dsimp only
  split
  · next nothing =>
      obtain rfl := List.isEmpty_iff.mp nothing
      have counts : Report.CountableGroups [] := {
        each := by simp
        total := show 0 < Numeral.bound by decide +kernel
      }
      exact ⟨fun _ => counts, fun _ => ⟨_, rfl⟩⟩
  · rw [← exists_human_of_noSource before.workspace plain.noSource.le groups
      plan.machine.memory]
    simp only [EStateM.run_bind, EStateM.run_get]
    cases
        (Report.human before.workspace plan.showCode groups
          plan.machine.memory).run {} with
    | error fault =>
        constructor
        · rintro ⟨_, ran⟩
          cases ran
        · rintro ⟨_, written⟩
          cases written
    | ok outcome =>
        exact ⟨fun _ => ⟨outcome, rfl⟩, fun _ => ⟨_, rfl⟩⟩

/-- A check that has its baseline comes to its verdict. -/
theorem exists_run_checkBaseline_eq
    (loaded :
      Baseline.load before.workspace plan.store plan.machine.checkRoom =
        .ok baseline)
    (noTighten : plan.tighten = false)
    (source : Text)
    (diagnostics : List Diagnostic) :
    ∃ between,
      Untouched before between ∧
        (checkBaseline plan source diagnostics).run before =
          (giveVerdict plan source (baseline.excess diagnostics)).run between := by
  obtain ⟨between, untouched, ran⟩ := exists_run_loadBaseline loaded
  unfold checkBaseline
  rw [run_bind_of_ok ran]
  dsimp only
  rw [if_neg (by simp [noTighten])]
  refine ⟨_, ?_, run_bind_of_ok rfl⟩
  exact Accumulates.trans untouched ⟨rfl, rfl⟩

/-- A run that reads its output and loads its baseline comes to its verdict. -/
theorem Fetched.exists_run_act_eq_of_read
    (fetched : Fetched workspace request plan stdout stderr room session)
    (read : Linter.readOutput stdout stderr room = .ok output)
    (plain : plan.Plain)
    (loaded :
      Baseline.load workspace plan.store plan.machine.checkRoom =
        .ok baseline) :
    ∃ source between,
      Untouched { workspace := workspace } between ∧
        (act request).run { workspace := workspace } =
          (giveVerdict plan source
            (baseline.excess output.diagnostics)).run between := by
  obtain ⟨source, acts⟩ := fetched.exists_run_act_eq
  obtain ⟨between, readUntouched, readRan⟩ :=
    exists_run_readDiagnostics session read
  have untouched := Accumulates.trans fetched.untouched readUntouched
  have loadedThere :
      Baseline.load between.workspace plan.store plan.machine.checkRoom =
        .ok baseline := by
    rw [untouched.workspace]
    exact loaded
  obtain ⟨later, checkUntouched, checkRan⟩ :=
    exists_run_checkBaseline_eq loadedThere plain.noTighten source
      output.diagnostics
  refine ⟨source, later, Accumulates.trans untouched checkUntouched, ?_⟩
  rw [acts, run_bind_of_ok readRan, conclude, if_neg (by simp [plain.check]),
    checkRan]

/-- A run that can count what is in excess ends with the verdict on it. -/
theorem Fetched.ends_with_verdict
    (fetched : Fetched workspace request plan stdout stderr room session)
    (read : Linter.readOutput stdout stderr room = .ok output)
    (plain : plan.Plain)
    (loaded :
      Baseline.load workspace plan.store plan.machine.checkRoom =
        .ok baseline)
    (countable : Report.CountableGroups (baseline.excess output.diagnostics)) :
    (run workspace request).ending =
        .exit (comparedCode plan (baseline.excess output.diagnostics)) ∧
      (run workspace request).session.workspace = workspace := by
  obtain ⟨source, between, untouched, acts⟩ :=
    fetched.exists_run_act_eq_of_read read plain loaded
  obtain ⟨after, ran⟩ :=
    (exists_run_reportExcess_iff plain source _).mpr countable
  obtain ⟨sameWorkspace, _⟩ :=
    (guarantees_reportExcess plan source _).of_run_eq_ok ran
  have unchanged : after.workspace = workspace :=
    sameWorkspace.trans untouched.workspace
  rw [giveVerdict, run_bind_of_ok ran] at acts
  unfold comparedCode
  split
  · next failed =>
      rw [if_pos failed] at acts
      rw [run_eq_of_error acts]
      exact ⟨rfl, unchanged⟩
  · next passed =>
      rw [if_neg passed] at acts
      rw [run, show act request { workspace := workspace } = _ from acts]
      exact ⟨rfl, unchanged⟩

/-- A run that cannot count what is in excess ends without a code of its own. -/
theorem Fetched.crashes_of_uncountable
    (fetched : Fetched workspace request plan stdout stderr room session)
    (read : Linter.readOutput stdout stderr room = .ok output)
    (plain : plan.Plain)
    (loaded :
      Baseline.load workspace plan.store plan.machine.checkRoom =
        .ok baseline)
    (uncountable :
      ¬Report.CountableGroups (baseline.excess output.diagnostics)) :
    ∃ fault, (run workspace request).ending = .crash fault := by
  obtain ⟨source, between, untouched, acts⟩ :=
    fetched.exists_run_act_eq_of_read read plain loaded
  cases ran :
      (reportExcess plan source (baseline.excess output.diagnostics)).run
        between with
  | ok _ after =>
      exact
        (uncountable
          ((exists_run_reportExcess_iff plain source _).mp ⟨after, ran⟩)).elim
  | error ending after =>
      obtain ⟨unprinted, _⟩ :=
        (guarantees_reportExcess plan source _).of_run_eq_error ran
      rw [giveVerdict, run_bind_of_error ran] at acts
      rw [run_eq_of_error acts]
      cases unprinted with
      | unprintable fault => exact ⟨_, rfl⟩
      | numeral fault => exact ⟨_, rfl⟩
      | report fault => exact ⟨_, rfl⟩

/--
Contents of a file that a check does not report on: they are no text, the JSON
reader stops at the text without a fault of its own, or what is in excess cannot
be counted.
-/
inductive Unreportable (baseline : Baseline) (room : Nat) (bytes : Bytes) : Prop where
  | noText
      (fault : Utf8.DecodeFault)
      (undecodable : Utf8.decode bytes = .error fault) :
      Unreportable baseline room bytes
  | unreported
      (text : Text)
      (error : Linter.OutputError)
      (decoded : Utf8.decode bytes = .ok text)
      (refused : Linter.readOutput text.unifyLineEndings [] room = .error error)
      (unreported : ¬error.Reported) :
      Unreportable baseline room bytes
  | uncountable
      (text : Text)
      (output : Linter.Output)
      (decoded : Utf8.decode bytes = .ok text)
      (read : Linter.readOutput text.unifyLineEndings [] room = .ok output)
      (uncountable :
        ¬Report.CountableGroups (baseline.excess output.diagnostics)) :
      Unreportable baseline room bytes

/--
A check of linter output in a file, for people and without sources, with a
baseline that is loaded, ends as follows.  A file that cannot be read is named as
the fault of the option.  Output that is read is compared with the baseline, and
the run ends with the verdict, all files as they were.  Output that is rejected
ends the run with code 2 and an error line.  There is no other end but for
contents that the check does not report on: for them, and only for them, the run
ends without a code of its own.  Excess violations can be counted but for a
number of diagnostics that has too many digits itself.
-/
theorem captured_output_ends_run
    (comes : ComesToFile workspace request path plan session)
    (plain : plan.Plain)
    (loaded :
      Baseline.load workspace plan.store plan.machine.checkRoom =
        .ok baseline) :
    let read (text : Text) :=
      Linter.readOutput text.unifyLineEndings [] request.machine.inputRoom
    (∀ fault,
        workspace.readFile path = .error fault →
        ∃ refusal,
          (run workspace request).ending = .usage (.inputFile refusal)) ∧
      (∀ bytes,
        workspace.readFile path = .ok bytes →
        (∀ text output,
            Utf8.decode bytes = .ok text →
            read text = .ok output →
            Report.CountableGroups (baseline.excess output.diagnostics) →
            (run workspace request).ending =
                .exit (comparedCode plan (baseline.excess output.diagnostics)) ∧
              (run workspace request).session.workspace = workspace) ∧
          (∀ text error,
            Utf8.decode bytes = .ok text →
            read text = .error error →
            error.Reported →
            ∃ rest,
              Refuses workspace session "Failed to parse linter output: " rest
                (run workspace request)) ∧
            ((∃ fault, (run workspace request).ending = .crash fault) ↔
              Unreportable baseline request.machine.inputRoom bytes)) ∧
        ∀ diagnostics : List Diagnostic,
          diagnostics.length < Numeral.bound →
          Report.CountableGroups (baseline.excess diagnostics) := by
  intro readText
  refine ⟨?_, ?_, fun diagnostics =>
    Report.countableGroups_excess (Baseline.nonnegative_of_load loaded)⟩
  · intro fault refused
    obtain ⟨refusal, _, ended⟩ := comes.run_eq_of_refused refused
    exact ⟨refusal, by rw [ended]⟩
  intro bytes found
  have compares
      {text : Text}
      {output : Linter.Output}
      (decoded : Utf8.decode bytes = .ok text)
      (read : readText text = .ok output)
      (countable : Report.CountableGroups (baseline.excess output.diagnostics)) :=
    (comes.fetched found decoded).ends_with_verdict read plain loaded countable
  have refuses
      {text : Text}
      {error : Linter.OutputError}
      (decoded : Utf8.decode bytes = .ok text)
      (refused : readText text = .error error)
      (reported : error.Reported) :=
    (comes.fetched found decoded).refuses refused reported
  refine
    ⟨fun _ _ => compares, fun _ _ => refuses, ?_, ?_⟩
  · rintro ⟨crash, ended⟩
    -- What is read or refused ends with a code, so each stage leaves one case of its own.
    cases decoded : Utf8.decode bytes with
    | error fault =>
        exact .noText fault decoded
    | ok text =>
        cases read : readText text with
        | error error =>
            refine .unreported text error decoded read fun reported => ?_
            obtain ⟨_, refusal⟩ := refuses decoded read reported
            rw [refusal.ending] at ended
            cases ended
        | ok output =>
            refine .uncountable text output decoded read fun countable => ?_
            obtain ⟨verdict, _⟩ := compares decoded read countable
            rw [verdict] at ended
            cases ended
  · intro unreportable
    cases unreportable with
    | noText fault undecodable =>
        rw [comes.run_eq_of_undecodable found undecodable]
        exact ⟨_, rfl⟩
    | unreported text error decoded refused unreported =>
        obtain ⟨fault, ended, _⟩ :=
          ((comes.fetched found decoded).crashes refused unreported).ending
        exact ⟨fault, ended⟩
    | uncountable text output decoded read uncountable =>
        exact
          (comes.fetched found decoded).crashes_of_uncountable read plain
            loaded uncountable

/-- A violation that is captured in a file fails a check of it. -/
theorem captured_violation_fails :
    let captured : Text :=
      "\x7b\"diagnostics\": [\x7b\"filename\": \"a.ts\", \"code\": \"no-var\"\x7d]\x7d"
    let bytes := captured.flatMap Utf8.encodePoint
    let workspace := (Workspace.fresh "/w" ["t"]).withFile "out.json" bytes
    let request : Request := {
      arguments := [
        "--input-file", "out.json", "--show-code", "0", "--format", "human",
        "--baseline", "b.json", "--fail-on-excess"]
    }
    workspace.readFile "out.json" = .ok bytes ∧
      (∃ plan session,
        ComesToFile workspace request "out.json" plan session ∧
          plan.Plain ∧
          Baseline.load workspace plan.store plan.machine.checkRoom =
            .ok Ledger.empty) ∧
        (run workspace request).ending = .exit exitExcess := by
  intro captured bytes workspace request
  have found : workspace.readFile "out.json" = .ok bytes := by decide +kernel
  let parsed : Parsed := {
    occurrences := [
      .inputFile "out.json", .showCode "0", .format "human",
      .baseline "b.json", .failOnExcess true]
  }
  let invocation : Invocation := {
    inputFile := some "out.json"
    showCode := some 0
    format := some "human"
    baseline := some "b.json"
    failOnExcess := some true
  }
  have understood : parse request.arguments = .ok parsed := by decide +kernel
  have asked : CommandLine.invocation parsed = .ok invocation := by
    decide +kernel
  have settles :
      isOk ((settle request invocation).run { workspace := workspace }) = true := by
    decide +kernel
  obtain ⟨⟨settings, plan⟩, session, settled⟩ := exists_eq_ok_of_isOk settles
  have comes : ComesToFile workspace request "out.json" plan session :=
    .reached parsed invocation settings understood (by decide) asked rfl settled
  obtain ⟨⟨format, _, chosen, _, planned⟩, _⟩ :=
    (quietly_settle request invocation).of_run_eq_ok settled
  have human : format = .human := by
    have named : ReportFormat.ofName? "human" = some format := chosen
    exact (Option.some.inj named).symm
  dsimp only at planned
  have plain : plan.Plain := by
    rw [planned]
    exact ⟨rfl, rfl, human, rfl⟩
  have fails : plan.failOnExcess = true := by
    rw [planned]
    rfl
  have loaded :
      Baseline.load workspace plan.store plan.machine.checkRoom =
        .ok Ledger.empty := by
    rw [show plan.store = "b.json" by rw [planned]; rfl,
      show plan.machine = {} by rw [planned]; rfl]
    decide +kernel
  have decoded : Utf8.decode bytes = .ok captured := by decide +kernel
  let seen : Diagnostic := { filename := "a.ts", rule := "no-var" }
  have read :
      Linter.readOutput captured.unifyLineEndings []
          request.machine.inputRoom =
        .ok { diagnostics := [seen], shape := some .current } := by
    decide +kernel
  obtain ⟨_, ends, countable⟩ :=
    captured_output_ends_run comes plain loaded
  obtain ⟨verdict, _⟩ :=
    (ends bytes found).1 captured _ decoded read (countable [seen] (by decide +kernel))
  rw [comparedCode, fails] at verdict
  exact ⟨found, ⟨plan, session, comes, plain, loaded⟩, verdict⟩

/--
A byte that is no text is captured output, but no check reports on it: the run
that is given it ends without a code of its own.
-/
theorem undecodable_capture_is_not_reported :
    let workspace := (Workspace.fresh "/w" ["t"]).withFile "out.json" [0xff]
    let fault : Utf8.DecodeFault := {
      malformation := .invalidStart
      start := 0
      length := 1
      byte := 0xff
    }
    let request : Request := {
      arguments := ["--input-file", "out.json", "--show-code", "0"]
    }
    workspace.readFile "out.json" = .ok [0xff] ∧
      Baseline.load workspace ".oxlint-suppressions.json" = .ok Ledger.empty ∧
        (run workspace request).ending = .crash (.undecodable fault) := by
  decide +kernel

end CommandLine

end Tolerance
