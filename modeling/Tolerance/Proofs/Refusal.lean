import Tolerance.Proofs.Linter.Output
import Tolerance.Proofs.Session
import Tolerance.Proofs.Stored

namespace Tolerance

/-!
# Runs that are refused what they read

A run that comes to its linter output, or to its baseline, and cannot use it ends
there.  It ends with an error line and code 2 if the failure is one that the
program has words for, and without a code of its own otherwise.
-/

open Outcome

namespace CommandLine

variable {Value : Type}
  {workspace : Workspace}
  {request : Request}
  {plan : Plan}
  {stdout stderr : Text}
  {room : Nat}
  {session before after : Session}

/-- A run has fetched linter output and comes to read it, with room for its containers. -/
inductive Fetched
    (workspace : Workspace)
    (request : Request)
    (plan : Plan)
    (stdout stderr : Text)
    (room : Nat)
    (session : Session) :
    Prop where
  | reached
      (parsed : Parsed)
      (invocation : Invocation)
      (settings : Settings)
      (between : Session)
      (understood : parse request.arguments = .ok parsed)
      (noNotice : parsed.notice? = none)
      (asked : CommandLine.invocation parsed = .ok invocation)
      (settled :
        (settle request invocation).run { workspace := workspace } =
          .ok (settings, plan) between)
      (fetched :
        (fetchOutput request invocation settings).run between =
          .ok (stdout, stderr) session)
      (offered : request.outputRoom invocation = room) :
      Fetched workspace request plan stdout stderr room session

/-- A run has read diagnostics and comes to load the baseline. -/
inductive ComesToLoad
    (workspace : Workspace)
    (request : Request)
    (plan : Plan)
    (session : Session) :
    Prop where
  | reached
      (stdout stderr : Text)
      (room : Nat)
      (between : Session)
      (diagnostics : List Diagnostic)
      (fetched : Fetched workspace request plan stdout stderr room between)
      (read :
        (readDiagnostics stdout stderr room).run between =
          .ok diagnostics session) :
      ComesToLoad workspace request plan session

/--
A run ends with code 2 and an error line, of which the lead is as it is here and
the rest may lose styles and surrogates.  All files are as they were.
-/
structure Refuses
    (workspace : Workspace)
    (session : Session)
    (lead rest : Text)
    (outcome : Outcome) :
    Prop where
  ending : outcome.ending = .exit exitError
  workspace : outcome.session.workspace = workspace
  stdout : outcome.session.stdout = []
  stderr :
    outcome.session.stderr =
      session.stderr ++ ("error: " ++ lead) ++
        (rest ++ "\n").withoutStyles.escapeSurrogates

/-- A run ends without a code of its own and says nothing. -/
structure Crashes
    (workspace : Workspace)
    (session : Session)
    (message : Text)
    (outcome : Outcome) :
    Prop where
  ending : ∃ fault, outcome.ending = .crash fault ∧ fault.message = message
  workspace : outcome.session.workspace = workspace
  stdout : outcome.session.stdout = []
  stderr : outcome.session.stderr = session.stderr

/-! ## What a run has done when it comes to a stage -/

theorem Fetched.untouched
    (fetched : Fetched workspace request plan stdout stderr room session) :
    Untouched { workspace := workspace } session := by
  obtain ⟨parsed, invocation, settings, between, _, _, _, settled, fetched, _⟩ :=
    fetched
  have first := (quietly_settle request invocation).of_run_eq_ok settled
  have second :=
    (quietly_fetchOutput request invocation settings).of_run_eq_ok fetched
  exact Accumulates.trans first.2 second.2

theorem ComesToLoad.untouched
    (comes : ComesToLoad workspace request plan session) :
    Untouched { workspace := workspace } session := by
  obtain ⟨stdout, stderr, room, between, diagnostics, fetched, read⟩ := comes
  have second := (quietly_readDiagnostics stdout stderr room).of_run_eq_ok read
  exact Accumulates.trans fetched.untouched second.2

/-- A run that is given linter output on standard input comes to read it. -/
theorem Fetched.of_stdin
    {parsed : Parsed}
    {invocation : Invocation}
    {settings : Settings}
    {text : Text}
    (understood : parse request.arguments = .ok parsed)
    (noNotice : parsed.notice? = none)
    (asked : CommandLine.invocation parsed = .ok invocation)
    (fromStdin : invocation.stdin = true)
    (decoded : Utf8.decode request.stdin = .ok text)
    (settled :
      (settle request invocation).run { workspace := workspace } =
        .ok (settings, plan) session) :
    Fetched workspace request plan text.unifyLineEndings []
      request.machine.inputRoom session := by
  obtain ⟨⟨_, _, _, oneInput, _⟩, _⟩ :=
    (quietly_settle request invocation).of_run_eq_ok settled
  have noFile : invocation.inputFile = none := by
    simpa [fromStdin] using oneInput
  refine .reached parsed invocation settings session understood noNotice asked
    settled ?_ ?_
  · simp only [fetchOutput, noFile, fromStdin, if_pos, decodeInput, orCrash,
      decoded, pure_bind]
    rfl
  · simp only [Request.outputRoom, noFile, fromStdin, if_pos]

/-- Where there is no file at all, whatever is given on standard input is read. -/
private theorem exists_fetched_of_stdin
    {bytes : Bytes}
    {text : Text}
    (decoded : Utf8.decode bytes = .ok text) :
    ∃ plan session,
      Fetched (Workspace.fresh "/w" ["t"])
        { arguments := ["--stdin"], stdin := bytes } plan
        text.unifyLineEndings [] (Machine.inputRoom {}) session := by
  have understood :
      parse ["--stdin"] = .ok { occurrences := [.stdin true] } := by
    decide +kernel
  have asked :
      CommandLine.invocation { occurrences := [.stdin true] } =
        .ok { stdin := true } := by
    decide +kernel
  have settles :
      isOk
          ((settle { arguments := ["--stdin"] } { stdin := true }).run
            { workspace := Workspace.fresh "/w" ["t"] }) =
        true := by
    decide +kernel
  obtain ⟨⟨settings, plan⟩, session, settled⟩ := exists_eq_ok_of_isOk settles
  exact
    ⟨plan, session,
      .of_stdin understood (by decide) asked rfl decoded settled⟩

/-- A run goes on from its linter output to the diagnostics and the baseline. -/
theorem Fetched.exists_run_act_eq
    (fetched : Fetched workspace request plan stdout stderr room session) :
    ∃ source,
      (act request).run { workspace := workspace } =
        (readDiagnostics stdout stderr room >>= conclude plan source).run
          session := by
  obtain ⟨parsed, invocation, settings, between, understood, noNotice, asked,
      settled, fetched, rfl⟩ := fetched
  refine ⟨inputName invocation, ?_⟩
  rw [act_eq_perform understood noNotice asked, perform_eq,
    run_bind_of_ok settled]
  dsimp only
  rw [collectDiagnostics_eq, bind_assoc, run_bind_of_ok fetched]

/-- A run whose linter output is not read ends there. -/
theorem Fetched.run_eq
    {ending : Ending}
    (fetched : Fetched workspace request plan stdout stderr room session)
    (failed :
      (readDiagnostics stdout stderr room).run session = .error ending after) :
    run workspace request = { ending := ending, session := after } := by
  obtain ⟨source, acts⟩ := fetched.exists_run_act_eq
  apply run_eq_of_error
  rw [acts, run_bind_of_error failed]

/-- A run whose baseline is not loaded ends there. -/
theorem ComesToLoad.run_eq
    {ending : Ending}
    (comes : ComesToLoad workspace request plan session)
    (failed :
      (loadBaseline plan.store plan.loadRoom).run session =
        .error ending after) :
    run workspace request = { ending := ending, session := after } := by
  obtain ⟨stdout, stderr, room, between, diagnostics, fetched, read⟩ := comes
  obtain ⟨source, acts⟩ := fetched.exists_run_act_eq
  apply run_eq_of_error
  rw [acts, run_bind_of_ok read, conclude]
  unfold Plan.loadRoom at failed
  split at failed
  · next update =>
      rw [if_pos update]
      exact run_bind_of_error failed _
  · next check =>
      rw [if_neg check]
      exact run_bind_of_error failed _

/-! ## How a failure ends a run -/

/-- A part of a run that stops with an error line ends the run with code 2. -/
theorem refuses_of_stopWith
    {operation : Act Value}
    {lead rest : Text}
    (plain : lead.Plain)
    (untouched : Untouched { workspace := workspace } session)
    (stops : operation.run session = (stopWith (lead ++ rest)).run session)
    (ends :
      ∀ {ending after},
        operation.run session = .error ending after →
        run workspace request = { ending := ending, session := after }) :
    Refuses workspace session lead rest (run workspace request) := by
  have plainLead : Text.Plain ("error: " ++ lead) :=
    Text.Plain.append (by decide) plain
  have told :
      ("error: " ++ (lead ++ rest) ++ "\n").withoutStyles.escapeSurrogates =
        ("error: " ++ lead) ++
          (rest ++ "\n").withoutStyles.escapeSurrogates := by
    rw [← plainLead.escapeSurrogates_append, ← plainLead.withoutStyles_append]
    simp only [List.append_assoc]
  rw [ends stops]
  exact {
    ending := rfl
    workspace := untouched.workspace
    stdout := untouched.stdout
    stderr :=
      (congrArg (session.stderr ++ ·) told).trans
        (List.append_assoc _ _ _).symm
  }

/-- A part of a run that crashes ends the run without a word. -/
theorem crashes_of_crash
    {operation : Act Value}
    (fault : Crash)
    (untouched : Untouched { workspace := workspace } session)
    (stops : operation.run session = (crash fault).run session)
    (ends :
      ∀ {ending after},
        operation.run session = .error ending after →
        run workspace request = { ending := ending, session := after }) :
    Crashes workspace session fault.message (run workspace request) := by
  rw [ends stops]
  exact {
    ending := ⟨fault, rfl, rfl⟩
    workspace := untouched.workspace
    stdout := untouched.stdout
    stderr := rfl
  }

/-! ## Linter output -/

/--
Linter output is read exactly if it is blank or is JSON that reports findings.
Of any other output it can be seen why it is not read.  A run that comes to such
an output says that it cannot be parsed and ends with code 2, all files as they
were, unless the reason is a numeral that is too long or a container that is too
deep: then it ends without a code of its own and without a word.
-/
theorem unreadable_output_ends_run
    (stdout stderr : Text)
    (room : Nat) :
    ((∃ output, Linter.readOutput stdout stderr room = .ok output) ↔
        stdout.isBlank = true ∨
          ∃ value,
            Json.parse stdout room = .ok value ∧
              Linter.ReportsFindings value) ∧
      ∀ error,
        Linter.readOutput stdout stderr room = .error error →
        Linter.Unreadable stdout stderr room error ∧
          ∀ workspace request plan session,
            Fetched workspace request plan stdout stderr room session →
            match error with
            | .rejected fault _ _ =>
                Refuses workspace session "Failed to parse linter output: "
                  (fault.message ++ "\nStdout: " ++ stdout ++
                    "\nStderr: " ++ stderr)
                  (run workspace request)
            | unworded =>
                Crashes workspace session unworded.message
                  (run workspace request) := by
  refine ⟨Linter.exists_readOutput_iff, fun error refused => ?_⟩
  have unreadable := Linter.unreadable_of_readOutput refused
  refine ⟨unreadable, ?_⟩
  intro workspace request plan session fetched
  cases unreadable with
  | rejected fault =>
      refine refuses_of_stopWith (by decide) fetched.untouched ?_ fetched.run_eq
      simp [readDiagnostics, refused, Linter.OutputError.message,
        List.append_assoc]
  | numeral digits long =>
      refine crashes_of_crash (.numeral _) fetched.untouched ?_ fetched.run_eq
      simp only [readDiagnostics, refused]
  | tooDeep container deep =>
      refine crashes_of_crash (.deepJson _) fetched.untouched ?_ fetched.run_eq
      simp only [readDiagnostics, refused]

/-- Output that was cut off is refused with an error line. -/
theorem cut_output_is_refused :
    let workspace := Workspace.fresh "/w" ["t"]
    let output : Text := "\x7b\"diagnostics\": ["
    let request : Request := {
      arguments := ["--stdin"]
      stdin := output.flatMap Utf8.encodePoint
    }
    let fault : Linter.OutputFault :=
      .invalidJson
        (.malformed .expectingValue { line := 1, column := 18, offset := 17 })
    Linter.readOutput output [] request.machine.inputRoom =
        .error (.rejected fault output []) ∧
      ∃ session,
        Refuses workspace session "Failed to parse linter output: "
          (fault.message ++ "\nStdout: " ++ output ++
            "\nStderr: " ++ ([] : Text))
          (run workspace request) := by
  intro workspace output request fault
  have decoded : Utf8.decode request.stdin = .ok output := by decide +kernel
  have refused :
      Linter.readOutput output [] request.machine.inputRoom =
        .error (.rejected fault output []) := by
    decide +kernel
  obtain ⟨plan, session, fetched⟩ := exists_fetched_of_stdin decoded
  obtain ⟨_, outcome⟩ := (unreadable_output_ends_run output [] _).2 _ refused
  exact ⟨refused, session, outcome _ _ _ _ fetched⟩

/--
A numeral with more digits than are read is no linter output, but it is not
rejected: the run that comes to it ends without a code of its own.
-/
theorem long_numeral_is_not_reported :
    let workspace := Workspace.fresh "/w" ["t"]
    let digits : Text := List.replicate 4301 0x31
    let request : Request := {
      arguments := ["--stdin"]
      stdin := digits.flatMap Utf8.encodePoint
    }
    Linter.readOutput digits [] request.machine.inputRoom =
        .error (.numeral (.unreadable 4301)) ∧
      (run workspace request).ending =
        .crash (.numeral (.unreadable 4301)) := by
  intro workspace digits request
  have refused :
      Linter.readOutput digits [] request.machine.inputRoom =
        .error (.numeral (.unreadable 4301)) := by
    decide +kernel
  have plain : digits.Plain := by
    intro point member
    rw [List.eq_of_mem_replicate member]
    decide
  obtain ⟨plan, session, fetched⟩ :=
    exists_fetched_of_stdin plain.decode_encode
  rw [plain.unifyLineEndings_eq] at fetched
  refine ⟨refused, ?_⟩
  have stops :
      (readDiagnostics digits [] request.machine.inputRoom).run session =
        .error (.crash (.numeral (.unreadable 4301))) session := by
    rw [readDiagnostics, refused]
    rfl
  rw [fetched.run_eq stops]

/-! ## The baseline file -/

/-- A run that comes to a file without a baseline stops for what the file is. -/
theorem run_loadBaseline_of_status
    {path : Path}
    {bytes : Bytes}
    {mode : Nat}
    {room : Baseline.Room}
    {error : Baseline.StorageError}
    (stored : session.workspace.status path = .ok (.file bytes mode))
    (refused : Baseline.ofFileBytes path bytes room = .error error) :
    (loadBaseline path room).run session =
      (stopForStorage error).run session := by
  have loaded := Baseline.loadFile?_of_status stored
  simp only [loadBaseline, EStateM.run_bind, EStateM.run_get, loaded, refused]
  rfl

/--
A baseline is loaded from a file exactly if the bytes of the file hold one.  Of
any other bytes it can be seen why there is none.  A run that comes to load the
file says that it cannot be parsed and ends with code 2, all files as they were,
unless no text is encoded by the bytes or a container in it is too deep: then it
ends without a code of its own and without a word.
-/
theorem unusable_file_ends_run
    {workspace : Workspace}
    {path : Path}
    {bytes : Bytes}
    {mode : Nat}
    (stored : workspace.status path = .ok (.file bytes mode))
    (room : Baseline.Room) :
    ((∃ baseline, Baseline.load workspace path room = .ok baseline) ↔
        Baseline.BytesHoldBaseline bytes room) ∧
      ∀ error,
        Baseline.load workspace path room = .error error →
        Baseline.Unusable path bytes room error ∧
          ∀ request plan session,
            ComesToLoad workspace request plan session →
            plan.store = path →
            plan.loadRoom = room →
            match error with
            | .corrupt _ fault =>
                Refuses workspace session "Failed to parse baseline file "
                  (path.toText ++ ": " ++ fault.message)
                  (run workspace request)
            | unworded =>
                Crashes workspace session unworded.message
                  (run workspace request) := by
  rw [Baseline.load_eq_of_status stored]
  refine ⟨Baseline.exists_ofFileBytes_iff, fun error refused => ?_⟩
  have unusable := Baseline.unusable_of_ofFileBytes refused
  refine ⟨unusable, ?_⟩
  intro request plan session comes store offered
  have storedStill :
      session.workspace.status plan.store = .ok (.file bytes mode) := by
    rw [comes.untouched.workspace, store]
    exact stored
  rw [← store, ← offered] at refused
  have stops := run_loadBaseline_of_status storedStill refused
  cases unusable with
  | corrupt text fault encoded refusedText =>
      refine refuses_of_stopWith (by decide) comes.untouched ?_ comes.run_eq
      rw [stops]
      simp [stopForStorage, Baseline.StorageError.message, List.append_assoc]
  | undecodable fault noText =>
      exact crashes_of_crash _ comes.untouched stops comes.run_eq
  | tooDeep text container encoded deep =>
      exact crashes_of_crash _ comes.untouched stops comes.run_eq

/-- A file that holds an array is refused with an error line. -/
theorem array_file_is_refused :
    let path : Path := "b.json"
    let workspace := (Workspace.fresh "/w" ["t"]).withFile path [0x5b, 0x5d]
    let request : Request := {
      arguments := ["--stdin", "--baseline", "b.json"]
    }
    workspace.status path = .ok (.file [0x5b, 0x5d] 0o644) ∧
      ¬Baseline.BytesHoldBaseline [0x5b, 0x5d] (Machine.checkRoom {}) ∧
        ∃ session,
          Refuses workspace session "Failed to parse baseline file "
            ("b.json" ++ ": " ++
              "baseline must be a JSON object keyed by filename")
            (run workspace request) := by
  intro path workspace request
  have stored :
      workspace.status path = .ok (.file [0x5b, 0x5d] 0o644) := by
    decide +kernel
  have refused :
      Baseline.load workspace path (Machine.checkRoom {}) =
        .error (.corrupt path (.document .notAnObject)) := by
    decide +kernel
  have understood :
      parse request.arguments =
        .ok { occurrences := [.stdin true, .baseline "b.json"] } := by
    decide +kernel
  have asked :
      CommandLine.invocation
          { occurrences := [.stdin true, .baseline "b.json"] } =
        .ok { stdin := true, baseline := some path } := by
    decide +kernel
  have settles :
      isOk
          ((settle request { stdin := true, baseline := some path }).run
            { workspace := workspace }) =
        true := by
    decide +kernel
  obtain ⟨⟨settings, plan⟩, session, settled⟩ := exists_eq_ok_of_isOk settles
  have comes : ComesToLoad workspace request plan session :=
    .reached [] [] _ session []
      (.of_stdin understood (by decide) asked rfl rfl settled) rfl
  obtain ⟨⟨format, _, _, _, planned⟩, _⟩ :=
    (quietly_settle request _).of_run_eq_ok settled
  have store : plan.store = path := by
    rw [show plan = _ from planned]
    rfl
  have offered : plan.loadRoom = Machine.checkRoom {} := by
    rw [show plan = _ from planned]
    rfl
  obtain ⟨loadedIff, refuses⟩ := unusable_file_ends_run stored (Machine.checkRoom {})
  refine ⟨stored, fun holds => ?_, session, ?_⟩
  · obtain ⟨baseline, loaded⟩ := loadedIff.mpr holds
    rw [refused] at loaded
    cases loaded
  · exact (refuses _ refused).2 request plan session comes store offered

/--
A byte that is no text is no baseline, but it is not reported as such: the run
that comes to it ends without a code of its own.
-/
theorem undecodable_file_is_not_reported :
    let path : Path := "b.json"
    let workspace := (Workspace.fresh "/w" ["t"]).withFile path [0xff]
    let fault : Utf8.DecodeFault := {
      malformation := .invalidStart
      start := 0
      length := 1
      byte := 0xff
    }
    let request : Request := {
      arguments := ["--stdin", "--baseline", "b.json"]
    }
    workspace.status path = .ok (.file [0xff] 0o644) ∧
      Baseline.load workspace path = .error (.undecodable fault) ∧
        (run workspace request).ending = .crash (.undecodable fault) := by
  decide +kernel

end CommandLine

end Tolerance
