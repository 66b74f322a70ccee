import Tolerance.Proofs.Lockstep
import Tolerance.Proofs.Options

namespace Tolerance

/-!
# What the linter is called with

Words that this program leaves alone stand last in the call of the linter, as
they are, and have no part in anything else: the run weighs its options and ends
as it would without them.
-/

open Outcome

namespace CommandLine

/-! ## The call -/

/-- The linter was called once more, and nothing else has happened that counts. -/
structure Called (call : Linter.Call) (before after : Session) : Prop where
  workspace : after.workspace = before.workspace
  stdout : after.stdout = before.stdout
  calls : after.calls = before.calls ++ [call]

section

variable {before : Session}
  {command : Option (List Text)}
  {front : List Text}
  {lockFile : Option Path}

private theorem exists_run_linterCommand
    (chosen :
      Linter.chooseCommand before.workspace linterDirectory command =
        .ok (front, lockFile)) :
    ∃ stderr,
      (linterCommand command).run before =
        .ok front { before with stderr := stderr } := by
  have asked :
      (orCrash .access
          (Linter.chooseCommand before.workspace linterDirectory command)).run before =
        .ok (front, lockFile) before := by
    rw [chosen]
    rfl
  cases lockFile with
  | none => exact ⟨_, run_bind_of_ok asked⟩
  | some path => exact ⟨_, run_bind_of_ok asked⟩

/-- The linter is called as chosen; the run ends if it could not be started. -/
theorem exists_run_callLinter
    (chosen :
      Linter.chooseCommand before.workspace linterDirectory command =
        .ok (front, lockFile))
    (response : Linter.Response)
    (arguments : List Text) :
    ∃ after,
      Called
        { command := Linter.commandLine front arguments
          directory := linterDirectory }
        before after ∧
      (callLinter response command arguments).run before =
        match response with
        | .finished stdout stderr code =>
            .ok { stdout := stdout, stderr := stderr, code := code } after
        | .notStarted _ => .error (.exit exitError) after := by
  obtain ⟨stderr, ran⟩ := exists_run_linterCommand chosen
  unfold callLinter
  rw [run_bind_of_ok ran]
  cases response with
  | finished stdout stderr code =>
      refine ⟨_, ?_, rfl⟩
      exact ⟨rfl, rfl, rfl⟩
  | notStarted refusal =>
      refine ⟨_, ?_, rfl⟩
      exact ⟨rfl, rfl, rfl⟩

end

/-! ## The words that are passed on -/

/-- A run settles on settings, a plan and a threshold for its log. -/
inductive Settles
    (workspace : Workspace)
    (request : Request)
    (settings : Settings)
    (plan : Plan)
    (threshold : Log.Level) :
    Prop where
  | reached
      (parsed : Parsed)
      (invocation : Invocation)
      (understood : parse request.arguments = .ok parsed)
      (noNotice : parsed.notice? = none)
      (asked : CommandLine.invocation parsed = .ok invocation)
      (settled :
        (settle request invocation).run { workspace := workspace } =
          .ok (settings, plan)
            { workspace := workspace, threshold := threshold }) :
      Settles workspace request settings plan threshold

/-- A request with other words on its command line. -/
def Request.withArguments (request : Request) (words : List Text) : Request :=
  { request with arguments := words }

/-- The call of the linter with some words last. -/
def callWith (front : List Text) (settings : Settings) (words : List Text) : Linter.Call where
  command := front ++ (["-f", "json"] : List Text) ++ settings.arguments ++ words
  directory := linterDirectory

private theorem callWith_eq
    (front : List Text)
    (settings : Settings)
    (words : List Text) :
    callWith front settings words =
      { command := Linter.commandLine front (settings.arguments ++ words)
        directory := linterDirectory } := by
  simp [callWith, Linter.commandLine, Linter.jsonArguments]

section

variable {workspace : Workspace}
  {request : Request}
  {settings : Settings}
  {plan : Plan}
  {threshold : Log.Level}
  {words : List Text}

/-- Words that are passed on ask for nothing else. -/
private theorem invocation_of_passedOn (words : List Text) :
    invocation { linterArguments := words } = .ok { linterArguments := words } :=
  rfl

/-- Words that are passed on have no part in what a run settles on. -/
private theorem settle_of_passedOn
    (bare : Settles workspace (request.withArguments []) settings plan threshold) :
    (settle (request.withArguments words) { linterArguments := words }).run
        { workspace := workspace } =
      .ok (settings, plan) { workspace := workspace, threshold := threshold } := by
  obtain ⟨parsed, invocation, understood, _, asked, settled⟩ := bare
  cases understood
  cases asked
  exact settled

/-- Runs that differ in the words that they pass on differ in their calls alone. -/
private theorem together_of_passedOn
    {front : List Text}
    {lockFile : Option Path}
    (bare : Settles workspace (request.withArguments []) settings plan threshold)
    (chosen :
      Linter.chooseCommand workspace linterDirectory settings.command =
        .ok (front, lockFile)) :
    let Passed := { words // parse words = .ok { linterArguments := words } }
    let calls (index : Passed) := [callWith front settings index.val]
    ReportAlike (fun _ => "linter") calls
      (fun index : Passed => act (request.withArguments index.val))
      (fun _ => { workspace := workspace }) := by
  intro Passed calls
  let between : Session := { workspace := workspace, threshold := threshold }
  have goesOn (index : Passed) :
      (act (request.withArguments index.val)).run { workspace := workspace } =
        (do
          let captured ← callLinter request.linter settings.command
            (settings.arguments ++ index.val)
          let diagnostics ←
            readDiagnostics captured.stdout captured.stderr
              request.machine.linterRoom
          conclude plan "linter" diagnostics).run between := by
    rw [act_eq_perform index.property rfl (invocation_of_passedOn _), perform_eq,
      run_bind_of_ok (settle_of_passedOn bare)]
    refine congrArg (EStateM.run · between) ?_
    exact bind_assoc _ _ _
  have called (index : Passed) :
      ∃ after,
        Called (callWith front settings index.val) between after ∧
          (callLinter request.linter settings.command
              (settings.arguments ++ index.val)).run between =
            match request.linter with
            | .finished stdout stderr code =>
                .ok { stdout := stdout, stderr := stderr, code := code } after
            | .notStarted _ => .error (.exit exitError) after := by
    rw [callWith_eq]
    exact exists_run_callLinter chosen _ _
  choose after call ran using called
  have inStep : InStep calls after :=
    ⟨workspace, [], fun index => (call index).workspace,
      fun index => (call index).stdout, fun index => (call index).calls⟩
  cases answer : request.linter with
  | notStarted refusal =>
      simp only [answer] at ran goesOn
      refine Or.inr ⟨.exit exitError, after, fun index => ?_, inStep.reported _⟩
      rw [goesOn, run_bind_of_error (ran index)]
  | finished stdout stderr code =>
      simp only [answer] at ran goesOn
      refine .of_run_eq (fun index => (goesOn index).trans (run_bind_of_ok (ran index))) ?_
      exact
        ReportAlike.andThen
          (stayInStep_readDiagnostics inStep fun _ => .refl .same _)
          fun diagnostics _ inStep =>
            reportAlike_conclude inStep (fun _ => "linter") plan diagnostics

/--
Words of another program are passed on exactly if none of them holds a letter of
this one.  Then they stand last in the call of the linter, in their order, and
the run settles and ends as it would without them.
-/
theorem foreign_words_are_passed_on
    (foreign : ∀ word ∈ words, Foreign word) :
    (parse words = .ok { linterArguments := words } ↔
      ∀ word ∈ words, ¬HoldsOwnLetter word) ∧
    ((∀ word ∈ words, ¬HoldsOwnLetter word) →
      ∀ (workspace : Workspace)
        (request : Request)
        (settings : Settings)
        (plan : Plan)
        (threshold : Log.Level)
        (front : List Text)
        (lockFile : Option Path),
        Settles workspace (request.withArguments []) settings plan threshold →
        Linter.chooseCommand workspace linterDirectory settings.command =
          .ok (front, lockFile) →
        let bare := run workspace (request.withArguments [])
        let passing := run workspace (request.withArguments words)
        Settles workspace (request.withArguments words) settings plan threshold ∧
          passing.session.calls = [callWith front settings words] ∧
            passing.ending = bare.ending ∧
              passing.session.workspace = bare.session.workspace ∧
                passing.session.stdout = bare.session.stdout) := by
  constructor
  · constructor
    · intro understood
      exact noOwnLetter_of_parse foreign understood rfl
    · exact parse_eq_self foreign
  intro noOwn workspace request settings plan threshold front lockFile settles
    chosen bare passing
  have understood := parse_eq_self foreign noOwn
  obtain ⟨ending, after, ⟨files, printed, _, beside⟩, ran⟩ :=
    exists_ending_of_together (together_of_passedOn settles chosen)
  have ranBare : bare = { ending := ending, session := after ⟨[], rfl⟩ } :=
    ran ⟨[], rfl⟩
  have ranPassing :
      passing = { ending := ending, session := after ⟨words, understood⟩ } :=
    ran ⟨words, understood⟩
  rw [ranBare, ranPassing]
  exact
    ⟨.reached _ _ understood rfl (invocation_of_passedOn words)
        (settle_of_passedOn settles),
      beside.calls _, rfl,
      (beside.workspace _).trans (beside.workspace _).symm,
      (beside.stdout _).trans (beside.stdout _).symm⟩

end

/-- A path, an option with a long name and a group of foreign letters are passed on. -/
theorem foreign_category_is_passed_on :
    let words : List Text := ["src", "--type-aware", "-Dperf"]
    let request : Request := {
      arguments := words
      linter := .finished [] [] 0
    }
    (∀ word ∈ words, Foreign word) ∧
      (run (Workspace.fresh "/w" ["t"]) request).session.calls =
        [{ command := ["oxlint", "-f", "json", "src", "--type-aware", "-Dperf"]
           directory := linterDirectory }] := by
  intro words request
  have foreign : ∀ word ∈ words, Foreign word := by
    simp only [words, List.forall_mem_cons]
    refine ⟨.positional _ ?_, .long _ _ ?_ ?_, .letters _ _ ?_ ?_, ?_⟩
    · rintro point rest ⟨⟩
    · decide
    · decide
    · decide
    · decide
    · exact fun _ member => (List.not_mem_nil member).elim
  have settles :
      Settles (Workspace.fresh "/w" ["t"]) (request.withArguments []) {}
        (planOf {} {} { update := false, tighten := false } .human {})
        Log.warning :=
    .reached {} {} rfl rfl rfl rfl
  have chosen :
      Linter.chooseCommand (Workspace.fresh "/w" ["t"]) linterDirectory none =
        .ok (["oxlint"], none) := by
    decide +kernel
  have understood : parse words = .ok { linterArguments := words } := by
    decide +kernel
  obtain ⟨passedOn, effects⟩ := foreign_words_are_passed_on foreign
  exact
    ⟨foreign,
      (effects (passedOn.mp understood) _ _ _ _ _ _ _ settles chosen).2.1⟩

/--
The letters of a linter option are searched for letters of this program: a word
that forbids a rule loses one and asks for an update of the baseline.
-/
theorem foreign_rule_asks_for_update :
    let workspace := Workspace.fresh "/w" ["t"]
    let word : Text := "-Dno-debugger"
    let request : Request := {
      arguments := [word]
      linter := .finished [] [] 0
    }
    let passing := run workspace request
    let bare := run workspace (request.withArguments [])
    Foreign word ∧
      passing.session.calls =
        [{ command := ["oxlint", "-f", "json", "-Dno-debgger"]
           directory := linterDirectory }] ∧
        bare.session.workspace.files = [] ∧
          passing.session.workspace.files ≠ [] := by
  refine ⟨.letters _ _ ?_ ?_, ?_⟩
  · decide
  · decide
  · decide +kernel

end CommandLine

end Tolerance
