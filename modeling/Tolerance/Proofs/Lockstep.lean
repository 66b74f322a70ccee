import Tolerance.Proofs.Linter.Output
import Tolerance.Proofs.Printing

namespace Tolerance

/-!
# Runs side by side

Runs that differ only in what they say on standard error and in how they called
the linter stay in step: they go on with the same values, end in the same way,
and leave the same files and the same standard output.  Only a machine report
that names its source may tell them apart.
-/

open Outcome

namespace CommandLine

variable {Index Value Result : Type}

/-! ## Operations of several runs -/

/-- Operations, one for each run, all give the same value or all fail in the same way. -/
def Together
    (operations : Index → Act Value)
    (before : Index → Session)
    (returns : Value → (Index → Session) → Prop)
    (fails : Ending → (Index → Session) → Prop) :
    Prop :=
  (∃ value after,
    (∀ index, (operations index).run (before index) = .ok value (after index)) ∧
      returns value after) ∨
  (∃ ending after,
    (∀ index, (operations index).run (before index) = .error ending (after index)) ∧
      fails ending after)

namespace Together

variable {operations : Index → Act Value}
  {before : Index → Session}
  {returns weakerReturns : Value → (Index → Session) → Prop}
  {fails weakerFails : Ending → (Index → Session) → Prop}

theorem imp
    (together : Together operations before returns fails)
    (onValue : ∀ value after, returns value after → weakerReturns value after)
    (onFailure : ∀ ending after, fails ending after → weakerFails ending after) :
    Together operations before weakerReturns weakerFails := by
  rcases together with ⟨value, after, ran, returned⟩ | ⟨ending, after, ran, failed⟩
  · exact Or.inl ⟨value, after, ran, onValue value after returned⟩
  · exact Or.inr ⟨ending, after, ran, onFailure ending after failed⟩

/-- The second steps start where the first ones ended, unless those failed. -/
theorem bind
    {next : Index → Value → Act Result}
    {nextReturns : Result → (Index → Session) → Prop}
    (first :
      Together operations before
        (fun value between =>
          Together (fun index => next index value) between nextReturns fails)
        fails) :
    Together (fun index => operations index >>= next index) before nextReturns
      fails := by
  rcases first with ⟨value, between, ran, second⟩ | ⟨ending, after, ran, failed⟩
  · rcases second with
      ⟨result, after, ranSecond, returned⟩ | ⟨ending, after, ranSecond, failed⟩
    · refine Or.inl ⟨result, after, fun index => ?_, returned⟩
      rw [run_bind_of_ok (ran index)]
      exact ranSecond index
    · refine Or.inr ⟨ending, after, fun index => ?_, failed⟩
      rw [run_bind_of_ok (ran index)]
      exact ranSecond index
  · exact Or.inr ⟨ending, after, fun index => run_bind_of_error (ran index) _, failed⟩

/-- What comes next is asked with the present states. -/
theorem get_bind
    {next : Index → Session → Act Result}
    {nextReturns : Result → (Index → Session) → Prop}
    (second :
      Together (fun index => next index (before index)) before nextReturns
        fails) :
    Together (fun index => get >>= next index) before nextReturns fails :=
  second

/-- Runs that have come to other operations go on with those. -/
theorem of_run_eq
    {others : Index → Act Value}
    {between : Index → Session}
    (same :
      ∀ index,
        (operations index).run (before index) =
          (others index).run (between index))
    (together : Together others between returns fails) :
    Together operations before returns fails := by
  rcases together with ⟨value, after, ran, returned⟩ | ⟨ending, after, ran, failed⟩
  · exact
      Or.inl ⟨value, after, fun index => (same index).trans (ran index), returned⟩
  · exact
      Or.inr ⟨ending, after, fun index => (same index).trans (ran index), failed⟩

end Together

/-! ## Runs in step -/

/-- Where several runs are: in the same files, with what each of them printed and called. -/
structure SideBySide
    (workspace : Workspace)
    (printed : Index → Text)
    (calls : Index → List Linter.Call)
    (sessions : Index → Session) :
    Prop where
  workspace : ∀ index, (sessions index).workspace = workspace
  stdout : ∀ index, (sessions index).stdout = printed index
  calls : ∀ index, (sessions index).calls = calls index

/-- Runs have the same files and the same standard output. -/
def InStep
    (calls : Index → List Linter.Call)
    (sessions : Index → Session) :
    Prop :=
  ∃ workspace printed, SideBySide workspace (fun _ => printed) calls sessions

/-- Operations keep runs in step, whether they go on or end. -/
abbrev StayInStep
    (calls : Index → List Linter.Call)
    (operations : Index → Act Value)
    (before : Index → Session) :
    Prop :=
  Together operations before (fun _ after => InStep calls after)
    fun _ after => InStep calls after

variable {calls : Index → List Linter.Call} {before : Index → Session}

namespace StayInStep

theorem pure
    (inStep : InStep calls before)
    (value : Value) :
    StayInStep calls (fun _ => (pure value : Act Value)) before :=
  Or.inl ⟨value, before, fun _ => rfl, inStep⟩

theorem throw
    (inStep : InStep calls before)
    (ending : Ending) :
    StayInStep calls (fun _ => (throw ending : Act Value)) before :=
  Or.inr ⟨ending, before, fun _ => rfl, inStep⟩

theorem modify
    {changes : Index → Session → Session}
    (inStep : InStep calls fun index => changes index (before index)) :
    StayInStep calls (fun index => modify (changes index)) before :=
  Or.inl ⟨(), _, fun _ => rfl, inStep⟩

theorem bind
    {operations : Index → Act Value}
    {next : Index → Value → Act Result}
    (first : StayInStep calls operations before)
    (second :
      ∀ value between,
        InStep calls between →
        StayInStep calls (fun index => next index value) between) :
    StayInStep calls (fun index => operations index >>= next index) before :=
  Together.bind (first.imp (fun value between => second value between) fun _ _ => id)

theorem get_bind
    {next : Index → Session → Act Result}
    (second : StayInStep calls (fun index => next index (before index)) before) :
    StayInStep calls (fun index => get >>= next index) before :=
  Together.get_bind second

end StayInStep

/-! ## What keeps runs in step -/

section

variable (inStep : InStep calls before)

include inStep

theorem stayInStep_note
    (events : Index → Log.Event) :
    StayInStep calls (fun index => note (events index)) before := by
  obtain ⟨workspace, printed, beside⟩ := inStep
  exact .modify ⟨workspace, printed, beside.workspace, beside.stdout, beside.calls⟩

theorem stayInStep_printErrorLine
    (texts : Index → Text) :
    StayInStep calls (fun index => printErrorLine (texts index)) before := by
  obtain ⟨workspace, printed, beside⟩ := inStep
  exact .modify ⟨workspace, printed, beside.workspace, beside.stdout, beside.calls⟩

theorem stayInStep_print
    (text : Text) :
    StayInStep calls (fun _ => print text) before := by
  unfold print
  dsimp only
  split
  · exact .throw inStep _
  · obtain ⟨workspace, printed, beside⟩ := inStep
    refine .modify ⟨workspace, printed ++ text.withoutStyles, beside.workspace,
      fun index => ?_, beside.calls⟩
    exact congrArg (· ++ text.withoutStyles) (beside.stdout index)

theorem stayInStep_stopWith
    (messages : Index → Text) :
    StayInStep calls (fun index => (stopWith (messages index) : Act Value)) before :=
  .bind (stayInStep_printErrorLine inStep _) fun _ _ inStep => .throw inStep _

theorem stayInStep_orCrash
    {Failure : Type}
    (fault : Failure → Crash)
    (answer : Except Failure Value) :
    StayInStep calls (fun _ => orCrash fault answer) before := by
  unfold orCrash
  split
  · exact .pure inStep _
  · exact .throw inStep _

/-- Outputs of which all give the same diagnostics, or all are refused, are read alike. -/
theorem stayInStep_readDiagnostics
    {outputs errors : Index → Text}
    {rooms : Index → Nat}
    {reference : Except Linter.OutputError Linter.Output}
    (agree :
      ∀ index,
        Agree Linter.OutputError.SameKind reference
          (Linter.readOutput (outputs index) (errors index) (rooms index))) :
    StayInStep calls
      (fun index => readDiagnostics (outputs index) (errors index) (rooms index))
      before := by
  cases reference with
  | ok output =>
      have read (index : Index) :
          Linter.readOutput (outputs index) (errors index) (rooms index) =
            .ok output :=
        (agree index).eq_ok_iff.mpr rfl
      unfold readDiagnostics
      simp only [read]
      cases output.shape with
      | none => exact .pure inStep _
      | some shape =>
          exact .bind (stayInStep_note inStep _) fun _ _ inStep => .pure inStep _
  | error error =>
      have refused (index : Index) := (agree index).exists_eq_error
      cases error with
      | rejected fault stdout stderr =>
          have stops
              (index : Index) :
              ∃ message,
                readDiagnostics (outputs index) (errors index) (rooms index) =
                  stopWith message := by
            obtain ⟨other, read, sameKind⟩ := refused index
            unfold readDiagnostics
            rw [read]
            cases sameKind <;> exact ⟨_, rfl⟩
          choose messages same using stops
          simp only [same]
          exact stayInStep_stopWith inStep _
      | numeral fault =>
          have crashes
              (index : Index) :
              readDiagnostics (outputs index) (errors index) (rooms index) =
                crash (.numeral fault) := by
            obtain ⟨other, read, sameKind⟩ := refused index
            cases sameKind
            unfold readDiagnostics
            rw [read]
          simp only [crashes]
          exact .throw inStep _
      | tooDeep container =>
          have crashes
              (index : Index) :
              readDiagnostics (outputs index) (errors index) (rooms index) =
                crash (.deepJson container) := by
            obtain ⟨other, read, sameKind⟩ := refused index
            cases sameKind
            unfold readDiagnostics
            rw [read]
          simp only [crashes]
          exact .throw inStep _

theorem stayInStep_stopForStorage
    (error : Baseline.StorageError) :
    StayInStep calls (fun _ => (stopForStorage error : Act Value)) before := by
  cases error with
  | unreadable path fault => exact stayInStep_stopWith inStep _
  | corrupt path fault => exact stayInStep_stopWith inStep _
  | unwritable path fault => exact stayInStep_stopWith inStep _
  | undecodable fault => exact .throw inStep _
  | tooDeep container => exact .throw inStep _
  | inaccessible fault => exact .throw inStep _
  | numeral fault => exact .throw inStep _

theorem stayInStep_loadBaseline
    (path : Path)
    (room : Baseline.Room) :
    StayInStep calls (fun _ => loadBaseline path room) before := by
  refine .get_bind ?_
  have ⟨workspace, printed, beside⟩ := inStep
  simp only [beside.workspace]
  split
  · exact stayInStep_stopForStorage inStep _
  · exact .bind (stayInStep_note inStep _) fun _ _ inStep => .pure inStep _
  · exact .bind (stayInStep_note inStep _) fun _ _ inStep => .pure inStep _

theorem stayInStep_saveBaseline
    (path : Path)
    (baseline : Baseline) :
    StayInStep calls (fun _ => saveBaseline path baseline) before := by
  refine .get_bind ?_
  have ⟨workspace, printed, beside⟩ := inStep
  simp only [beside.workspace]
  split
  · next saved _ =>
      exact .bind (.modify ⟨saved, printed, fun _ => rfl, beside.stdout, beside.calls⟩)
        fun _ _ inStep => stayInStep_stopForStorage inStep _
  · next saved _ =>
      exact .bind (.modify ⟨saved, printed, fun _ => rfl, beside.stdout, beside.calls⟩)
        fun _ _ inStep => stayInStep_note inStep _

theorem stayInStep_updateBaseline
    (plan : Plan)
    (diagnostics : List Diagnostic) :
    StayInStep calls (fun _ => updateBaseline plan diagnostics) before := by
  unfold updateBaseline
  refine .bind (stayInStep_loadBaseline inStep _ _) fun current _ inStep => ?_
  refine .bind (stayInStep_saveBaseline inStep _ _) fun _ _ inStep => ?_
  refine .bind (stayInStep_note inStep _) fun _ _ inStep => ?_
  cases plan.format with
  | json =>
      exact .bind (stayInStep_orCrash inStep _ _) fun _ _ inStep =>
        stayInStep_print inStep _
  | human =>
      refine .bind (stayInStep_print inStep _) fun _ _ inStep => ?_
      refine .bind (stayInStep_print inStep _) fun _ _ inStep => ?_
      exact .bind (stayInStep_orCrash inStep _ _) fun _ _ inStep =>
        stayInStep_print inStep _

theorem stayInStep_tightenBaseline
    (plan : Plan)
    (current : Baseline)
    (diagnostics : List Diagnostic) :
    StayInStep calls (fun _ => tightenBaseline plan current diagnostics) before := by
  unfold tightenBaseline
  refine .bind (stayInStep_saveBaseline inStep _ _) fun _ _ inStep => ?_
  dsimp only
  cases plan.format with
  | json =>
      refine .bind (stayInStep_printErrorLine inStep _) fun _ _ inStep => ?_
      exact .bind (stayInStep_orCrash inStep _ _) fun _ _ inStep =>
        stayInStep_printErrorLine inStep _
  | human =>
      refine .bind (stayInStep_print inStep _) fun _ _ inStep => ?_
      exact .bind (stayInStep_orCrash inStep _ _) fun _ _ inStep =>
        stayInStep_printErrorLine inStep _

end

/-! ## Reports that name their source -/

/-- What is printed says nothing of its source, or says it where a report has a place for it. -/
inductive VariesInSource : (Text → Text) → Prop where
  | nowhere (printed : Text) : VariesInSource fun _ => printed
  | report
      (front : Text)
      (groups : List Excess)
      (baselinePath : Text)
      (reports : Text → Text)
      (written :
        ∀ source,
          Report.machine (Report.checkToJson groups baselinePath source) =
            .ok (reports source)) :
      VariesInSource fun source => front ++ (reports source ++ "\n")

/-- Runs have the same files, and the same standard output but for the names of their sources. -/
def Reported
    (sources : Index → Text)
    (calls : Index → List Linter.Call)
    (sessions : Index → Session) :
    Prop :=
  ∃ workspace printed,
    VariesInSource printed ∧
      SideBySide workspace (fun index => printed (sources index)) calls sessions

theorem InStep.reported
    (inStep : InStep calls before)
    (sources : Index → Text) :
    Reported sources calls before := by
  obtain ⟨workspace, printed, beside⟩ := inStep
  exact ⟨workspace, fun _ => printed, .nowhere printed, beside⟩

/-- Operations keep runs in step but for the names of their sources. -/
abbrev ReportAlike
    (sources : Index → Text)
    (calls : Index → List Linter.Call)
    (operations : Index → Act Value)
    (before : Index → Session) :
    Prop :=
  Together operations before (fun _ after => Reported sources calls after)
    fun _ after => Reported sources calls after

theorem StayInStep.reportAlike
    {operations : Index → Act Value}
    (stay : StayInStep calls operations before)
    (sources : Index → Text) :
    ReportAlike sources calls operations before :=
  stay.imp (fun _ _ inStep => inStep.reported sources)
    fun _ _ inStep => inStep.reported sources

/-- What keeps runs in step comes before what may name their sources. -/
theorem ReportAlike.andThen
    {operations : Index → Act Value}
    {next : Index → Value → Act Result}
    {sources : Index → Text}
    (first : StayInStep calls operations before)
    (second :
      ∀ value between,
        InStep calls between →
        ReportAlike sources calls (fun index => next index value) between) :
    ReportAlike sources calls (fun index => operations index >>= next index)
      before :=
  Together.bind
    (first.imp (fun value between => second value between)
      fun _ _ inStep => inStep.reported sources)

/-- The groups in excess are reported alike but for the names of their sources. -/
theorem reportAlike_reportExcess
    (inStep : InStep calls before)
    (sources : Index → Text)
    (plan : Plan)
    (groups : List Excess) :
    ReportAlike sources calls
      (fun index => reportExcess plan (sources index) groups) before := by
  unfold reportExcess
  cases plan.format with
  | human =>
      dsimp only
      split
      · exact (stayInStep_print inStep _).reportAlike sources
      · refine StayInStep.reportAlike (.get_bind ?_) sources
        have ⟨workspace, printed, beside⟩ := inStep
        simp only [beside.workspace]
        exact .bind (stayInStep_orCrash inStep _ _) fun _ _ inStep =>
          stayInStep_printErrorLine inStep _
  | json =>
      dsimp only
      rcases Report.machine_checkToJson_cases groups plan.store.toText with
        ⟨reports, written⟩ | ⟨fault, failed⟩
      · obtain ⟨workspace, printed, beside⟩ := inStep
        have plain (source : Text) : Text.Plain (reports source ++ "\n") :=
          (Report.machine_of_reportable (Report.reportable_checkToJson _ _ _)
            (written source)).1.plain.append (by decide)
        simp only [written]
        refine
          Or.inl ⟨(), _, fun index => run_print_of_plain (plain (sources index)),
            workspace, _, .report printed groups _ reports written,
            beside.workspace, fun index => ?_, beside.calls⟩
        exact congrArg (· ++ _) (beside.stdout index)
      · simp only [failed]
        exact (StayInStep.throw inStep _).reportAlike sources

/-- A check is reported alike but for the names of its sources. -/
theorem reportAlike_checkBaseline
    (inStep : InStep calls before)
    (sources : Index → Text)
    (plan : Plan)
    (diagnostics : List Diagnostic) :
    ReportAlike sources calls
      (fun index => checkBaseline plan (sources index) diagnostics) before := by
  have fromReport
      {between : Index → Session}
      (inStep : InStep calls between)
      (groups : List Excess) :
      ReportAlike sources calls
        (fun index => do
          reportExcess plan (sources index) groups
          if !groups.isEmpty && plan.failOnExcess then
            throw (.exit exitExcess)) between := by
    refine Together.bind
      ((reportAlike_reportExcess inStep sources plan groups).imp
        (fun _ after reported => ?_) fun _ _ => id)
    split
    · exact Or.inr ⟨_, after, fun _ => rfl, reported⟩
    · exact Or.inl ⟨(), after, fun _ => rfl, reported⟩
  unfold checkBaseline
  refine .andThen (stayInStep_loadBaseline inStep _ _) fun current _ inStep => ?_
  refine .andThen (stayInStep_note inStep _) fun _ _ inStep => ?_
  dsimp only
  split
  · exact .andThen (stayInStep_tightenBaseline inStep _ _ _) fun _ _ inStep =>
      fromReport inStep _
  · exact fromReport inStep _

/-- What was seen alike has the same effect but for the names of its sources. -/
theorem reportAlike_conclude
    (inStep : InStep calls before)
    (sources : Index → Text)
    (plan : Plan)
    (diagnostics : List Diagnostic) :
    ReportAlike sources calls
      (fun index => conclude plan (sources index) diagnostics) before := by
  unfold conclude
  split
  · exact (stayInStep_updateBaseline inStep plan diagnostics).reportAlike sources
  · exact reportAlike_checkBaseline inStep sources plan diagnostics

/-! ## Whole runs -/

/-- Runs that are alike all along have ended in the same way. -/
theorem exists_ending_of_together
    {workspace : Workspace}
    {requests : Index → Request}
    {statement : (Index → Session) → Prop}
    (together :
      Together (fun index => act (requests index))
        (fun _ => { workspace := workspace }) (fun _ => statement)
        fun _ => statement) :
    ∃ ending after,
      statement after ∧
        ∀ index,
          run workspace (requests index) =
            { ending := ending, session := after index } := by
  rcases together with ⟨_, after, ran, reported⟩ | ⟨ending, after, ran, reported⟩
  · refine ⟨.exit exitOk, after, reported, fun index => ?_⟩
    unfold run
    rw [show act (requests index) { workspace := workspace } = _ from ran index]
  · refine ⟨ending, after, reported, fun index => ?_⟩
    unfold run
    rw [show act (requests index) { workspace := workspace } = _ from ran index]

end CommandLine

end Tolerance
