import Tolerance.Proofs.Printing
import Tolerance.Proofs.Replacement

namespace Tolerance

/-!
# What a run does to the files

A run changes files only by saving a baseline, and only after everything was
read and checked.  What can still go wrong then is that the report cannot be put
into words or printed; in all other cases a run that fails leaves every file as
it was.
-/

open Outcome Workspace

namespace CommandLine

/-- The files are the same. -/
def SameFiles (before after : Session) : Prop :=
  after.workspace = before.workspace

instance : Accumulates SameFiles where
  refl _ := rfl
  trans earlier later := Eq.trans later earlier

variable {before : Session} {Value : Type}

/-- What changes nothing that counts leaves the files the same. -/
theorem sameFiles_of_quietly
    {operation : Act Value}
    {returns : Value → Prop}
    {fails : Ending → Prop}
    (quietly : Quietly operation before returns fails) :
    Within SameFiles operation before returns fails :=
  Guarantees.imp quietly
    (fun _ _ both => ⟨both.1, both.2.workspace⟩)
    fun _ _ both => ⟨both.1, both.2.workspace⟩

theorem sameFiles_print
    (text : Text) :
    Within SameFiles (print text) before (fun _ => True) Ending.Unprinted := by
  refine Guarantees.imp (guarantees_print text) ?_ ?_
  · rintro _ after ⟨same, _⟩
    exact ⟨trivial, same⟩
  · rintro ending _ ⟨unprinted, rfl⟩
    exact ⟨unprinted, rfl⟩

theorem sameFiles_printLine
    (text : Text) :
    Within SameFiles (printLine text) before (fun _ => True)
      Ending.Unprinted :=
  sameFiles_print _

/-- Words that hold a number are found, or the number has too many digits. -/
theorem sameFiles_orCrash_numeral
    (words : Except Numeral.Fault Text) :
    Within SameFiles (orCrash .numeral words) before (fun _ => True)
      Ending.Unprinted := by
  unfold orCrash
  split
  · exact .pure trivial
  · exact .throw (.numeral _)

theorem sameFiles_printErrorLine
    (text : Text) :
    Within SameFiles (printErrorLine text) before (fun _ => True)
      Ending.Unprinted :=
  sameFiles_of_quietly (quietly_printErrorLine text)

/-- A run that started with these files has saved a baseline. -/
def Saved
    (path : Path)
    (baseline : Baseline)
    (start : Workspace)
    (after : Session) :
    Prop :=
  ∃ text,
    baseline.fileText = .ok text ∧
      Baseline.Replaced path (text.flatMap Utf8.encodePoint) start
        after.workspace

/-- A run has saved what it made of the baseline that it loaded. -/
inductive Revised
    (machine : Machine)
    (start : Workspace)
    (after : Session) :
    Prop where
  | update
      (path : Path)
      (current : Baseline)
      (diagnostics : List Diagnostic)
      (loaded : Baseline.load start path machine.updateRoom = .ok current)
      (saved : Saved path (current.absorb diagnostics) start after)
  | tighten
      (path : Path)
      (current : Baseline)
      (diagnostics : List Diagnostic)
      (loaded : Baseline.load start path machine.checkRoom = .ok current)
      (saved : Saved path (current.tighten diagnostics) start after)

/-- What becomes of the files is all that matters. -/
theorem Revised.of_sameFiles
    {machine : Machine}
    {start : Workspace}
    {between after : Session}
    (same : SameFiles between after)
    (revised : Revised machine start between) :
    Revised machine start after := by
  have savedLater
      {path : Path}
      {baseline : Baseline}
      (saved : Saved path baseline start between) :
      Saved path baseline start after := by
    rw [Saved, show after.workspace = between.workspace from same]
    exact saved
  cases revised with
  | update path current diagnostics loaded saved =>
      exact .update path current diagnostics loaded (savedLater saved)
  | tighten path current diagnostics loaded saved =>
      exact .tighten path current diagnostics loaded (savedLater saved)

/-- What was revised is what an update or a tightening makes of the baseline. -/
theorem Revised.exists_saved
    {machine : Machine}
    {start : Workspace}
    {after : Session}
    (revised : Revised machine start after) :
    ∃ path current diagnostics next,
      (Baseline.load start path machine.updateRoom = .ok current ∧
          next = Baseline.absorb current diagnostics ∨
        Baseline.load start path machine.checkRoom = .ok current ∧
          next = Baseline.tighten current diagnostics) ∧
        Saved path next start after := by
  cases revised with
  | update path current diagnostics loaded saved =>
      exact ⟨path, current, diagnostics, _, Or.inl ⟨loaded, rfl⟩, saved⟩
  | tighten path current diagnostics loaded saved =>
      exact ⟨path, current, diagnostics, _, Or.inr ⟨loaded, rfl⟩, saved⟩

/-- A baseline is saved, or no file is changed. -/
theorem guarantees_saveBaseline
    (path : Path)
    (baseline : Baseline) :
    Guarantees (saveBaseline path baseline) before
      (fun _ after => Saved path baseline before.workspace after)
      (fun _ after =>
        AddsDirectories before.workspace after.workspace) := by
  unfold saveBaseline
  refine Guarantees.get_bind ?_
  cases ran : (Baseline.save path baseline).run before.workspace with
  | ok _ workspace =>
      obtain ⟨text, wrote, replaced⟩ :=
        Baseline.guarantees_saveDespite.of_run_eq_ok ran
      rw [show Baseline.save path baseline before.workspace = _ from ran]
      refine Guarantees.modify_bind
        (Guarantees.imp (quietly_note _) ?_ fun _ _ impossible =>
          False.elim impossible.1)
      rintro _ after ⟨_, untouched⟩
      refine ⟨text, wrote, ?_⟩
      rw [untouched.workspace]
      exact replaced
  | error error workspace =>
      obtain ⟨_, adds⟩ :=
        Baseline.guarantees_saveDespite.of_run_eq_error ran
      rw [show Baseline.save path baseline before.workspace = _ from ran]
      refine Guarantees.modify_bind
        (Guarantees.imp (quietly_stopForStorage error)
          (fun _ _ impossible => False.elim impossible.1) ?_)
      rintro _ after ⟨_, untouched⟩
      rw [untouched.workspace]
      exact adds

/-! ## The endings -/

/--
Either no file has been changed, or a baseline was saved and the run ends with a
verdict, unless its report cannot be put into words or printed.
-/
def FilesAccountedFor
    (machine : Machine)
    (start : Workspace)
    (ending : Ending)
    (after : Session) :
    Prop :=
  AddsDirectories start after.workspace ∨
    Revised machine start after ∧
      (ending = .exit exitOk ∨ ending = .exit exitExcess ∨ ending.Unprinted)

theorem filesAccountedFor_of_sameFiles
    {machine : Machine}
    {after : Session}
    (ending : Ending)
    (same : SameFiles before after) :
    FilesAccountedFor machine before.workspace ending after := by
  refine Or.inl ?_
  rw [show after.workspace = before.workspace from same]
  exact AddsDirectories.refl before.workspace

theorem filesAccountedFor_of_untouched
    {machine : Machine}
    {after : Session}
    (ending : Ending)
    (untouched : Untouched before after) :
    FilesAccountedFor machine before.workspace ending after :=
  filesAccountedFor_of_sameFiles ending untouched.workspace

/-- After a baseline was saved only the report may fail. -/
theorem guarantees_after_saveBaseline
    {machine : Machine}
    {path : Path}
    {baseline : Baseline}
    {next : Unit → Act Unit}
    (revises :
      ∀ after,
        Saved path baseline before.workspace after →
        Revised machine before.workspace after)
    (reports :
      ∀ between,
        Within SameFiles (next ()) between (fun _ => True) Ending.Unprinted) :
    Guarantees (saveBaseline path baseline >>= next) before
      (fun _ after => Revised machine before.workspace after)
      (FilesAccountedFor machine before.workspace) := by
  refine Guarantees.bind (Guarantees.imp (guarantees_saveBaseline _ _) ?_
    fun _ _ adds => Or.inl adds)
  intro _ between saved
  have revised := revises between saved
  refine Guarantees.imp (reports between) ?_ ?_
  · rintro _ after ⟨_, same⟩
    exact revised.of_sameFiles same
  · rintro ending after ⟨unprinted, same⟩
    exact Or.inr ⟨revised.of_sameFiles same, Or.inr (Or.inr unprinted)⟩

theorem guarantees_updateBaseline
    (plan : Plan)
    (diagnostics : List Diagnostic) :
    Guarantees (updateBaseline plan diagnostics) before
      (fun _ after => Revised plan.machine before.workspace after)
      (FilesAccountedFor plan.machine before.workspace) := by
  unfold updateBaseline
  refine Within.andThen (quietly_loadBaseline plan.store _)
    (fun ending _ _ untouched => filesAccountedFor_of_untouched ending untouched)
    ?_
  intro current between loaded untouched
  rw [← untouched.workspace] at loaded ⊢
  refine guarantees_after_saveBaseline
    (fun _ saved => .update plan.store current diagnostics loaded saved)
    fun later => ?_
  refine (sameFiles_of_quietly (quietly_note _)).bind fun _ _ _ _ => ?_
  split
  · exact
      (sameFiles_orCrash_numeral _).bind fun _ _ _ _ => sameFiles_printLine _
  · refine (sameFiles_printLine _).bind fun _ _ _ _ => ?_
    refine (sameFiles_printLine _).bind fun _ _ _ _ => ?_
    exact
      (sameFiles_orCrash_numeral _).bind fun _ _ _ _ => sameFiles_printLine _

theorem guarantees_tightenBaseline
    {plan : Plan}
    {current : Baseline}
    (loaded :
      Baseline.load before.workspace plan.store plan.machine.checkRoom =
        .ok current)
    (diagnostics : List Diagnostic) :
    Guarantees (tightenBaseline plan current diagnostics) before
      (fun _ after => Revised plan.machine before.workspace after)
      (FilesAccountedFor plan.machine before.workspace) := by
  unfold tightenBaseline
  refine guarantees_after_saveBaseline
    (fun _ saved => .tighten plan.store current diagnostics loaded saved)
    fun later => ?_
  dsimp only
  have listsChanges
      {between : Session} :
      Within SameFiles
        (do
          printErrorLine
            (← orCrash .numeral
              (Report.changes
                (Baseline.changes current
                  (Baseline.tighten current diagnostics)))))
        between (fun _ => True) Ending.Unprinted :=
    (sameFiles_orCrash_numeral _).bind fun _ _ _ _ => sameFiles_printErrorLine _
  split
  · exact (sameFiles_printErrorLine _).bind fun _ _ _ _ => listsChanges
  · exact (sameFiles_printLine _).bind fun _ _ _ _ => listsChanges

/-- What a check reports in the end changes no more files. -/
theorem guarantees_report_files
    {start : Workspace}
    (plan : Plan)
    (source : Text)
    (groups : List Excess)
    (accounted :
      AddsDirectories start before.workspace ∨
        Revised plan.machine start before) :
    Guarantees
      (do
        reportExcess plan source groups
        if !groups.isEmpty && plan.failOnExcess then
          throw (.exit exitExcess))
      before
      (fun _ after => FilesAccountedFor plan.machine start (.exit exitOk) after)
      (FilesAccountedFor plan.machine start) := by
  have accountedLater
      {ending : Ending}
      {after : Session}
      (same : SameFiles before after)
      (permitted :
        ending = .exit exitOk ∨ ending = .exit exitExcess ∨
          ending.Unprinted) :
      FilesAccountedFor plan.machine start ending after := by
    rcases accounted with adds | revised
    · refine Or.inl ?_
      rw [show after.workspace = before.workspace from same]
      exact adds
    · exact Or.inr ⟨revised.of_sameFiles same, permitted⟩
  refine Guarantees.bind
    (Guarantees.imp (guarantees_reportExcess plan source groups) ?_ ?_)
  · rintro _ after ⟨same, _⟩
    split
    · exact accountedLater same (Or.inr (Or.inl rfl))
    · exact accountedLater same (Or.inl rfl)
  · rintro ending after ⟨unprinted, same⟩
    exact accountedLater same (Or.inr (Or.inr unprinted))

theorem guarantees_checkBaseline_files
    (plan : Plan)
    (source : Text)
    (diagnostics : List Diagnostic) :
    Guarantees (checkBaseline plan source diagnostics) before
      (fun _ after =>
        FilesAccountedFor plan.machine before.workspace (.exit exitOk) after)
      (FilesAccountedFor plan.machine before.workspace) := by
  unfold checkBaseline
  refine Within.andThen (quietly_loadBaseline plan.store _)
    (fun ending _ _ untouched => filesAccountedFor_of_untouched ending untouched)
    ?_
  intro current between loaded first
  dsimp only
  refine Within.andThen (quietly_note _)
    (fun _ _ impossible _ => False.elim impossible) fun _ later _ second => ?_
  have untouched := Accumulates.trans first second
  rw [← untouched.workspace] at loaded ⊢
  split
  · refine Guarantees.bind
      (Guarantees.imp (guarantees_tightenBaseline loaded diagnostics) ?_
        fun _ _ accounted => accounted)
    intro _ after revised
    exact guarantees_report_files plan source _ (Or.inr revised)
  · exact
      guarantees_report_files plan source _
        (Or.inl (AddsDirectories.refl later.workspace))

theorem guarantees_act_files
    (request : Request) :
    Guarantees (act request) before
      (fun _ after =>
        FilesAccountedFor request.machine before.workspace (.exit exitOk) after)
      (FilesAccountedFor request.machine before.workspace) := by
  have refused
      (ending : Ending) :
      FilesAccountedFor request.machine before.workspace ending before :=
    filesAccountedFor_of_sameFiles ending (Accumulates.refl before)
  have printed
      (text : Text) :
      Guarantees (print text) before
        (fun _ after =>
          FilesAccountedFor request.machine before.workspace (.exit exitOk) after)
        (FilesAccountedFor request.machine before.workspace) :=
    Guarantees.imp (sameFiles_print text)
      (fun _ _ both => filesAccountedFor_of_sameFiles _ both.2)
      fun _ _ both => filesAccountedFor_of_sameFiles _ both.2
  unfold act
  split
  · exact refused _
  split
  · next notice _ =>
      cases notice with
      | version => exact printed (Report.version ++ "\n")
      | configTemplate => exact printed Settings.template
  split
  · exact refused _
  · exact refused _
  refine guarantees_perform
    (fun ending _ _ untouched => filesAccountedFor_of_untouched ending untouched)
    ?_
  intro settings format between first _ _ _
  refine Within.andThen (quietly_collectDiagnostics _ _ _) ?_ ?_
  · intro ending after _ second
    exact
      filesAccountedFor_of_untouched ending (Accumulates.trans first second)
  intro diagnostics later _ second
  rw [← (Accumulates.trans first second).workspace]
  split
  · refine Guarantees.imp (guarantees_updateBaseline _ _) ?_
      fun _ _ accounted => accounted
    exact fun _ _ revised => Or.inr ⟨revised, Or.inl rfl⟩
  · exact guarantees_checkBaseline_files _ _ _

/--
Whatever the command line, the settings, the environment, the linter output and
the files are: either a run changes no file and makes directories at most, or it
revises the baseline that it loaded, puts the text of the new one in the place
of the old one, and changes nothing else.  In the second case it does not end
with code 2 and not because of how it was asked for: it ends with code 0 or 1,
unless the report on what was done cannot be put into words or printed.
-/
theorem run_changes_nothing_or_revises
    (workspace : Workspace)
    (request : Request) :
    let ending := (run workspace request).ending
    let after := (run workspace request).session.workspace
    AddsDirectories workspace after ∨
      (ending = .exit exitOk ∨ ending = .exit exitExcess ∨ ending.Unprinted) ∧
        ∃ path current diagnostics revised text target,
          (Baseline.load workspace path request.machine.updateRoom =
                .ok current ∧
              revised = Baseline.absorb current diagnostics ∨
            Baseline.load workspace path request.machine.checkRoom =
                .ok current ∧
              revised = Baseline.tighten current diagnostics) ∧
            revised.fileText = .ok text ∧
              after.locate path = .ok target ∧
                workspace.NoDirectoryAt target ∧
                  AddsDirectories
                    (workspace.put target
                      (.file (text.flatMap Utf8.encodePoint)
                        (workspace.modeAt target)))
                    after := by
  intro ending after
  have accounted : FilesAccountedFor request.machine workspace ending _ :=
    guarantees_run (guarantees_act_files request)
  rcases accounted with adds | ⟨revised, permitted⟩
  · exact Or.inl adds
  obtain ⟨path, current, diagnostics, next, revises, text, wrote, replaced⟩ :=
    revised.exists_saved
  obtain ⟨target, located, noDirectory, adds⟩ := replaced.exists_target
  exact
    Or.inr
      ⟨permitted, path, current, diagnostics, next, text, target, revises, wrote,
        located, noDirectory, adds⟩

/--
A rule whose name is half of a surrogate pair is saved, because the baseline
escapes it, and then the list of changes cannot be printed: the run ends with a
failure and has changed a file.
-/
theorem unprintable_change_was_saved :
    let workspace := Workspace.fresh "/w" ["t"]
    let output : Text :=
      "\x7b\"diagnostics\": [\x7b\"filename\": \"x\", \"code\": \"\\ud800\"\x7d]\x7d"
    let request : Request := {
      arguments := ["--stdin", "-u"]
      stdin := output.flatMap Utf8.encodePoint
    }
    let outcome := run workspace request
    outcome.ending =
        .crash (.unprintable { start := 23, stop := 24, point := 0xd800 }) ∧
      workspace.files = [] ∧
        outcome.session.workspace.files ≠ [] := by
  decide +kernel

end CommandLine

end Tolerance
