import Tolerance.Proofs.Directories
import Tolerance.Proofs.Document

namespace Tolerance.Baseline

/-!
# A saved baseline is loaded again

A file is replaced through a temporary file beside it that takes its place, so
that what was written is what stands at the path afterwards.  Together with the
stored form of a baseline this gives back what was saved.
-/

open Access Workspace Outcome

variable {before after : Workspace} {path temporary : Path}
  {contents : Bytes} {outages : SaveStep → Option Outage}

/--
What a step guarantees it guarantees despite failures from outside, if its
beginning may be all that is done.
-/
theorem guarantees_attempt
    {Value : Type}
    {step : SaveStep}
    {beginning : Nat → Access Unit}
    {action : Access Value}
    {returns : Value → Workspace → Prop}
    {fails : AccessFault → Workspace → Prop}
    (begun :
      ∀ progress,
        Guarantees (beginning progress) before
          (fun _ after => ∀ cause, fails (.system cause) after) fails)
    (done : Guarantees action before returns fails) :
    Guarantees (attempt outages step beginning action) before returns
      fails := by
  unfold attempt
  split
  · next outage _ =>
      refine Guarantees.bind
        ((begun outage.progress).imp ?_ fun _ _ failed => failed)
      exact fun _ _ thrown => thrown outage.fault
  · exact done

/-- Looking for the permissions changes nothing. -/
theorem guarantees_modeFor :
    Guarantees (modeFor path) before
      (fun _ after => after = before)
      (fun fault after =>
        (path.Accepted → fault.FromSystem) ∧ after = before) := by
  unfold modeFor
  refine Guarantees.get_bind ?_
  split
  · exact rfl
  · split
    · exact rfl
    · exact ⟨fun _ => ⟨_, rfl⟩, rfl⟩
  · next refused =>
      exact ⟨fromSystem_of_status_eq_error refused, rfl⟩

theorem run_modeFor
    {node : Node}
    (statusIs : before.status path = .ok node) :
    (modeFor path).run before = .ok node.mode before := by
  rw [modeFor, EStateM.run_bind, EStateM.run_get]
  dsimp only
  rw [statusIs]
  rfl

/-- The permissions are those at the location that the path leads to. -/
theorem mode_of_run_modeFor
    {target : Location}
    {mode : Nat}
    (located : before.locate path = .ok target)
    (found : (modeFor path).run before = .ok mode after) :
    mode = before.modeAt target := by
  rw [modeFor, run_bind_eq_ok_iff] at found
  obtain ⟨_, _, got, found⟩ := found
  cases got
  rw [Workspace.status, located] at found
  rw [modeAt]
  dsimp only at found
  cases there : before.nodeAt? target with
  | none =>
      rw [there] at found
      cases found
      rfl
  | some node =>
      rw [there] at found
      cases found
      rfl

/--
How a file takes the place of another one: it was filled beside it under a name
of its own and then moved, and no directory was lost.
-/
inductive Installed
    (path : Path)
    (contents : Bytes)
    (source : Location)
    (before after : Workspace) :
    Prop where
  | moved
      (filled : Workspace)
      (target : Location)
      (mode : Nat)
      (keeps : KeepsDirectories before filled)
      (leaves : LeavesFile source before filled)
      (filledSource :
        filled.nodeAt? source = some (.file contents mode))
      (locatedTarget : filled.locate path = .ok target)
      (named : endsWithName path = true)
      (noDirectory : filled.NoDirectoryAt target)
      (kept : target ≠ source → mode = before.modeAt target)
      (result :
        after = (filled.erase source).put target (.file contents mode))

/-- A file that was filled beside the path is installed by moving it there. -/
theorem installed_of_run_rename
    {source : Location}
    {filled : Workspace}
    {mode : Nat}
    (keeps : KeepsDirectories before filled)
    (leaves : LeavesFile source before filled)
    (located : before.locate temporary = .ok source)
    (filledSource : filled.nodeAt? source = some (.file contents mode))
    (kept :
      ∀ target,
        filled.locate path = .ok target →
        target ≠ source →
        mode = before.modeAt target)
    (moved : (rename temporary path).run filled = .ok () after) :
    Installed path contents source before after := by
  obtain ⟨old, target, node, locatedOld, locatedTarget, named, noDirectory,
      foundOld, result⟩ :=
    run_rename_eq_ok_iff.mp moved
  rw [keeps.locate located] at locatedOld
  cases locatedOld
  rw [filledSource] at foundOld
  cases foundOld
  exact
    .moved filled target mode keeps leaves filledSource locatedTarget named
      noDirectory (kept target locatedTarget) result

/-- A file is installed in its place, or else the other files stay as they are. -/
theorem guarantees_install
    {source : Location}
    {old : Bytes}
    {oldMode : Nat}
    (located : before.locate temporary = .ok source)
    (found : before.nodeAt? source = some (.file old oldMode)) :
    Guarantees (install outages temporary path contents) before
      (fun _ after => Installed path contents source before after)
      (fun fault after =>
        (path.Accepted → fault.FromSystem) ∧
          LeavesFile source before after) := by
  have writtenPart (count : Nat) :=
    LeavesFile.put before source (contents.take count) oldMode
  have written := LeavesFile.put before source contents oldMode
  have foundWritten :=
    nodeAt?_put_self before source (.file contents oldMode)
  have keepsWritten :=
    written.keepsDirectories (noDirectoryAt_of_eq_file found)
  unfold install
  refine Guarantees.bind (guarantees_attempt ?_ ?_)
  · intro count
    exact
      .of_run (run_writeFile located found) fun cause =>
        ⟨fun _ => ⟨cause, rfl⟩, writtenPart count⟩
  refine .of_run (run_writeFile located found) ?_
  refine Guarantees.bind (guarantees_attempt
    (fun _ cause => ⟨fun _ => ⟨cause, rfl⟩, written⟩)
    ((Guarantees.self _ _).imp ?_ ?_))
  rotate_left
  · intro fault _ refused
    obtain ⟨fromSystem, rfl⟩ := guarantees_modeFor.of_run_eq_error refused
    exact ⟨fromSystem, written⟩
  intro mode _ readMode
  obtain rfl := guarantees_modeFor.of_run_eq_ok readMode
  have filled :=
    written.trans (LeavesFile.put _ source contents mode)
  have keepsFilled := filled.keepsDirectories (noDirectoryAt_of_eq_file found)
  have changed :
      (changeMode temporary mode).run
          (before.put source (.file contents oldMode)) =
        .ok () _ :=
    run_changeMode (keepsWritten.locate located) foundWritten
  rw [Node.withMode] at changed
  refine Guarantees.bind (guarantees_attempt
    (fun _ cause => ⟨fun _ => ⟨cause, rfl⟩, written⟩) (.of_run changed ?_))
  refine guarantees_attempt
    (fun _ cause => ⟨fun _ => ⟨cause, rfl⟩, filled⟩)
    ((Guarantees.self _ _).imp ?_ ?_)
  · intro _ after moved
    refine
      installed_of_run_rename keepsFilled filled located
        (nodeAt?_put_self _ _ _) ?_ moved
    intro target locatedTarget different
    have locatedWritten :=
      keepsWritten.locate
        (filled.keepsDirectories_back.locate locatedTarget)
    rw [mode_of_run_modeFor locatedWritten readMode]
    exact modeAt_eq rfl (written.elsewhere target different)
  · intro fault after refused
    obtain ⟨fromSystem, rfl⟩ := guarantees_rename.of_run_eq_error refused
    have accepted := accepted_of_locate (keepsFilled.locate located)
    exact ⟨fromSystem accepted, filled⟩

theorem Installed.named
    {source : Location}
    (installed : Installed path contents source before after) :
    endsWithName path = true := by
  obtain ⟨_, _, _, _, _, _, _, named, _, _, _⟩ := installed
  exact named

/-- Installing a file loses no directory. -/
theorem Installed.keepsDirectories
    {source : Location}
    (installed : Installed path contents source before after) :
    KeepsDirectories before after := by
  obtain ⟨filled, target, mode, keeps, _, filledSource, _, _, noDirectory, _,
      rfl⟩ :=
    installed
  have erased := KeepsDirectories.erase (noDirectoryAt_of_eq_file filledSource)
  exact
    (keeps.trans erased).trans
      (KeepsDirectories.put (noDirectory.erase source) _)

/-- The name of the temporary file is free after it was installed. -/
theorem Installed.nodeAt?_source
    {source : Location}
    {folder : Path}
    {token : Text}
    (installed : Installed path contents source before after)
    (isTemporary : temporary = folder.child (temporaryName path.name token))
    (located : before.locate temporary = .ok source) :
    after.nodeAt? source = none := by
  obtain ⟨filled, target, mode, keeps, _, _, locatedTarget, named, _, _,
      rfl⟩ :=
    installed
  have elsewhere : source ≠ target :=
    locate_temporary_ne named (isTemporary ▸ keeps.locate located)
      locatedTarget
  rw [nodeAt?_put, if_neg (Ne.symm elsewhere), nodeAt?_erase, if_pos rfl]

/-- What was installed is what stands at the path. -/
theorem Installed.status_eq
    {source : Location}
    (installed : Installed path contents source before after) :
    ∃ mode, after.status path = .ok (.file contents mode) := by
  obtain ⟨filled, target, mode, _, _, filledSource, locatedTarget, _,
      noDirectory, _, rfl⟩ :=
    installed
  have erased := KeepsDirectories.erase (noDirectoryAt_of_eq_file filledSource)
  have keeps :=
    erased.trans
      (KeepsDirectories.put (noDirectory.erase source)
        (.file contents mode))
  exact
    ⟨mode,
      status_eq_ok (keeps.locate locatedTarget) (nodeAt?_put_self _ _ _)⟩

/--
How the contents of a path are replaced: the directories are made, a temporary
file is made under a free name, and this file is installed.
-/
inductive Replaced
    (path : Path)
    (contents : Bytes)
    (before after : Workspace) :
    Prop where
  | through
      (prepared : Workspace)
      (temporary : Path)
      (source : Location)
      (made :
        (makeDirectories path.parent).run before = .ok () prepared)
      (created :
        (createTemporary path).run prepared =
          .ok temporary (prepared.put source (.file [] 0o600)))
      (located : prepared.locate temporary = .ok source)
      (free : prepared.nodeAt? source = none)
      (installed :
        Installed path contents source
          (prepared.put source (.file [] 0o600)) after)

/-- A temporary file that is not installed is cleared away again. -/
theorem guarantees_install_or_remove
    {source : Location}
    (located : before.locate temporary = .ok source)
    (free : before.nodeAt? source = none) :
    Guarantees
      (try
        install outages temporary path contents
      catch fault =>
        removeFile temporary
        throw fault)
      (before.put source (.file [] 0o600))
      (fun _ after =>
        Installed path contents source (before.put source (.file [] 0o600))
          after)
      (fun fault after =>
        (path.Accepted → fault.FromSystem) ∧ AddsDirectories before after) := by
  have leaves := LeavesFile.put before source [] 0o600
  have keeps := leaves.keepsDirectories (noDirectoryAt_of_eq_none free)
  refine Guarantees.tryCatch
    ((guarantees_install (keeps.locate located)
      (nodeAt?_put_self _ _ _)).imp (fun _ _ installed => installed) ?_)
  rintro fault between ⟨fromSystem, leavesLater⟩
  have both := leaves.trans leavesLater
  have keepsBoth := both.keepsDirectories (noDirectoryAt_of_eq_none free)
  refine Guarantees.bind (.of_run (run_removeFile (keepsBoth.locate located)) ?_)
  exact ⟨fromSystem, both.addsDirectories_erase free⟩

/-- Contents are replaced in this way, or else every file stays as it is. -/
theorem guarantees_replaceContents :
    Guarantees (replaceContents outages path contents) before
      (fun _ after => Replaced path contents before after)
      (fun fault after =>
        (path.Accepted → before.WellNamed → fault.FromSystem) ∧
          AddsDirectories before after) := by
  unfold replaceContents
  refine Guarantees.bind (guarantees_attempt ?_ ((Guarantees.self _ _).imp ?_ ?_))
  · intro count
    refine Guarantees.imp makesDirectories_makeDirectories ?_ ?_
    · exact fun _ _ made cause => ⟨fun _ _ => ⟨cause, rfl⟩, made.2⟩
    · rintro fault after ⟨fromSystem, adds⟩
      exact
        ⟨fun accepted _ =>
          fromSystem
            (accepted.parent.of_parts fun _ member =>
              List.mem_of_mem_take member), adds⟩
  rotate_left
  · intro fault after refused
    obtain ⟨fromSystem, adds⟩ :=
      Guarantees.of_run_eq_error makesDirectories_makeDirectories refused
    exact ⟨fun accepted _ => fromSystem accepted.parent, adds⟩
  intro _ prepared made
  obtain ⟨_, adds⟩ :=
    Guarantees.of_run_eq_ok makesDirectories_makeDirectories made
  refine Guarantees.bind (guarantees_attempt
    (fun _ cause => ⟨fun _ _ => ⟨cause, rfl⟩, adds⟩)
    ((Guarantees.self _ _).imp ?_ ?_))
  rotate_left
  · intro fault after refused
    obtain ⟨fromSystem, rfl⟩ :=
      guarantees_createTemporary.of_run_eq_error refused
    exact
      ⟨fun accepted wellNamed =>
        fromSystem accepted (adds.wellNamed wellNamed), adds⟩
  intro temporary extended created
  obtain ⟨_, source, _, located, free, rfl⟩ :=
    exists_of_run_createTemporary created
  refine (guarantees_install_or_remove located free).imp ?_ ?_
  · intro _ after installed
    exact .through prepared temporary source made created located free installed
  · rintro fault after ⟨fromSystem, addsLater⟩
    exact ⟨fun accepted _ => fromSystem accepted, adds.trans addsLater⟩

/-- Contents are replaced only in this way. -/
theorem replaced_of_run_replaceContents
    (replaced :
      (replaceContents outages path contents).run before = .ok () after) :
    Replaced path contents before after :=
  guarantees_replaceContents.of_run_eq_ok replaced

/-- What replaced the contents of a path is what stands there. -/
theorem Replaced.status_eq
    (replaced : Replaced path contents before after) :
    ∃ mode, after.status path = .ok (.file contents mode) := by
  obtain ⟨_, _, _, _, _, _, _, installed⟩ := replaced
  exact installed.status_eq

/-- What was replaced are the bytes that are read. -/
theorem Replaced.readFile_eq
    (replaced : Replaced path contents before after) :
    after.readFile path = .ok contents := by
  obtain ⟨mode, statusIs⟩ := replaced.status_eq
  rw [readFile, statusIs]

/-! ## Replacing once more -/

private theorem exists_status_put
    {location : Location}
    {old : Bytes}
    {oldMode : Nat}
    (statusIs : before.status path = .ok (.file old oldMode))
    (noDirectory : before.NoDirectoryAt location)
    (new : Bytes)
    (newMode : Nat) :
    ∃ contents mode,
      (before.put location (.file new newMode)).status path =
        .ok (.file contents mode) := by
  obtain ⟨target, located, found⟩ := exists_locate_of_status statusIs
  have locatedAfter :=
    (KeepsDirectories.put noDirectory (.file new newMode)).locate located
  by_cases same : location = target
  · refine ⟨new, newMode, status_eq_ok locatedAfter ?_⟩
    rw [nodeAt?_put, if_pos same]
  · refine ⟨old, oldMode, status_eq_ok locatedAfter ?_⟩
    rw [nodeAt?_put, if_neg same, found]

/-- A file can be installed in the place of a file. -/
theorem exists_run_install
    {source : Location}
    {old there : Bytes}
    {oldMode thereMode : Nat}
    (located : before.locate temporary = .ok source)
    (found : before.nodeAt? source = some (.file old oldMode))
    (statusIs : before.status path = .ok (.file there thereMode))
    (named : endsWithName path = true)
    (contents : Bytes) :
    ∃ after,
      (install (fun _ => none) temporary path contents).run before =
        .ok () after := by
  have foundWritten :=
    nodeAt?_put_self before source (.file contents oldMode)
  have noDirectory := noDirectoryAt_of_eq_file found
  have noDirectoryWritten := noDirectoryAt_of_eq_file foundWritten
  obtain ⟨present, mode, statusWritten⟩ :=
    exists_status_put statusIs noDirectory contents oldMode
  obtain ⟨_, _, statusFilled⟩ :=
    exists_status_put statusWritten noDirectoryWritten contents mode
  obtain ⟨target, locatedTarget, foundTarget⟩ :=
    exists_locate_of_status statusFilled
  have keepsWritten :=
    KeepsDirectories.put noDirectory (.file contents oldMode)
  have locatedWritten := keepsWritten.locate located
  have keepsFilled :=
    KeepsDirectories.put noDirectoryWritten (.file contents mode)
  refine
    ⟨(((before.put source (.file contents oldMode)).put source
          (.file contents mode)).erase source).put target
        (.file contents mode), ?_⟩
  rw [install, run_bind_eq_ok_iff]
  refine ⟨(), _, run_writeFile located found, ?_⟩
  rw [run_bind_eq_ok_iff]
  refine ⟨mode, _, run_modeFor statusWritten, ?_⟩
  rw [run_bind_eq_ok_iff]
  refine ⟨(), _, run_changeMode locatedWritten foundWritten, ?_⟩
  exact
    run_rename_eq_ok_iff.mpr
      ⟨source, target, .file contents mode, keepsFilled.locate locatedWritten,
        locatedTarget, named, noDirectoryAt_of_eq_file foundTarget,
        nodeAt?_put_self _ _ _, rfl⟩

/-- What was replaced can be replaced once more. -/
theorem Replaced.exists_run_again
    (replaced : Replaced path contents before after)
    (others : Bytes) :
    ∃ last,
      (replaceContents (fun _ => none) path others).run after =
        .ok () last := by
  obtain ⟨mode, statusIs⟩ := replaced.status_eq
  obtain ⟨prepared, temporary, source, made, created, located, free,
      installed⟩ :=
    replaced
  have keepsCreated :=
    KeepsDirectories.put (noDirectoryAt_of_eq_none free) (.file [] 0o600)
  have keeps := keepsCreated.trans installed.keepsDirectories
  obtain ⟨token, _, isTemporary, _⟩ := exists_of_run_createTemporary created
  have freeAgain :=
    installed.nodeAt?_source isTemporary (keepsCreated.locate located)
  obtain ⟨another, extended, createdAgain⟩ :=
    run_createTemporary_again created located keeps freeAgain
  obtain ⟨_, place, _, locatedAnother, freeAnother, rfl⟩ :=
    exists_of_run_createTemporary createdAgain
  have noDirectory := noDirectoryAt_of_eq_none freeAnother
  have keepsAnother := KeepsDirectories.put noDirectory (.file [] 0o600)
  obtain ⟨_, _, statusCreated⟩ :=
    exists_status_put statusIs noDirectory [] 0o600
  obtain ⟨last, ran⟩ :=
    exists_run_install (keepsAnother.locate locatedAnother)
      (nodeAt?_put_self _ _ _) statusCreated installed.named others
  refine ⟨last, ?_⟩
  rw [replaceContents, run_bind_eq_ok_iff]
  refine ⟨(), after, run_makeDirectories_again made keeps, ?_⟩
  rw [run_bind_eq_ok_iff]
  refine ⟨another, _, createdAgain, ?_⟩
  rw [run_tryCatch_eq_ok_iff]
  exact Or.inl ran

/-- Saving a baseline replaces the contents of its path by its text. -/
theorem exists_replaced_of_run_saveDespite
    {baseline : Baseline}
    (saved :
      (saveDespite outages path baseline).run before = .ok () after) :
    ∃ text,
      baseline.fileText = .ok text ∧
        Replaced path (text.flatMap Utf8.encodePoint) before after := by
  unfold saveDespite at saved
  split at saved
  · cases saved
  next text wrote =>
  rw [EStateM.run_adaptExcept] at saved
  split at saved
  · next replaced =>
      cases saved
      exact ⟨text, wrote, replaced_of_run_replaceContents replaced⟩
  · cases saved

/-- A baseline is read from the bytes of the file that stands at its path. -/
theorem loadFile?_of_status
    {workspace : Workspace}
    {mode : Nat}
    (statusIs : workspace.status path = .ok (.file contents mode))
    (room : Room) :
    loadFile? workspace path room = (ofFileBytes path contents room).map some := by
  have present : workspace.hasPath path = .ok true := by
    rw [hasPath, holds, statusIs]
  have bytes : workspace.readFile path = .ok contents := by
    rw [readFile, statusIs]
  rw [loadFile?, present]
  dsimp only
  rw [bytes]
  dsimp only
  cases ofFileBytes path contents room <;> rfl

theorem load_eq_of_status
    {workspace : Workspace}
    {mode : Nat}
    (statusIs : workspace.status path = .ok (.file contents mode))
    (room : Room) :
    load workspace path room = ofFileBytes path contents room := by
  rw [load, loadFile?_of_status statusIs]
  cases ofFileBytes path contents room <;> rfl

/-- What stands at a path is loaded from it. -/
theorem load_of_status
    {baseline : Baseline}
    {workspace : Workspace}
    {mode : Nat}
    (statusIs : workspace.status path = .ok (.file contents mode))
    {room : Room}
    (read : ofFileBytes path contents room = .ok baseline) :
    load workspace path room = .ok baseline :=
  (load_eq_of_status statusIs room).trans read

/-- The canonical form of what was saved is loaded. -/
theorem load_of_run_saveDespite
    {baseline : Baseline}
    (nonnegative : baseline.Nonnegative)
    (apart : baseline.SurrogatesApart)
    (saved :
      (saveDespite outages path baseline).run before = .ok () after)
    (room : Room) :
    load after path room = .ok baseline.sorted.pruneEmpty := by
  obtain ⟨text, wrote, replaced⟩ := exists_replaced_of_run_saveDespite saved
  obtain ⟨mode, statusIs⟩ := replaced.status_eq
  exact
    load_of_status statusIs
      (ofFileBytes_fileText nonnegative apart wrote path room)

/-- A baseline that is loaded has no count below zero. -/
theorem nonnegative_of_load
    {baseline : Baseline}
    {workspace : Workspace}
    {room : Room}
    (loaded : load workspace path room = .ok baseline) :
    baseline.Nonnegative := by
  unfold load loadFile? at loaded
  split at loaded
  · cases loaded
  · cases loaded
    intro item member
    cases member
  split at loaded
  · cases loaded
  · cases loaded
  split at loaded
  · cases loaded
  next read =>
  cases loaded
  exact nonnegative_of_ofFileBytes read

/--
What was saved is loaded again, whatever room there is for it: the same counts of
the same rules in the same files, in ascending order of files and of the rules in
each of them, and no file without rules.
-/
theorem saved_baseline_is_loaded
    {baseline : Baseline}
    {path : Path}
    {before after : Workspace}
    (nonnegative : baseline.Nonnegative)
    (apart : baseline.SurrogatesApart)
    (saved : (save path baseline).run before = .ok () after) :
    ∃ loaded,
      (∀ room, load after path room = .ok loaded) ∧
        loaded = baseline.sorted.pruneEmpty ∧
          loaded.items.Perm baseline.items ∧
            loaded.Ascending ∧
              loaded.Pruned := by
  have canonical := baseline.canonical_sorted_pruneEmpty
  refine
    ⟨baseline.sorted.pruneEmpty, load_of_run_saveDespite nonnegative apart saved,
      rfl, Ledger.items_perm ?_, canonical.ascending, canonical.pruned⟩
  intro filename rule
  rw [Ledger.get?_pruneEmpty, Ledger.get?_sorted]

/--
Names with line endings, quotes and lone surrogates come back, and a file
without rules does not.
-/
theorem escaped_names_are_loaded :
    let baseline : Baseline :=
      ((Ledger.empty.set [0x22, 0x1f600] [0xdc00, 0xd800] 2).set
        "a.ts" [0x0d, 0x0a] 0).replaceFile "b.ts" OrderedMap.empty
    let before := Workspace.fresh "/w" ["t"]
    baseline.Nonnegative ∧
      baseline.SurrogatesApart ∧
        ∃ after,
          (save "b.json" baseline).run before = .ok () after ∧
            load after "b.json" = .ok baseline.sorted.pruneEmpty := by
  intro baseline before
  have nonnegative : baseline.Nonnegative := by decide
  have apart : baseline.SurrogatesApart := by decide
  have succeeded : isOk ((save "b.json" baseline).run before) = true := by
    decide +kernel
  obtain ⟨_, after, saved⟩ := exists_eq_ok_of_isOk succeeded
  obtain ⟨_, loaded, rfl, _⟩ :=
    saved_baseline_is_loaded nonnegative apart saved
  exact ⟨nonnegative, apart, after, saved, loaded .usual⟩

end Tolerance.Baseline
