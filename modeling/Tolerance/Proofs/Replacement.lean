import Tolerance.Proofs.Storage

namespace Tolerance.Baseline

/-!
# A baseline is saved entirely or not at all

Whichever step fails, and however far it came before, what a failed save leaves
behind are directories.  A save that succeeds puts one file in its place, with
the permissions that were there, and changes nothing else.
-/

open Access Workspace Outcome

variable {before after : Workspace} {path : Path} {contents : Bytes}

/-- What was replaced is at the location of its path, and nothing else is new. -/
theorem Replaced.exists_target
    (replaced : Replaced path contents before after) :
    ∃ target,
      after.locate path = .ok target ∧
        before.NoDirectoryAt target ∧
          AddsDirectories
            (before.put target (.file contents (before.modeAt target)))
            after := by
  obtain ⟨prepared, temporary, source, made, created, located, free,
      installed⟩ :=
    replaced
  obtain ⟨_, adds⟩ :=
    Guarantees.of_run_eq_ok makesDirectories_makeDirectories made
  have leavesCreated := LeavesFile.put prepared source [] 0o600
  have keepsCreated :=
    leavesCreated.keepsDirectories (noDirectoryAt_of_eq_none free)
  obtain ⟨token, _, isTemporary, _⟩ := exists_of_run_createTemporary created
  obtain ⟨filled, target, mode, keeps, leaves, filledSource, locatedTarget,
      named, noDirectory, kept, rfl⟩ :=
    installed
  have elsewhere : target ≠ source := fun same =>
    locate_temporary_ne named
      (isTemporary ▸ keeps.locate (keepsCreated.locate located)) locatedTarget
      same.symm
  have leavesBoth := leavesCreated.trans leaves
  have noDirectoryPrepared : prepared.NoDirectoryAt target := by
    intro other found
    rw [← leavesBoth.elsewhere target elsewhere] at found
    exact noDirectory other found
  have modeBefore : mode = before.modeAt target :=
    calc
      mode = (prepared.put source (.file [] 0o600)).modeAt target :=
        kept elsewhere
      _ = prepared.modeAt target :=
        modeAt_eq rfl (leavesCreated.elsewhere target elsewhere)
      _ = before.modeAt target :=
        modeAt_eq adds.umask (adds.nodeAt?_eq noDirectoryPrepared)
  have erased := KeepsDirectories.erase (noDirectoryAt_of_eq_file filledSource)
  have moved :=
    KeepsDirectories.put (noDirectory.erase source)
      (.file contents mode)
  refine
    ⟨target, (erased.trans moved).locate locatedTarget,
      adds.noDirectoryAt noDirectoryPrepared, ?_⟩
  rw [← modeBefore]
  exact (adds.trans (leavesBoth.addsDirectories_erase free)).put_both target _

/--
A save that fails, for whatever reason and in whichever step, leaves every file
as it was.
-/
theorem guarantees_saveDespite
    {outages : SaveStep → Option Outage}
    {baseline : Baseline} :
    Guarantees (saveDespite outages path baseline) before
      (fun _ after =>
        ∃ text,
          baseline.fileText = .ok text ∧
            Replaced path (text.flatMap Utf8.encodePoint) before after)
      (fun error after =>
        (baseline.Writable → path.Accepted → before.WellNamed →
            ∃ cause, error = .unwritable path cause) ∧
          AddsDirectories before after) := by
  unfold saveDespite
  split
  · next fault refused =>
      refine ⟨fun writable => ?_, AddsDirectories.refl before⟩
      obtain ⟨text, wrote⟩ := exists_fileText_iff.mpr writable
      rw [refused] at wrote
      cases wrote
  next text wrote =>
  have replaces :
      Guarantees
        (replaceContents outages path (text.flatMap Utf8.encodePoint))
        before _ _ :=
    guarantees_replaceContents
  unfold Guarantees at replaces ⊢
  rw [EStateM.run_adaptExcept]
  split at replaces
  · next ran =>
      rw [ran]
      exact ⟨text, wrote, replaces⟩
  · next fault after ran =>
      rw [ran]
      refine ⟨fun _ accepted wellNamed => ?_, replaces.2⟩
      obtain ⟨cause, rfl⟩ := replaces.1 accepted wellNamed
      exact ⟨cause, rfl⟩

/--
Saving despite failures from outside either puts the text of the baseline in the
place of the file, with the permissions that were there or else the usual ones,
or it reports that the file was not written.  All other files are the same
afterwards, and in the second case this one too: there is no temporary file
left, only directories may have been made.
-/
theorem saveDespite_replaces_or_restores
    {baseline : Baseline}
    {path : Path}
    {before : Workspace}
    (outages : SaveStep → Option Outage)
    (writable : baseline.Writable)
    (accepted : path.Accepted)
    (wellNamed : before.WellNamed) :
    (∃ after text target,
        (saveDespite outages path baseline).run before = .ok () after ∧
          baseline.fileText = .ok text ∧
            after.locate path = .ok target ∧
              before.NoDirectoryAt target ∧
                AddsDirectories
                  (before.put target
                    (.file (text.flatMap Utf8.encodePoint)
                      (before.modeAt target)))
                  after) ∨
      ∃ after cause,
        (saveDespite outages path baseline).run before =
            .error (.unwritable path cause) after ∧
          AddsDirectories before after := by
  cases ran : (saveDespite outages path baseline).run before with
  | ok _ after =>
      obtain ⟨text, wrote, replaced⟩ := guarantees_saveDespite.of_run_eq_ok ran
      obtain ⟨target, located, noDirectory, adds⟩ := replaced.exists_target
      exact
        Or.inl ⟨after, text, target, rfl, wrote, located, noDirectory, adds⟩
  | error error after =>
      obtain ⟨reported, adds⟩ := guarantees_saveDespite.of_run_eq_error ran
      obtain ⟨cause, rfl⟩ := reported writable accepted wellNamed
      exact Or.inr ⟨after, cause, rfl, adds⟩

/-- A move that fails in the end leaves the old file and a new directory. -/
theorem failed_move_restores :
    let baseline : Baseline := Ledger.empty.set "a.ts" "no-debugger" 2
    let before := (Workspace.fresh "/w" ["t"]).withFile "old.json" [0x7b, 0x7d]
    let failing : SaveStep → Option Outage
      | .rename => some { fault := { refusal := .busy, subject := "d/b.json" } }
      | _ => none
    baseline.Writable ∧
      Path.Accepted "d/b.json" ∧
        before.WellNamed ∧
          ∃ after cause,
            (saveDespite failing "d/b.json" baseline).run before =
                .error (.unwritable "d/b.json" cause) after ∧
              AddsDirectories before after := by
  intro baseline before failing
  have writable : baseline.Writable := by decide +kernel
  have accepted : Path.Accepted "d/b.json" := by decide
  have wellNamed : before.WellNamed := ⟨by decide, by decide⟩
  refine ⟨writable, accepted, wellNamed, ?_⟩
  rcases saveDespite_replaces_or_restores failing writable accepted wellNamed
    with ⟨after, _, _, saved, _⟩ | failed
  · have failedBefore :
        isOk ((saveDespite failing "d/b.json" baseline).run before) = false := by
      decide +kernel
    rw [saved] at failedBefore
    cases failedBefore
  · exact failed

end Tolerance.Baseline
