import Tolerance.Proofs.Access
import Tolerance.Proofs.Path

namespace Tolerance

/-!
# What an operation leaves behind when it fails

Making directories may fail half way, and then some of them are there; it does
nothing else in any case.  A path that can be looked up at all is refused only
by the file system.
-/

/-- The file system gave the refusal, not the path. -/
def AccessFault.FromSystem (fault : AccessFault) : Prop :=
  ∃ cause, fault = .system cause

theorem fromSystem_refusedFor
    (path : Path)
    (refusal : Refusal) :
    (Workspace.refusedFor path refusal).FromSystem :=
  ⟨_, rfl⟩

namespace Workspace

/-- A change that makes directories where nothing was, and nothing else. -/
structure AddsDirectories (before after : Workspace) : Prop where
  here : after.here = before.here
  umask : after.umask = before.umask
  tokens : after.tokens = before.tokens
  nodes :
    ∀ location,
      after.nodeAt? location = before.nodeAt? location ∨
        before.nodeAt? location = none ∧
          ∃ mode, after.nodeAt? location = some (.directory mode)

namespace AddsDirectories

variable {before after : Workspace}

theorem refl (workspace : Workspace) : AddsDirectories workspace workspace :=
  ⟨rfl, rfl, rfl, fun _ => Or.inl rfl⟩

theorem trans
    {first second third : Workspace}
    (earlier : AddsDirectories first second)
    (later : AddsDirectories second third) :
    AddsDirectories first third where
  here := later.here.trans earlier.here
  umask := later.umask.trans earlier.umask
  tokens := later.tokens.trans earlier.tokens
  nodes location := by
    rcases earlier.nodes location with same | ⟨nothing, mode, made⟩
    · rw [← same]
      exact later.nodes location
    · refine Or.inr ⟨nothing, ?_⟩
      rcases later.nodes location with same | ⟨nothingYet, _⟩
      · exact ⟨mode, same.trans made⟩
      · rw [made] at nothingYet
        cases nothingYet

theorem put
    {workspace : Workspace}
    {location : Location}
    (nothing : workspace.nodeAt? location = none)
    (mode : Nat) :
    AddsDirectories workspace (workspace.put location (.directory mode)) where
  here := rfl
  umask := rfl
  tokens := rfl
  nodes query := by
    rw [nodeAt?_put]
    split
    · next same =>
        exact Or.inr ⟨same ▸ nothing, mode, rfl⟩
    · exact Or.inl rfl

/-- The same node is put on top of the old directories and of the new ones. -/
theorem put_both
    (adds : AddsDirectories before after)
    (location : Location)
    (node : Node) :
    AddsDirectories (before.put location node) (after.put location node) where
  here := adds.here
  umask := adds.umask
  tokens := adds.tokens
  nodes query := by
    rw [nodeAt?_put, nodeAt?_put]
    split
    · exact Or.inl rfl
    · exact adds.nodes query

/-- What is no directory afterwards was there before. -/
theorem nodeAt?_eq
    {location : Location}
    (adds : AddsDirectories before after)
    (noDirectory : after.NoDirectoryAt location) :
    after.nodeAt? location = before.nodeAt? location := by
  rcases adds.nodes location with same | ⟨_, mode, made⟩
  · exact same
  · exact (noDirectory mode made).elim

theorem keepsDirectories
    (adds : AddsDirectories before after) :
    KeepsDirectories before after where
  here := adds.here
  tokens := adds.tokens
  directories location mode found := by
    rcases adds.nodes location with same | ⟨nothing, _⟩
    · exact ⟨mode, same.trans found⟩
    · rw [found] at nothing
      cases nothing

theorem noDirectoryAt
    {location : Location}
    (adds : AddsDirectories before after)
    (noDirectory : after.NoDirectoryAt location) :
    before.NoDirectoryAt location := by
  intro mode found
  obtain ⟨_, foundAfter⟩ := adds.keepsDirectories.directories location mode found
  exact noDirectory _ foundAfter

end AddsDirectories

/-- A change to what is at one location, where a file is left. -/
structure LeavesFile (location : Location) (before after : Workspace) :
    Prop where
  here : after.here = before.here
  umask : after.umask = before.umask
  tokens : after.tokens = before.tokens
  elsewhere :
    ∀ other ≠ location, after.nodeAt? other = before.nodeAt? other
  file :
    ∃ contents mode, after.nodeAt? location = some (.file contents mode)

namespace LeavesFile

variable {before between after : Workspace} {location : Location}

theorem put
    (workspace : Workspace)
    (location : Location)
    (contents : Bytes)
    (mode : Nat) :
    LeavesFile location workspace
      (workspace.put location (.file contents mode)) where
  here := rfl
  umask := rfl
  tokens := rfl
  elsewhere other different := by
    rw [nodeAt?_put, if_neg (Ne.symm different)]
  file := ⟨contents, mode, nodeAt?_put_self workspace location _⟩

theorem trans
    (earlier : LeavesFile location before between)
    (later : LeavesFile location between after) :
    LeavesFile location before after where
  here := later.here.trans earlier.here
  umask := later.umask.trans earlier.umask
  tokens := later.tokens.trans earlier.tokens
  elsewhere other different :=
    (later.elsewhere other different).trans (earlier.elsewhere other different)
  file := later.file

/-- The change can be undone as far as the other locations are concerned. -/
theorem keepsDirectories_back
    (leaves : LeavesFile location before after) :
    KeepsDirectories after before where
  here := leaves.here.symm
  tokens := leaves.tokens.symm
  directories other mode found := by
    refine ⟨mode, ?_⟩
    rw [← leaves.elsewhere other]
    · exact found
    · rintro rfl
      obtain ⟨_, _, isFile⟩ := leaves.file
      rw [isFile] at found
      cases found

theorem keepsDirectories
    (leaves : LeavesFile location before after)
    (noDirectory : before.NoDirectoryAt location) :
    KeepsDirectories before after where
  here := leaves.here
  tokens := leaves.tokens
  directories other mode found := by
    refine ⟨mode, ?_⟩
    rw [leaves.elsewhere other]
    · exact found
    · rintro rfl
      exact noDirectory mode found

/-- A new file that is cleared away leaves nothing behind. -/
theorem addsDirectories_erase
    (leaves : LeavesFile location before after)
    (nothing : before.nodeAt? location = none) :
    AddsDirectories before (after.erase location) where
  here := leaves.here
  umask := leaves.umask
  tokens := leaves.tokens
  nodes other := by
    refine Or.inl ?_
    rw [nodeAt?_erase]
    split
    · next same =>
        rw [← same, nothing]
    · next different =>
        exact leaves.elsewhere other (Ne.symm different)

end LeavesFile

/-- The permissions at a location: those of what is there, or of a new file. -/
def modeAt (workspace : Workspace) (location : Location) : Nat :=
  match workspace.nodeAt? location with
  | some node => node.mode
  | none => workspace.fileMode

theorem modeAt_eq
    {before after : Workspace}
    {location : Location}
    (sameUmask : after.umask = before.umask)
    (sameNode : after.nodeAt? location = before.nodeAt? location) :
    after.modeAt location = before.modeAt location := by
  rw [modeAt, modeAt, sameNode, fileMode, fileMode, sameUmask]

/-- The paths of temporary files can be looked up. -/
structure WellNamed (workspace : Workspace) : Prop where
  here : workspace.here.Accepted
  tokens : ∀ token ∈ workspace.tokens, token.Nameable

theorem AddsDirectories.wellNamed
    {before after : Workspace}
    (adds : AddsDirectories before after)
    (wellNamed : before.WellNamed) :
    after.WellNamed where
  here := adds.here ▸ wellNamed.here
  tokens := adds.tokens ▸ wellNamed.tokens

/-- A path that can be looked up is refused by the file system alone. -/
theorem fromSystem_of_locate_eq_error
    {workspace : Workspace}
    {path : Path}
    {fault : AccessFault}
    (refused : workspace.locate path = .error fault)
    (accepted : path.Accepted) :
    fault.FromSystem := by
  obtain ⟨bytes, encoded⟩ := accepted
  unfold locate at refused
  rw [encoded] at refused
  dsimp only at refused
  split at refused
  · cases refused
    exact fromSystem_refusedFor path .nameTooLong
  split at refused
  · cases refused
    exact ⟨_, rfl⟩
  · cases refused

/-- A path that leads to a location can be looked up. -/
theorem accepted_of_locate
    {workspace : Workspace}
    {path : Path}
    {location : Location}
    (located : workspace.locate path = .ok location) :
    path.Accepted := by
  unfold locate at located
  split at located
  · cases located
  next bytes encoded =>
  exact ⟨bytes, encoded⟩

theorem fromSystem_of_status_eq_error
    {workspace : Workspace}
    {path : Path}
    {fault : AccessFault}
    (refused : workspace.status path = .error fault)
    (accepted : path.Accepted) :
    fault.FromSystem := by
  unfold status at refused
  split at refused
  · next refusedEarlier =>
      cases refused
      exact fromSystem_of_locate_eq_error refusedEarlier accepted
  split at refused
  · cases refused
    exact fromSystem_refusedFor path .noEntry
  · cases refused

end Workspace

namespace Access

open Workspace Outcome

variable {before : Workspace} {path : Path} {Value Result : Type}

instance : Accumulates AddsDirectories where
  refl := AddsDirectories.refl
  trans := AddsDirectories.trans

/--
An operation makes directories at most, even where it fails, and if the given
condition holds only the file system makes it fail.
-/
abbrev MakesDirectories
    (condition : Prop)
    (operation : Access Value)
    (before : Workspace) :
    Prop :=
  Within AddsDirectories operation before (fun _ => True)
    (fun fault => condition → fault.FromSystem)

/-- A question about the present workspace changes nothing. -/
private theorem guarantees_ofExcept
    {question : Workspace → Except AccessFault Value} :
    Guarantees (do ofExcept (question (← get)) : Access Value) before
      (fun answer after => question before = .ok answer ∧ after = before)
      (fun fault after => question before = .error fault ∧ after = before) := by
  change Guarantees (ofExcept (question before)) before _ _
  cases question before with
  | ok answer =>
      exact ⟨rfl, rfl⟩
  | error fault =>
      exact ⟨rfl, rfl⟩

/-- Looking a path up changes nothing. -/
theorem guarantees_locate :
    Guarantees (locate path) before
      (fun location after =>
        before.locate path = .ok location ∧ after = before)
      (fun fault after =>
        (path.Accepted → fault.FromSystem) ∧ after = before) := by
  refine guarantees_ofExcept.imp (fun _ _ found => found) ?_
  rintro fault after ⟨refused, unchanged⟩
  exact ⟨fromSystem_of_locate_eq_error refused, unchanged⟩

/-! ## Directories -/

theorem makesDirectories_makeDirectory :
    MakesDirectories path.Accepted (makeDirectory path) before := by
  unfold makeDirectory
  refine Guarantees.bind (guarantees_locate.imp ?_ ?_)
  · rintro location _ ⟨_, rfl⟩
    refine Guarantees.get_bind ?_
    split
    · next free =>
        have nothing := (Bool.and_eq_true_iff.mp free).2
        exact
          ⟨trivial,
            AddsDirectories.put (Option.isNone_iff_eq_none.mp nothing) _⟩
    · exact
        ⟨fun _ => fromSystem_refusedFor path .exists, AddsDirectories.refl _⟩
  · rintro fault _ ⟨fromSystem, rfl⟩
    exact ⟨fromSystem, AddsDirectories.refl _⟩

theorem makesDirectories_acceptDirectory
    {condition : Prop}
    (fault : SystemFault) :
    MakesDirectories condition (acceptDirectory path fault) before := by
  unfold acceptDirectory
  refine .get_bind ?_
  split
  · exact .pure trivial
  · exact .throw fun _ => ⟨_, rfl⟩
  · exact .throw fun _ => ⟨_, rfl⟩

/-- The induction is on the parts, the last one first, as the directories are made. -/
theorem makesDirectories_makeDirectoriesAlong
    {condition : Prop}
    (anchor : Anchor)
    {parts : List Text}
    (nameable : condition → ∀ part ∈ parts, part.Nameable) :
    MakesDirectories condition (makeDirectoriesAlong anchor parts) before := by
  induction parts generalizing before with
  | nil =>
      exact .pure trivial
  | cons last front inductionHypothesis =>
      have makesLast
          {between : Workspace} :
          MakesDirectories condition
            (makeDirectory
              { anchor := anchor, parts := front.reverse ++ [last] })
            between := by
        refine makesDirectories_makeDirectory.imp (fun _ _ => trivial) ?_
        intro fault fromSystem holds
        refine fromSystem (Path.accepted_iff.mpr fun part member => ?_)
        exact nameable holds part (by simpa [or_comm] using member)
      have frontNameable :
          condition → ∀ part ∈ front, part.Nameable := fun holds part member =>
        nameable holds part (List.mem_cons_of_mem _ member)
      unfold makeDirectoriesAlong
      refine makesLast.tryCatch fun failure between fromSystem => ?_
      split
      · exact .throw fromSystem
      split
      · refine (inductionHypothesis frontNameable).bind fun _ extended _ _ => ?_
        refine makesLast.tryCatch fun failure again fromSystem => ?_
        split
        · exact .throw fromSystem
        split
        · exact .throw fun _ => ⟨_, rfl⟩
        · exact makesDirectories_acceptDirectory _
      · exact makesDirectories_acceptDirectory _

theorem makesDirectories_makeDirectories :
    MakesDirectories path.Accepted (makeDirectories path) before := by
  refine makesDirectories_makeDirectoriesAlong path.anchor ?_
  intro accepted part member
  exact Path.accepted_iff.mp accepted part (List.mem_reverse.mp member)

/-! ## Files -/

/-- If no temporary file is made nothing has changed. -/
theorem guarantees_createTemporaryAmong
    {folder : Path}
    {name : Text}
    {tokens : List Text} :
    Guarantees (createTemporaryAmong folder name tokens) before
      (fun _ _ => True)
      (fun fault after =>
        (folder.Accepted → name.Nameable →
            (∀ token ∈ tokens, token.Nameable) → fault.FromSystem) ∧
          after = before) := by
  induction tokens with
  | nil =>
      exact ⟨fun _ _ _ => fromSystem_refusedFor folder .exists, rfl⟩
  | cons token others inductionHypothesis =>
      unfold createTemporaryAmong
      refine Guarantees.bind (guarantees_locate.imp ?_ ?_)
      · rintro location _ ⟨_, rfl⟩
        refine Guarantees.get_bind ?_
        split
        · refine inductionHypothesis.imp (fun _ _ _ => trivial) ?_
          rintro fault after ⟨fromSystem, unchanged⟩
          exact
            ⟨fun folderAccepted nameNameable nameable =>
              fromSystem folderAccepted nameNameable
                (List.forall_mem_cons.mp nameable).2, unchanged⟩
        · exact trivial
      · rintro fault _ ⟨fromSystem, unchanged⟩
        refine ⟨fun folderAccepted nameNameable nameable => ?_, unchanged⟩
        have dot : ("." : Text).Nameable := by
          decide
        have ending : (".tmp" : Text).Nameable := by
          decide
        have tokenNameable := (List.forall_mem_cons.mp nameable).1
        exact
          fromSystem
            (folderAccepted.child
              ((((dot.append nameNameable).append dot).append
                tokenNameable).append ending))

theorem guarantees_createTemporary :
    Guarantees (createTemporary path) before
      (fun _ _ => True)
      (fun fault after =>
        (path.Accepted → before.WellNamed → fault.FromSystem) ∧
          after = before) := by
  unfold createTemporary
  refine Guarantees.get_bind ?_
  refine guarantees_createTemporaryAmong.imp (fun _ _ _ => trivial) ?_
  rintro fault after ⟨fromSystem, unchanged⟩
  exact
    ⟨fun accepted wellNamed =>
      fromSystem (accepted.parent.absolute wellNamed.here) accepted.name
        wellNamed.tokens, unchanged⟩

/-- If a file is not moved nothing has changed. -/
theorem guarantees_rename
    {source target : Path} :
    Guarantees (rename source target) before
      (fun _ _ => True)
      (fun fault after =>
        (source.Accepted → target.Accepted → fault.FromSystem) ∧
          after = before) := by
  unfold rename
  have refused
      (refusal : Refusal) :
      Guarantees
        (throw (.system ⟨refusal, source.toText, some target.toText⟩) :
          Access Unit)
        before (fun _ _ => True)
        (fun fault after =>
          (source.Accepted → target.Accepted → fault.FromSystem) ∧
            after = before) :=
    ⟨fun _ _ => ⟨_, rfl⟩, rfl⟩
  refine Guarantees.get_bind ?_
  dsimp only
  split
  · split
    · exact refused .busy
    split
    · exact refused .isDirectory
    · exact refused .noEntry
    · exact trivial
  · exact refused _
  · exact refused _
  · next refusedSource _ =>
      exact
        ⟨fun accepted _ =>
          fromSystem_of_locate_eq_error refusedSource accepted, rfl⟩
  · next refusedTarget _ _ =>
      exact
        ⟨fun _ accepted =>
          fromSystem_of_locate_eq_error refusedTarget accepted, rfl⟩

/-- A file that is found is removed. -/
theorem run_removeFile
    {location : Location}
    (located : before.locate path = .ok location) :
    (removeFile path).run before = .ok () (before.erase location) := by
  unfold removeFile
  rw [EStateM.run_bind, EStateM.run_get]
  dsimp only
  rw [located]
  rfl

end Access

end Tolerance
