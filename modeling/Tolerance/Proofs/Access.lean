import Tolerance.Proofs.Outcome
import Tolerance.Proofs.Text.Utf8
import Tolerance.Proofs.Workspace
import Tolerance.Workspace.Access

namespace Tolerance.Access

/-!
# What each operation on the workspace does

For every operation there is one statement about its success: what held before
it, and which workspace it leaves.
-/

open Workspace Outcome

variable {before after : Workspace} {path : Path} {location : Location}

/-- A question about the present workspace is answered and changes nothing. -/
private theorem run_ofExcept_eq_ok_iff
    {Value : Type}
    {question : Workspace → Except AccessFault Value}
    {answer : Value} :
    (do ofExcept (question (← get)) : Access Value).run before =
        .ok answer after ↔
      question before = .ok answer ∧ after = before := by
  rw [run_bind_eq_ok_iff]
  constructor
  · rintro ⟨_, _, got, rest⟩
    cases got
    cases found : question before with
    | error fault =>
        rw [found] at rest
        cases rest
    | ok other =>
        rw [found] at rest
        cases rest
        exact ⟨rfl, rfl⟩
  · rintro ⟨found, rfl⟩
    refine ⟨after, after, rfl, ?_⟩
    rw [found]
    rfl

/-- Looking a path up gives its location and changes nothing. -/
theorem run_locate_eq_ok_iff :
    (locate path).run before = .ok location after ↔
      before.locate path = .ok location ∧ after = before :=
  run_ofExcept_eq_ok_iff

/-- Asking for the status of a path gives it and changes nothing. -/
theorem run_status_eq_ok_iff
    {node : Node} :
    (status path).run before = .ok node after ↔
      before.status path = .ok node ∧ after = before :=
  run_ofExcept_eq_ok_iff

/--
A file that is there gets the bytes that are written, and keeps its
permissions.
-/
theorem run_writeFile
    {contents old : Bytes}
    {mode : Nat}
    (located : before.locate path = .ok location)
    (found : before.nodeAt? location = some (.file old mode)) :
    (writeFile path contents).run before =
      .ok () (before.put location (.file contents mode)) := by
  unfold writeFile
  rw [EStateM.run_bind, run_locate_eq_ok_iff.mpr ⟨located, rfl⟩]
  dsimp only
  rw [EStateM.run_bind,
    run_status_eq_ok_iff.mpr ⟨status_eq_ok located found, rfl⟩]
  rfl

theorem run_changeMode
    {node : Node}
    {mode : Nat}
    (located : before.locate path = .ok location)
    (found : before.nodeAt? location = some node) :
    (changeMode path mode).run before =
      .ok () (before.put location (node.withMode mode)) := by
  unfold changeMode
  rw [EStateM.run_bind, run_locate_eq_ok_iff.mpr ⟨located, rfl⟩]
  dsimp only
  rw [EStateM.run_bind,
    run_status_eq_ok_iff.mpr ⟨status_eq_ok located found, rfl⟩]
  rfl

/-- A node is moved to where a path leads unless a directory is there. -/
theorem run_rename_eq_ok_iff
    {source target : Path} :
    (rename source target).run before = .ok () after ↔
      ∃ old new node,
        before.locate source = .ok old ∧
          before.locate target = .ok new ∧
            endsWithName target = true ∧
              before.NoDirectoryAt new ∧
                before.nodeAt? old = some node ∧
                  after = (before.erase old).put new node := by
  unfold rename
  rw [run_bind_eq_ok_iff]
  constructor
  · rintro ⟨_, _, got, rest⟩
    cases got
    split at rest
    · next old new locatedOld locatedNew =>
        split at rest
        · cases rest
        next named =>
        split at rest
        · cases rest
        · cases rest
        · next node found noDirectory =>
            cases rest
            exact
              ⟨old, new, node, locatedOld, locatedNew, by simpa using named,
                noDirectory, found, rfl⟩
    · cases rest
    · cases rest
    · cases rest
    · cases rest
  · rintro ⟨old, new, node, locatedOld, locatedNew, named, noDirectory,
      found, rfl⟩
    refine ⟨before, before, rfl, ?_⟩
    simp only [locatedOld, locatedNew, named, Bool.not_true,
      Bool.false_eq_true, if_false]
    split
    · next mode isDirectory =>
        exact (noDirectory mode isDirectory).elim
    · next nothing _ =>
        rw [found] at nothing
        cases nothing
    · next foundOther _ =>
        rw [found] at foundOther
        cases foundOther
        rfl

/-! ## Directories -/

/-- A directory is at a path if the path has the status of one. -/
theorem hasDirectory_eq_ok_true_iff
    {workspace : Workspace} :
    workspace.hasDirectory path = .ok true ↔
      ∃ mode, workspace.status path = .ok (.directory mode) := by
  unfold hasDirectory holds
  cases workspace.status path with
  | error fault =>
      cases fault with
      | path fault =>
          simp
      | system fault =>
          dsimp only
          split <;> simp
  | ok node =>
      cases node <;> simp [Node.isDirectory]

/-- A refusal is overlooked exactly where a directory is. -/
theorem run_acceptDirectory_eq_ok_iff
    {fault : SystemFault} :
    (acceptDirectory path fault).run before = .ok () after ↔
      before.hasDirectory path = .ok true ∧ after = before := by
  rw [acceptDirectory, run_bind_eq_ok_iff]
  constructor
  · rintro ⟨_, _, got, rest⟩
    cases got
    split at rest
    · next present =>
        cases rest
        exact ⟨present, rfl⟩
    · cases rest
    · cases rest
  · rintro ⟨present, rfl⟩
    refine ⟨after, after, rfl, ?_⟩
    rw [present]
    rfl

theorem hasDirectory_of_run_makeDirectory
    (made : (makeDirectory path).run before = .ok () after) :
    after.hasDirectory path = .ok true := by
  rw [makeDirectory, run_bind_eq_ok_iff] at made
  obtain ⟨location, between, located, made⟩ := made
  obtain ⟨located, rfl⟩ := run_locate_eq_ok_iff.mp located
  rw [run_bind_eq_ok_iff] at made
  obtain ⟨_, _, got, made⟩ := made
  cases got
  split at made
  · next free =>
      cases made
      have nothing : between.nodeAt? location = none := by
        simpa using (Bool.and_eq_true_iff.mp free).2
      have keeps :=
        KeepsDirectories.put (noDirectoryAt_of_eq_none nothing)
          (.directory between.directoryMode)
      exact
        hasDirectory_eq_ok_true_iff.mpr
          ⟨_, status_eq_ok (keeps.locate located)
            (nodeAt?_put_self _ location _)⟩
  · cases made

theorem run_makeDirectory_of_found
    {node : Node}
    (located : before.locate path = .ok location)
    (found : before.nodeAt? location = some node) :
    (makeDirectory path).run before =
      .error (refusedFor path .exists) before := by
  rw [makeDirectory, EStateM.run_bind,
    run_locate_eq_ok_iff.mpr ⟨located, rfl⟩]
  dsimp only
  rw [EStateM.run_bind, EStateM.run_get]
  dsimp only
  rw [if_neg (by simp [found])]
  rfl

/-- Making a directory and those above it leaves it there. -/
theorem hasDirectory_of_run_makeDirectoriesAlong
    {anchor : Anchor}
    {last : Text}
    {front : List Text}
    (made :
      (makeDirectoriesAlong anchor (last :: front)).run before =
        .ok () after) :
    after.hasDirectory { anchor := anchor, parts := front.reverse ++ [last] } =
      .ok true := by
  have ofAccepted
      {fault : SystemFault}
      {path : Path}
      {between : Workspace}
      (accepted : (acceptDirectory path fault).run between = .ok () after) :
      after.hasDirectory path = .ok true := by
    obtain ⟨present, rfl⟩ := run_acceptDirectory_eq_ok_iff.mp accepted
    exact present
  rw [makeDirectoriesAlong, run_tryCatch_eq_ok_iff] at made
  rcases made with made | ⟨failure, between, _, made⟩
  · exact hasDirectory_of_run_makeDirectory made
  split at made
  · cases made
  split at made
  · rw [run_bind_eq_ok_iff] at made
    obtain ⟨_, extended, _, made⟩ := made
    rw [run_tryCatch_eq_ok_iff] at made
    rcases made with made | ⟨failure, again, _, made⟩
    · exact hasDirectory_of_run_makeDirectory made
    split at made
    · cases made
    split at made
    · cases made
    · exact ofAccepted made
  · exact ofAccepted made

/-- Where a directory is already, making it and those above it changes nothing. -/
theorem run_makeDirectoriesAlong_of_hasDirectory
    {anchor : Anchor}
    {last : Text}
    {front : List Text}
    (present :
      before.hasDirectory
          { anchor := anchor, parts := front.reverse ++ [last] } =
        .ok true) :
    (makeDirectoriesAlong anchor (last :: front)).run before =
      .ok () before := by
  obtain ⟨mode, statusIs⟩ := hasDirectory_eq_ok_true_iff.mp present
  obtain ⟨location, located, found⟩ := exists_locate_of_status statusIs
  have refused := run_makeDirectory_of_found located found
  rw [makeDirectoriesAlong, run_tryCatch_eq_ok_iff]
  exact
    Or.inr
      ⟨_, before, refused, run_acceptDirectory_eq_ok_iff.mpr ⟨present, rfl⟩⟩

/-- A directory stays where it is while directories are kept. -/
theorem hasDirectory_of_keepsDirectories
    (keeps : KeepsDirectories before after)
    (present : before.hasDirectory path = .ok true) :
    after.hasDirectory path = .ok true := by
  obtain ⟨mode, statusIs⟩ := hasDirectory_eq_ok_true_iff.mp present
  obtain ⟨location, located, found⟩ := exists_locate_of_status statusIs
  obtain ⟨modeAfter, foundAfter⟩ := keeps.directories location mode found
  exact
    hasDirectory_eq_ok_true_iff.mpr
      ⟨modeAfter, status_eq_ok (keeps.locate located) foundAfter⟩

/-- Directories that were made need not be made again. -/
theorem run_makeDirectories_again
    (made : (makeDirectories path).run before = .ok () after)
    {later : Workspace}
    (keeps : KeepsDirectories after later) :
    (makeDirectories path).run later = .ok () later := by
  unfold makeDirectories at made ⊢
  generalize path.parts.reverse = parts at made ⊢
  cases parts with
  | nil =>
      rfl
  | cons last front =>
      exact
        run_makeDirectoriesAlong_of_hasDirectory
          (hasDirectory_of_keepsDirectories keeps
            (hasDirectory_of_run_makeDirectoriesAlong made))

/-! ## Temporary files -/

theorem exists_of_run_createTemporaryAmong
    {folder temporary : Path}
    {name : Text}
    {tokens : List Text}
    (created :
      (createTemporaryAmong folder name tokens).run before =
        .ok temporary after) :
    ∃ token location,
      temporary = folder.child (temporaryName name token) ∧
        before.locate temporary = .ok location ∧
          before.nodeAt? location = none ∧
            after = before.put location (.file [] 0o600) := by
  induction tokens with
  | nil =>
      cases created
  | cons token others inductionHypothesis =>
      rw [createTemporaryAmong, run_bind_eq_ok_iff] at created
      obtain ⟨location, _, located, created⟩ := created
      obtain ⟨located, rfl⟩ := run_locate_eq_ok_iff.mp located
      rw [run_bind_eq_ok_iff] at created
      obtain ⟨_, _, got, created⟩ := created
      cases got
      split at created
      · exact inductionHypothesis created
      · next free =>
          cases created
          exact
            ⟨token, location, rfl, located, by simpa using free, rfl⟩

/--
Where a temporary file could be made one can be made again if its name is
free.
-/
theorem run_createTemporaryAmong_again
    {folder temporary : Path}
    {name : Text}
    {tokens : List Text}
    (created :
      (createTemporaryAmong folder name tokens).run before =
        .ok temporary after)
    (located : before.locate temporary = .ok location)
    {later : Workspace}
    (keeps : KeepsDirectories before later)
    (free : later.nodeAt? location = none) :
    ∃ another extended,
      (createTemporaryAmong folder name tokens).run later =
        .ok another extended := by
  induction tokens with
  | nil =>
      cases created
  | cons token others inductionHypothesis =>
      rw [createTemporaryAmong, run_bind_eq_ok_iff] at created
      obtain ⟨place, _, locatedFirst, created⟩ := created
      obtain ⟨locatedFirst, rfl⟩ := run_locate_eq_ok_iff.mp locatedFirst
      rw [run_bind_eq_ok_iff] at created
      obtain ⟨_, _, got, created⟩ := created
      cases got
      have locatedLater := keeps.locate locatedFirst
      rw [createTemporaryAmong, EStateM.run_bind,
        run_locate_eq_ok_iff.mpr ⟨locatedLater, rfl⟩]
      dsimp only
      rw [EStateM.run_bind, EStateM.run_get]
      dsimp only
      split at created
      · split
        · exact inductionHypothesis created
        · exact ⟨_, _, rfl⟩
      · cases created
        rw [locatedFirst] at located
        cases located
        rw [if_neg (by simp [free])]
        exact ⟨_, _, rfl⟩

/-- A temporary file is an empty one under a name that was free. -/
theorem exists_of_run_createTemporary
    {temporary : Path}
    (created :
      (createTemporary path).run before = .ok temporary after) :
    ∃ token location,
      temporary =
          (path.parent.absolute before.here).child
            (temporaryName path.name token) ∧
        before.locate temporary = .ok location ∧
          before.nodeAt? location = none ∧
            after = before.put location (.file [] 0o600) := by
  rw [createTemporary, run_bind_eq_ok_iff] at created
  obtain ⟨_, _, got, created⟩ := created
  cases got
  exact exists_of_run_createTemporaryAmong created

/-- A temporary file can be made again as soon as its name is free. -/
theorem run_createTemporary_again
    {temporary : Path}
    (created :
      (createTemporary path).run before = .ok temporary after)
    (located : before.locate temporary = .ok location)
    {later : Workspace}
    (keeps : KeepsDirectories before later)
    (free : later.nodeAt? location = none) :
    ∃ another extended,
      (createTemporary path).run later = .ok another extended := by
  rw [createTemporary, run_bind_eq_ok_iff] at created
  obtain ⟨_, _, got, created⟩ := created
  cases got
  rw [createTemporary, EStateM.run_bind, EStateM.run_get]
  dsimp only
  rw [keeps.here, keeps.tokens]
  exact run_createTemporaryAmong_again created located keeps free

private theorem encodePathPoint_eq_dot
    {point : CodePoint}
    {rest later : Bytes}
    (same : Utf8.encodePathPoint point ++ rest = 0x2e :: later) :
    point = 0x2e ∧ rest = later := by
  obtain ⟨lead, more, shape, ascii⟩ := Utf8.exists_encodePathPoint_eq point
  rw [shape, List.cons_append] at same
  obtain ⟨rfl, sameRest⟩ := List.cons.inj same
  obtain ⟨value, rfl⟩ := ascii (by decide)
  exact ⟨Fin.ext value.symm, sameRest⟩

/-- Only a pair of dots has the bytes of one. -/
theorem eq_above_of_encoded
    {part : Text}
    (same : part.flatMap Utf8.encodePathPoint = [0x2e, 0x2e]) :
    part = Path.above := by
  cases part with
  | nil =>
      cases same
  | cons first part =>
      rw [List.flatMap_cons] at same
      obtain ⟨firstIsDot, sameRest⟩ := encodePathPoint_eq_dot same
      cases part with
      | nil =>
          cases sameRest
      | cons second part =>
          rw [List.flatMap_cons] at sameRest
          obtain ⟨secondIsDot, nothing⟩ := encodePathPoint_eq_dot sameRest
          rw [firstIsDot, secondIsDot]
          cases part with
          | nil =>
              rfl
          | cons third part =>
              obtain ⟨lead, more, shape, _⟩ :=
                Utf8.exists_encodePathPoint_eq third
              rw [List.flatMap_cons, shape] at nothing
              cases nothing

/--
A path that ends with a name has it as its last part, and it does not lead up.
-/
theorem exists_parts_of_endsWithName
    (named : endsWithName path = true) :
    ∃ front,
      path.parts = front ++ [path.name] ∧
        path.name.flatMap Utf8.encodePathPoint ≠ [0x2e, 0x2e] := by
  rw [endsWithName, Bool.and_eq_true_iff] at named
  have some : path.parts ≠ [] := by simpa using named.1
  have notAbove : path.name ≠ Path.above := by simpa using named.2
  refine
    ⟨path.parts.dropLast, ?_, fun same => notAbove (eq_above_of_encoded same)⟩
  rw [Path.name, List.getLast?_eq_some_getLast some, Option.getD_some,
    List.dropLast_concat_getLast]

/-- A temporary file stands elsewhere than the file that it is made for. -/
theorem locate_temporary_ne
    {workspace : Workspace}
    {folder target : Path}
    {token : Text}
    {old new : Location}
    (named : endsWithName target = true)
    (locatedTemporary :
      workspace.locate (folder.child (temporaryName target.name token)) =
        .ok old)
    (locatedTarget : workspace.locate target = .ok new) :
    old ≠ new := by
  obtain ⟨front, shape, notUp⟩ := exists_parts_of_endsWithName named
  have longer :
      (target.name.flatMap Utf8.encodePathPoint).length + 2 <
        ((temporaryName target.name token).flatMap
          Utf8.encodePathPoint).length := by
    have dot : (("." : Text).flatMap Utf8.encodePathPoint).length = 1 := by
      decide
    have ending :
        ((".tmp" : Text).flatMap Utf8.encodePathPoint).length = 4 := by
      decide
    simp only [temporaryName, List.flatMap_append, List.length_append, dot,
      ending]
    omega
  have temporaryNotUp :
      (temporaryName target.name token).flatMap Utf8.encodePathPoint ≠
        [0x2e, 0x2e] := by
    intro same
    rw [same, List.length_cons, List.length_cons, List.length_nil] at longer
    omega
  obtain ⟨folderOld, rfl⟩ :=
    exists_eq_of_locate rfl temporaryNotUp locatedTemporary
  obtain ⟨folderNew, rfl⟩ := exists_eq_of_locate shape notUp locatedTarget
  intro same
  have sameName := (List.append_inj' same rfl).2
  rw [(List.cons.inj sameName).1] at longer
  omega

end Tolerance.Access
