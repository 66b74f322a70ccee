import Tolerance.Linter.Command
import Tolerance.Proofs.Tree

namespace Tolerance

/-!
# The lock file that decides

Lock files are looked for in one directory after the other, up to the root, and
in each of them by one name after the other.  What is found belongs to the
nearest directory that has any, and there it is the first that the directory
has.  Nothing that the search does not get to can change what it ends with.
-/

open Workspace

namespace Linter

/-! ## What is looked for -/

/-- A directory has a lock file if one of the names is there. -/
def HasLockFile (workspace : Workspace) (directory : Path) : Prop :=
  ∃ entry ∈ lockFileCommands, workspace.Contains (directory.child entry.1)

instance (workspace : Workspace) (directory : Path) :
    Decidable (HasLockFile workspace directory) :=
  List.decidableBEx _ lockFileCommands

/-- The nearest directory with a lock file, at or above the one that is started from. -/
structure Nearest (workspace : Workspace) (start directory : Path) : Prop where
  atOrAbove : directory.AtOrAbove start
  hasLockFile : HasLockFile workspace directory
  nearest :
    ∀ other : Path,
      other.AtOrAbove start →
      HasLockFile workspace other →
      other.AtOrAbove directory

/-- The first lock file that a directory has; others that it has come later in the list. -/
structure First
    (workspace : Workspace)
    (directory : Path)
    (entry : Text × List Text)
    (later : List (Text × List Text)) : Prop where
  present : workspace.Contains (directory.child entry.1)
  first :
    ∃ earlier,
      lockFileCommands = earlier ++ entry :: later ∧
        ∀ other ∈ earlier, ¬workspace.Contains (directory.child other.1)

/-- The lock file that decides from where one starts, and the command that it decides on. -/
inductive Decides
    (workspace : Workspace)
    (start : Path) :
    Option Path → List Text → Prop where
  | nearest
      {directory : Path}
      {entry : Text × List Text}
      {later : List (Text × List Text)}
      (nearest : Nearest workspace start directory)
      (first : First workspace directory entry later) :
      Decides workspace start (some (directory.child entry.1)) entry.2
  | none
      (noLockFile :
        ∀ directory : Path,
          directory.AtOrAbove start → ¬HasLockFile workspace directory) :
      Decides workspace start none plainCommand

/-- A candidate is reached if nothing is found before it. -/
def Reached (workspace : Workspace) (start candidate : Path) : Prop :=
  ∃ earlier later,
    lockFileCandidates start = earlier ++ candidate :: later ∧
      ∀ passed ∈ earlier, ¬workspace.Contains passed

/-- A location above a directory, or of a lock file that comes later in the list. -/
inductive OutOfReach
    (directory : Path)
    (later : List (Text × List Text)) :
    Location → Prop where
  | above
      {ancestor : Path}
      (above : ancestor.AtOrAbove directory)
      (different : ancestor ≠ directory)
      (name : Bytes) :
      OutOfReach directory later (names ancestor ++ [name])
  | later
      {other : Text × List Text}
      (member : other ∈ later) :
      OutOfReach directory later (names (directory.child other.1))

theorem First.mem
    {workspace : Workspace}
    {directory : Path}
    {entry : Text × List Text}
    {later : List (Text × List Text)}
    (first : First workspace directory entry later) :
    entry ∈ lockFileCommands := by
  obtain ⟨earlier, inOrder, _⟩ := first.first
  exact inOrder ▸ List.mem_append_right _ List.mem_cons_self

/-! ## The names -/

/-- The names can be looked up, and none is too long. -/
theorem nameable_lockFileCommands :
    ∀ entry ∈ lockFileCommands,
      entry.1.Nameable ∧
        entry.1 ≠ Path.above ∧
          (entry.1.flatMap Utf8.encodePathPoint).length ≤ longestName := by
  decide

/-- No two of the names are the same. -/
theorem lockFileCommands_pairwise :
    lockFileCommands.Pairwise fun entry other =>
      entry.1.flatMap Utf8.encodePathPoint ≠ other.1.flatMap Utf8.encodePathPoint := by
  decide

/-- The command is found by the name of the lock file. -/
theorem commandFor_child
    (directory : Path)
    {entry : Text × List Text}
    (member : entry ∈ lockFileCommands) :
    commandFor (some (directory.child entry.1)) = entry.2 := by
  have name : (directory.child entry.1).name = entry.1 := by
    simp [Path.child, Path.name]
  have found :
      ∀ entry ∈ lockFileCommands,
        (lockFileCommands.find? fun other => other.1 = entry.1) = some entry := by
    decide
  rw [commandFor, name, found entry member]
  rfl

/-! ## Searching -/

section Searching

variable {workspace : Workspace} {earlier later : List Path} {path : Path}

/-- Paths with nothing there are passed. -/
theorem firstPath_append
    (absent : ∀ passed ∈ earlier, workspace.hasPath passed = .ok false)
    (others : List Path) :
    firstPath workspace (earlier ++ others) = firstPath workspace others := by
  induction earlier with
  | nil => rfl
  | cons passed earlier inductionHypothesis =>
      obtain ⟨passedAbsent, restAbsent⟩ := List.forall_mem_cons.mp absent
      rw [List.cons_append, firstPath, passedAbsent]
      exact inductionHypothesis restAbsent

/-- A search that comes to an end does not depend on what it does not get to. -/
theorem firstPath_congr
    {other : Workspace}
    (same :
      ∀ candidate ∈ earlier ++ [path],
        other.hasPath candidate = workspace.hasPath candidate)
    (ends : workspace.hasPath path ≠ .ok false) :
    firstPath other (earlier ++ path :: later) =
      firstPath workspace (earlier ++ path :: later) := by
  induction earlier with
  | nil =>
      rw [List.nil_append, firstPath, firstPath, same path List.mem_cons_self]
      match answer : workspace.hasPath path with
      | .error fault => rfl
      | .ok true => rfl
      | .ok false => exact (ends answer).elim
  | cons passed earlier inductionHypothesis =>
      obtain ⟨passedSame, restSame⟩ := List.forall_mem_cons.mp same
      rw [List.cons_append, firstPath, firstPath, passedSame, inductionHypothesis restSame]

/-- A list with something that passes a test has a first such thing. -/
theorem exists_first
    {α : Type}
    {test : α → Prop}
    {items : List α}
    (some : ∃ item ∈ items, test item) :
    ∃ earlier first later,
      items = earlier ++ first :: later ∧
        (∀ item ∈ earlier, ¬test item) ∧
          test first := by
  classical
  have isSome : (items.find? fun item => decide (test item)).isSome :=
    List.find?_isSome.mpr (by simpa using some)
  obtain ⟨first, found⟩ := Option.isSome_iff_exists.mp isSome
  obtain ⟨passes, earlier, later, split, others⟩ := List.find?_eq_some_iff_append.mp found
  exact ⟨earlier, first, later, split, by simpa using others, by simpa using passes⟩

end Searching

section Candidates

variable
  {workspace : Workspace}
  {start directory : Path}
  {entry : Text × List Text}
  {earlier later : List (Text × List Text)}

/-- The candidates are the lock files of the directories at or above the start. -/
theorem mem_lockFileCandidates_iff
    {candidate : Path} :
    candidate ∈ lockFileCandidates start ↔
      ∃ directory : Path,
        directory.AtOrAbove start ∧
          ∃ entry ∈ lockFileCommands, directory.child entry.1 = candidate := by
  simp only [lockFileCandidates, List.mem_flatMap, List.mem_map, Path.mem_lineage_iff]

/-- Candidates are paths from the root if the search starts from one. -/
theorem fromRoot_of_mem
    (fromRoot : FromRoot start)
    {candidate : Path}
    (member : candidate ∈ lockFileCandidates start) :
    FromRoot candidate := by
  obtain ⟨directory, atOrAbove, entry, isEntry, rfl⟩ := mem_lockFileCandidates_iff.mp member
  obtain ⟨nameable, notAbove, short⟩ := nameable_lockFileCommands entry isEntry
  exact fromRoot.child atOrAbove nameable notAbove short

/-- Of the directories with lock files one is the nearest. -/
theorem exists_nearest
    (some :
      ∃ directory : Path,
        directory.AtOrAbove start ∧ HasLockFile workspace directory) :
    ∃ directory, Nearest workspace start directory := by
  have inLineage : ∃ directory ∈ start.lineage, HasLockFile workspace directory := by
    simpa only [Path.mem_lineage_iff] using some
  obtain ⟨nearer, directory, farther, split, without, hasLockFile⟩ :=
    exists_first inLineage
  have atOrAbove : directory.AtOrAbove start :=
    Path.mem_lineage_iff.mp (by simp [split])
  refine ⟨directory, atOrAbove, hasLockFile, fun other otherAbove otherHas => ?_⟩
  have member := Path.mem_lineage_iff.mpr otherAbove
  rw [split] at member
  rcases List.mem_append.mp member with isNearer | notNearer
  · exact (without other isNearer otherHas).elim
  · refine otherAbove.of_length_le atOrAbove ?_
    rcases List.mem_cons.mp notNearer with rfl | isFarther
    · exact Nat.le_refl _
    · exact Nat.le_of_lt ((Path.lengths_of_lineage split).2 other isFarther)

/-- Of the lock files of a directory one is the first. -/
theorem exists_entry
    (hasLockFile : HasLockFile workspace directory) :
    ∃ entry later, First workspace directory entry later := by
  obtain ⟨earlier, entry, later, split, without, contained⟩ := exists_first hasLockFile
  exact ⟨entry, later, contained, earlier, split, without⟩

/-- What is out of reach is not further down than the lock files of the directory. -/
theorem OutOfReach.length_le
    {location : Location}
    (outOfReach : OutOfReach directory later location) :
    location.length ≤ directory.parts.length + 1 := by
  cases outOfReach with
  | above above different name =>
      have := above.parts.length_le
      simpa [names] using this
  | later member =>
      simp [names, Path.child]

/-- A lock file of a directory further down is not out of reach. -/
theorem not_outOfReach_of_length_lt
    {near : Path}
    (longer : directory.parts.length < near.parts.length)
    (name : Text)
    (later : List (Text × List Text)) :
    ¬OutOfReach directory later (names (near.child name)) := by
  intro outOfReach
  have := outOfReach.length_le
  simp only [names, Path.child, List.length_map, List.length_append,
    List.length_singleton] at this
  omega

/-- A lock file that comes earlier in the list is not out of reach. -/
theorem not_outOfReach_of_mem
    {other : Text × List Text}
    (inOrder : lockFileCommands = earlier ++ entry :: later)
    (member : other ∈ earlier ++ [entry]) :
    ¬OutOfReach directory later (names (directory.child other.1)) := by
  intro outOfReach
  generalize same : names (directory.child other.1) = location at outOfReach
  rw [names_child] at same
  cases outOfReach with
  | above above different name =>
      have shorter := above.length_lt different
      have sameLength := congrArg List.length same
      simp only [names, List.length_append, List.length_map, List.length_singleton]
        at sameLength
      omega
  | @later third isLater =>
      rw [names_child, List.append_cancel_left_eq, List.singleton_inj] at same
      have distinct := inOrder ▸ lockFileCommands_pairwise
      rw [List.append_cons] at distinct
      exact (List.pairwise_append.mp distinct).2.2 other member third isLater same

/--
The candidates before a lock file of a directory are those of nearer directories
and those of the same directory that come earlier in the list.
-/
theorem exists_candidates
    (atOrAbove : directory.AtOrAbove start)
    (inOrder : lockFileCommands = earlier ++ entry :: later) :
    ∃ before after,
      lockFileCandidates start = before ++ directory.child entry.1 :: after ∧
        ∀ candidate ∈ before,
          (∃ near : Path,
            near.AtOrAbove start ∧
              directory.parts.length < near.parts.length ∧
                ∃ other ∈ lockFileCommands, near.child other.1 = candidate) ∨
            ∃ other ∈ earlier, directory.child other.1 = candidate := by
  obtain ⟨nearer, farther, split⟩ :=
    List.append_of_mem (Path.mem_lineage_iff.mpr atOrAbove)
  refine
    ⟨(nearer.flatMap fun near => lockFileCommands.map fun other => near.child other.1) ++
        earlier.map fun other => directory.child other.1,
      (later.map fun other => directory.child other.1) ++
        farther.flatMap fun far => lockFileCommands.map fun other => far.child other.1,
      ?_, fun candidate member => ?_⟩
  · have atDirectory :
        (lockFileCommands.map fun other => directory.child other.1) =
          (earlier.map fun other => directory.child other.1) ++
            directory.child entry.1 :: later.map fun other => directory.child other.1 := by
      rw [inOrder, List.map_append, List.map_cons]
    rw [lockFileCandidates, split, List.flatMap_append, List.flatMap_cons, atDirectory]
    simp only [List.append_assoc, List.cons_append]
  · rcases List.mem_append.mp member with isNearer | isEarlier
    · obtain ⟨near, inNearer, inNear⟩ := List.mem_flatMap.mp isNearer
      exact
        Or.inl
          ⟨near, Path.mem_lineage_iff.mp (by simp [split, inNearer]),
            (Path.lengths_of_lineage split).1 near inNearer, List.mem_map.mp inNear⟩
    · exact Or.inr (List.mem_map.mp isEarlier)

/--
There is nothing at any of the candidates before the one that decides, and none
of them is out of reach.
-/
theorem exists_candidates_of_first
    (nearest : Nearest workspace start directory)
    (first : First workspace directory entry later) :
    ∃ before after,
      lockFileCandidates start = before ++ directory.child entry.1 :: after ∧
        (∀ passed ∈ before, ¬workspace.Contains passed) ∧
          ∀ candidate ∈ before ++ [directory.child entry.1],
            ¬OutOfReach directory later (names candidate) := by
  obtain ⟨earlier, inOrder, without⟩ := first.first
  obtain ⟨before, after, split, shapes⟩ :=
    exists_candidates nearest.atOrAbove inOrder
  refine ⟨before, after, split, fun passed member contained => ?_, fun candidate member => ?_⟩
  · rcases shapes passed member with
      ⟨near, atOrAbove, longer, other, isEntry, rfl⟩ | ⟨other, isEarlier, rfl⟩
    · have above := nearest.nearest near atOrAbove ⟨other, isEntry, contained⟩
      exact Nat.not_lt.mpr above.parts.length_le longer
    · exact without other isEarlier contained
  · rcases List.mem_append.mp member with isBefore | isLast
    · rcases shapes candidate isBefore with
        ⟨near, _, longer, other, _, rfl⟩ | ⟨other, isEarlier, rfl⟩
      · exact not_outOfReach_of_length_lt longer other.1 later
      · exact not_outOfReach_of_mem inOrder (List.mem_append_left _ isEarlier)
    · rw [List.mem_singleton.mp isLast]
      exact not_outOfReach_of_mem inOrder (List.mem_append_right _ List.mem_cons_self)

end Candidates

/-! ## What the search ends with -/

section Ends

variable
  {workspace : Workspace}
  {start candidate directory : Path}
  {entry : Text × List Text}
  {later : List (Text × List Text)}
  {before after : List Path}

/-- Candidates are reached as long as nothing was found. -/
theorem reached_of_mem
    (split : lockFileCandidates start = before ++ after)
    (nothing : ∀ passed ∈ before, ¬workspace.Contains passed)
    (member : candidate ∈ before) :
    Reached workspace start candidate := by
  obtain ⟨earlier, later, rfl⟩ := List.append_of_mem member
  refine ⟨earlier, later ++ after, by rw [split, List.append_assoc, List.cons_append], ?_⟩
  exact fun passed isEarlier => nothing passed (List.mem_append_left _ isEarlier)

/-- The search goes on behind candidates that are short enough and not there. -/
theorem firstPath_eq_of_absent
    (tree : workspace.IsTree)
    (fromRoot : FromRoot start)
    (split : lockFileCandidates start = before ++ after)
    (nothing : ∀ passed ∈ before, ¬workspace.Contains passed)
    (short : ∀ passed ∈ before, ¬longestPath ≤ passed.length) :
    firstPath workspace (lockFileCandidates start) = firstPath workspace after := by
  have absent : ∀ passed ∈ before, workspace.hasPath passed = .ok false := by
    intro passed member
    have isFromRoot : FromRoot passed :=
      fromRoot_of_mem fromRoot (split ▸ List.mem_append_left after member)
    rw [tree.hasPath_eq isFromRoot, if_neg (short passed member),
      decide_eq_false (nothing passed member)]
  rw [split, firstPath_append absent]

/-- If no path on the way is too long the first lock file of the nearest directory is found. -/
theorem firstPath_of_first
    (tree : workspace.IsTree)
    (fromRoot : FromRoot start)
    (short : ∀ candidate, Reached workspace start candidate → ¬longestPath ≤ candidate.length)
    (nearest : Nearest workspace start directory)
    (first : First workspace directory entry later) :
    firstPath workspace (lockFileCandidates start) = .ok (some (directory.child entry.1)) := by
  obtain ⟨before, after, split, nothing, _⟩ := exists_candidates_of_first nearest first
  have isFromRoot : FromRoot (directory.child entry.1) :=
    fromRoot_of_mem fromRoot (by simp [split])
  have isShort : ¬longestPath ≤ (directory.child entry.1).length :=
    short _ ⟨before, after, split, nothing⟩
  rw [firstPath_eq_of_absent tree fromRoot split nothing fun passed member =>
      short passed (reached_of_mem split nothing member),
    firstPath, tree.hasPath_eq isFromRoot, if_neg isShort, decide_eq_true first.present]

/-- If no path on the way is too long and there is no lock file none is found. -/
theorem firstPath_of_noLockFile
    (tree : workspace.IsTree)
    (fromRoot : FromRoot start)
    (short : ∀ candidate, Reached workspace start candidate → ¬longestPath ≤ candidate.length)
    (noLockFile :
      ∀ directory : Path, directory.AtOrAbove start → ¬HasLockFile workspace directory) :
    firstPath workspace (lockFileCandidates start) = .ok none := by
  have nothing : ∀ passed ∈ lockFileCandidates start, ¬workspace.Contains passed := by
    intro passed member contained
    obtain ⟨directory, atOrAbove, entry, isEntry, rfl⟩ :=
      mem_lockFileCandidates_iff.mp member
    exact noLockFile directory atOrAbove ⟨entry, isEntry, contained⟩
  have split := (List.append_nil (lockFileCandidates start)).symm
  rw [firstPath_eq_of_absent tree fromRoot split nothing fun passed member =>
      short passed (reached_of_mem split nothing member),
    firstPath]

/-- If no path on the way is too long the search ends with the lock file that decides. -/
theorem exists_decides
    (tree : workspace.IsTree)
    (fromRoot : FromRoot start)
    (short :
      ∀ candidate, Reached workspace start candidate → ¬longestPath ≤ candidate.length) :
    ∃ found,
      firstPath workspace (lockFileCandidates start) = .ok found ∧
        Decides workspace start found (commandFor found) := by
  by_cases some :
      ∃ directory : Path, directory.AtOrAbove start ∧ HasLockFile workspace directory
  · obtain ⟨directory, nearest⟩ := exists_nearest some
    obtain ⟨entry, later, first⟩ := exists_entry nearest.hasLockFile
    refine
      ⟨directory.child entry.1, firstPath_of_first tree fromRoot short nearest first, ?_⟩
    rw [commandFor_child directory first.mem]
    exact .nearest nearest first
  · have noLockFile :
        ∀ directory : Path, directory.AtOrAbove start → ¬HasLockFile workspace directory :=
      fun directory atOrAbove has => some ⟨directory, atOrAbove, has⟩
    exact
      ⟨none, firstPath_of_noLockFile tree fromRoot short noLockFile, .none noLockFile⟩

/-- If a path on the way is too long the search is refused for the first such path. -/
theorem exists_refused
    (tree : workspace.IsTree)
    (fromRoot : FromRoot start)
    (reached : Reached workspace start candidate)
    (tooLong : longestPath ≤ candidate.length) :
    ∃ refused,
      Reached workspace start refused ∧
        longestPath ≤ refused.length ∧
          firstPath workspace (lockFileCandidates start) =
            .error { refusal := .nameTooLong, subject := refused.toText } := by
  obtain ⟨earlier, later, split, nothing⟩ := reached
  have some : ∃ path ∈ earlier ++ [candidate], longestPath ≤ path.length :=
    ⟨candidate, List.mem_append_right _ List.mem_cons_self, tooLong⟩
  obtain ⟨before, refused, after, inFront, short, refusedTooLong⟩ := exists_first some
  have beforeInEarlier : earlier = before ++ (refused :: after).dropLast := by
    rw [← List.dropLast_append_of_ne_nil (List.cons_ne_nil refused after), ← inFront,
      List.dropLast_concat]
  have nothingBefore : ∀ passed ∈ before, ¬workspace.Contains passed := fun passed member =>
    nothing passed (beforeInEarlier ▸ List.mem_append_left _ member)
  have splitThere : lockFileCandidates start = before ++ refused :: (after ++ later) := by
    rw [split, List.append_cons, inFront, List.append_assoc, List.cons_append]
  have isReached : Reached workspace start refused :=
    ⟨before, after ++ later, splitThere, nothingBefore⟩
  have isFromRoot : FromRoot refused := fromRoot_of_mem fromRoot (by simp [splitThere])
  refine ⟨refused, isReached, refusedTooLong, ?_⟩
  rw [firstPath_eq_of_absent tree fromRoot splitThere nothingBefore short, firstPath,
    tree.hasPath_eq isFromRoot, if_pos refusedTooLong]

/-- A file out of reach does not change what the search ends with. -/
theorem firstPath_put
    {location : Location}
    (tree : workspace.IsTree)
    (fromRoot : FromRoot start)
    (nearest : Nearest workspace start directory)
    (first : First workspace directory entry later)
    (nothing : workspace.nodeAt? location = none)
    (outOfReach : OutOfReach directory later location)
    (contents : Bytes)
    (mode : Nat) :
    firstPath (workspace.put location (.file contents mode)) (lockFileCandidates start) =
      firstPath workspace (lockFileCandidates start) := by
  obtain ⟨before, after, split, _, inReach⟩ := exists_candidates_of_first nearest first
  have isFromRoot
      {candidate : Path}
      (member : candidate ∈ before ++ [directory.child entry.1]) :
      FromRoot candidate :=
    fromRoot_of_mem fromRoot <| by
      rw [split, List.append_cons]
      exact List.mem_append_left after member
  rw [split]
  refine firstPath_congr (fun candidate member => ?_) ?_
  · refine hasPath_put_file nothing contents mode fun located => ?_
    obtain rfl := tree.eq_names_of_locate (isFromRoot member) located
    exact inReach candidate member outOfReach
  · rw [tree.hasPath_eq (isFromRoot (List.mem_append_right _ List.mem_cons_self))]
    split
    · nofun
    · rw [decide_eq_true first.present]
      decide

end Ends

/--
From any directory of a tree the nearest directory with a lock file decides, and
in it the first lock file in the list: that one is found, and the command that
belongs to its name is chosen; without any lock file it is the plain command.
The search is refused if it gets to a path that is too long, and only then.  A
file that is added above the nearest directory, or a lock file in it that comes
later in the list, does not change the outcome.
-/
theorem nearest_lock_file_decides
    {workspace : Workspace}
    {start : Path}
    (tree : workspace.IsTree)
    (isDirectory : workspace.hasDirectory start = .ok true) :
    ∃ resolved,
      start.resolve workspace.here = .ok resolved ∧
        workspace.locate start = .ok (names resolved) ∧
          ((∀ candidate,
              Reached workspace resolved candidate → candidate.length < longestPath) →
            ∃ found command,
              lockFile workspace start = .ok found ∧
                detectCommand workspace start = .ok command ∧
                  Decides workspace resolved found command) ∧
          ((∃ candidate,
              Reached workspace resolved candidate ∧ longestPath ≤ candidate.length) →
            ∃ refused,
              Reached workspace resolved refused ∧
                longestPath ≤ refused.length ∧
                  lockFile workspace start = .error (refusedFor refused .nameTooLong) ∧
                    detectCommand workspace start =
                      .error (refusedFor refused .nameTooLong)) ∧
          ∀ directory entry later location contents mode,
            Nearest workspace resolved directory →
              First workspace directory entry later →
                workspace.nodeAt? location = none →
                  OutOfReach directory later location →
                    let other := workspace.put location (.file contents mode)
                    lockFile other start = lockFile workspace start ∧
                      detectCommand other start = detectCommand workspace start := by
  obtain ⟨resolved, resolves, located, fromRoot⟩ := tree.exists_resolved isDirectory
  have search :
      lockFile workspace start =
        (firstPath workspace (lockFileCandidates resolved)).mapError .system := by
    rw [lockFile, resolves]
  refine ⟨resolved, resolves, located, fun short => ?_, ?_, ?_⟩
  · obtain ⟨found, isFound, decides⟩ :=
      exists_decides tree fromRoot fun candidate reached =>
        Nat.not_le.mpr (short candidate reached)
    rw [isFound] at search
    exact ⟨found, commandFor found, search, by rw [detectCommand, search]; rfl, decides⟩
  · rintro ⟨candidate, reached, tooLong⟩
    obtain ⟨refused, isReached, refusedTooLong, isRefused⟩ :=
      exists_refused tree fromRoot reached tooLong
    rw [isRefused] at search
    exact ⟨refused, isReached, refusedTooLong, search, by rw [detectCommand, search]; rfl⟩
  · intro directory entry later location contents mode nearest first nothing outOfReach
    have same :
        lockFile (workspace.put location (.file contents mode)) start =
          lockFile workspace start := by
      rw [search, lockFile]
      dsimp only [put]
      rw [resolves]
      exact
        congrArg (Except.mapError AccessFault.system)
          (firstPath_put tree fromRoot nearest first nothing outOfReach contents mode)
    exact ⟨same, by rw [detectCommand, detectCommand, same]⟩

/-- The lock file of the directory above decides, also with another one further up. -/
theorem lock_file_above_decides :
    let workspace :=
      (Workspace.fresh "/w/a" []).put (names "/w/yarn.lock") (.file [] 0o644)
    let other := workspace.put (names "/pnpm-lock.yaml") (.file [] 0o644)
    workspace.IsTree ∧
      workspace.hasDirectory "." = .ok true ∧
        detectCommand workspace "." = .ok ["yarn", "exec", "oxlint"] ∧
          detectCommand other "." = .ok ["yarn", "exec", "oxlint"] := by
  intro workspace other
  have fromRoot : FromRoot "/w/a" :=
    ⟨by decide, by decide +kernel, by decide +kernel, by decide +kernel⟩
  have tree : workspace.IsTree := by
    have isFolder :
        (Workspace.fresh "/w/a" []).nodeAt? (names "/w") = some (.directory 0o755) := by
      decide +kernel
    exact
      (isTree_fresh "/w/a" [] fromRoot).put_file isFolder
        (by decide +kernel) (by decide +kernel) [] 0o644
  have isDirectory : workspace.hasDirectory "." = .ok true := by decide +kernel
  have isYarn : detectCommand workspace "." = .ok ["yarn", "exec", "oxlint"] := by
    decide +kernel
  obtain ⟨resolved, resolves, _, _, _, unchanged⟩ := nearest_lock_file_decides tree isDirectory
  have isStart : resolved = ("/w/a" : Path) := by
    have here : Path.resolve "." workspace.here = .ok "/w/a" := by decide +kernel
    exact Except.ok.inj (resolves.symm.trans here)
  subst isStart
  have nearest : Nearest workspace "/w/a" "/w" := by
    have inLineage :
        ∀ directory ∈ Path.lineage "/w/a",
          HasLockFile workspace directory → directory ∈ Path.lineage "/w" := by
      decide +kernel
    refine ⟨Path.mem_lineage_iff.mp (by decide +kernel), by decide +kernel, ?_⟩
    exact fun directory atOrAbove has =>
      Path.mem_lineage_iff.mp (inLineage directory (Path.mem_lineage_iff.mpr atOrAbove) has)
  have first :
      First workspace "/w" ("yarn.lock", ["yarn", "exec", "oxlint"])
        [("package-lock.json", ["npx", "oxlint"])] :=
    ⟨by decide +kernel, [("pnpm-lock.yaml", ["pnpm", "exec", "oxlint"])], rfl,
      by decide +kernel⟩
  have outOfReach :
      OutOfReach "/w" [("package-lock.json", ["npx", "oxlint"])] (names "/pnpm-lock.yaml") := by
    have above : Path.AtOrAbove "/" "/w" := Path.mem_lineage_iff.mp (by decide +kernel)
    exact .above above (by decide +kernel) _
  have same := unchanged _ _ _ _ [] 0o644 nearest first (by decide +kernel) outOfReach
  exact ⟨tree, isDirectory, isYarn, same.2.trans isYarn⟩

/--
From a directory that is not too deep itself the search is refused, although
there is no lock file anywhere.
-/
theorem deep_directory_is_refused :
    let deep : Path := {
      anchor := .root
      parts := List.replicate 15 (List.replicate 254 0x64) ++ [List.replicate 255 0x64]
    }
    let workspace := Workspace.fresh deep []
    let refused := deep.child "pnpm-lock.yaml"
    workspace.IsTree ∧
      workspace.hasDirectory deep = .ok true ∧
        (∀ directory : Path,
          directory.AtOrAbove deep → ¬HasLockFile workspace directory) ∧
          lockFile workspace deep = .error (refusedFor refused .nameTooLong) ∧
            detectCommand workspace deep = .error (refusedFor refused .nameTooLong) := by
  intro deep workspace refused
  have fromRoot : FromRoot deep :=
    ⟨by decide, by decide +kernel, by decide +kernel, by decide +kernel⟩
  have refusedFromRoot : FromRoot refused :=
    fromRoot.child ⟨rfl, List.prefix_rfl⟩ (by decide) (by decide) (by decide)
  have tree : workspace.IsTree := isTree_fresh deep [] fromRoot
  have isDirectory : workspace.hasDirectory deep = .ok true :=
    hasDirectory_fresh deep [] fromRoot (by decide +kernel)
  have noLockFile (directory : Path) : ¬HasLockFile workspace directory := by
    rintro ⟨entry, isEntry, contained⟩
    have longNames : ∀ name ∈ names deep, 254 ≤ name.length := by decide +kernel
    have shortEntries :
        ∀ entry ∈ lockFileCommands,
          (entry.1.flatMap Utf8.encodePathPoint).length < 254 := by
      decide
    rw [Contains, nodeAt?_fresh, names_child] at contained
    split at contained
    · next above =>
        exact
          Nat.not_le.mpr (shortEntries entry isEntry)
            (longNames _ (above.subset (List.mem_append_right _ List.mem_cons_self)))
    · cases contained
  have isRefused : lockFile workspace deep = .error (refusedFor refused .nameTooLong) := by
    have answer :
        workspace.hasPath refused =
          .error { refusal := .nameTooLong, subject := refused.toText } := by
      rw [tree.hasPath_eq refusedFromRoot, if_pos (by decide +kernel)]
    obtain ⟨others, candidates⟩ : ∃ others, lockFileCandidates deep = refused :: others :=
      ⟨_, rfl⟩
    rw [lockFile, fromRoot.resolve_eq rfl workspace.here]
    dsimp only
    rw [candidates, firstPath, answer]
    rfl
  exact
    ⟨tree, isDirectory, fun directory _ => noLockFile directory, isRefused,
      by rw [detectCommand, isRefused]; rfl⟩

end Linter

end Tolerance
