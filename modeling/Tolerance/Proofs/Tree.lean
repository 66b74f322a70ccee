import Mathlib.Data.List.Basic
import Mathlib.Data.List.Induction
import Tolerance.Proofs.Directories

namespace Tolerance

/-!
# The tree of directories

The directories at or above a path are those whose parts the path begins with.
In a tree everything stands in a directory, so that what an absolute path leads
to is what stands at its names, and the file system refuses to say so only if
the path is too long.
-/

namespace Path

/-! ## Directories at or above a path -/

/-- A directory is at or above a path if the path begins with its parts. -/
structure AtOrAbove (directory path : Path) : Prop where
  anchor : directory.anchor = path.anchor
  parts : directory.parts <+: path.parts

/-- The lineage of a path holds the directories at or above it, and no others. -/
theorem mem_lineage_iff
    {directory path : Path} :
    directory ∈ path.lineage ↔ directory.AtOrAbove path := by
  rw [lineage, List.mem_map]
  constructor
  · rintro ⟨dropped, _, rfl⟩
    exact ⟨rfl, List.take_prefix _ _⟩
  · rintro ⟨sameAnchor, isPrefix⟩
    have shorter := isPrefix.length_le
    refine
      ⟨path.parts.length - directory.parts.length, List.mem_range.mpr (by omega), ?_⟩
    rw [Nat.sub_sub_self shorter, ← List.prefix_iff_eq_take.mp isPrefix, ← sameAnchor]

/-- In the lineage of a path the nearest directory comes first. -/
theorem lineage_pairwise (path : Path) :
    path.lineage.Pairwise fun near far => far.parts.length < near.parts.length := by
  rw [lineage, List.pairwise_map]
  refine List.pairwise_lt_range.imp_of_mem fun {near far} _ farInside before => ?_
  have := List.mem_range.mp farInside
  simp only [List.length_take]
  omega

/-- Around a directory of the lineage the nearer ones have more parts, the others fewer. -/
theorem lengths_of_lineage
    {path directory : Path}
    {nearer farther : List Path}
    (split : path.lineage = nearer ++ directory :: farther) :
    (∀ near ∈ nearer, directory.parts.length < near.parts.length) ∧
      ∀ far ∈ farther, far.parts.length < directory.parts.length := by
  have pairwise := split ▸ path.lineage_pairwise
  obtain ⟨_, fromDirectory, across⟩ := List.pairwise_append.mp pairwise
  exact
    ⟨fun near member => across near member directory List.mem_cons_self,
      (List.pairwise_cons.mp fromDirectory).1⟩

/-- Of two directories above the same path the shorter one is above the other. -/
theorem AtOrAbove.of_length_le
    {first second path : Path}
    (firstAbove : first.AtOrAbove path)
    (secondAbove : second.AtOrAbove path)
    (shorter : first.parts.length ≤ second.parts.length) :
    first.AtOrAbove second where
  anchor := firstAbove.anchor.trans secondAbove.anchor.symm
  parts := List.prefix_of_prefix_length_le firstAbove.parts secondAbove.parts shorter

/-- A directory above another one has fewer parts. -/
theorem AtOrAbove.length_lt
    {ancestor directory : Path}
    (above : ancestor.AtOrAbove directory)
    (different : ancestor ≠ directory) :
    ancestor.parts.length < directory.parts.length := by
  refine Nat.lt_of_le_of_ne above.parts.length_le fun sameLength => different ?_
  cases ancestor
  cases directory
  cases above.anchor
  cases above.parts.eq_of_length sameLength
  rfl

/-! ## Resolved paths -/

/-- No part of what is passed on the way leads up. -/
theorem above_not_mem_foldl_stepTo
    {visited : List Text}
    (straight : above ∉ visited)
    (parts : List Text) :
    above ∉ parts.foldl stepTo visited := by
  induction parts generalizing visited with
  | nil => exact straight
  | cons part parts inductionHypothesis =>
      refine inductionHypothesis ?_
      rw [stepTo]
      split
      · exact fun member => straight (List.dropLast_subset _ member)
      · next notAbove =>
          intro member
          rcases List.mem_append.mp member with before | isPart
          · exact straight before
          · exact notAbove (List.mem_singleton.mp isPart).symm

/-- Parts that do not lead up are passed one after the other. -/
theorem foldl_stepTo_of_not_mem
    {parts : List Text}
    (straight : above ∉ parts)
    (visited : List Text) :
    parts.foldl stepTo visited = visited ++ parts := by
  induction parts generalizing visited with
  | nil => exact (List.append_nil visited).symm
  | cons part parts inductionHypothesis =>
      rw [List.mem_cons, not_or] at straight
      obtain ⟨notAbove, restStraight⟩ := straight
      rw [List.foldl_cons, inductionHypothesis restStraight, stepTo,
        if_neg (Ne.symm notAbove), List.append_assoc, List.singleton_append]

theorem checkParts_of_nameable
    (anchor : Anchor)
    {visited parts : List Text}
    (visitedNameable : ∀ part ∈ visited, part.Nameable)
    (partsNameable : ∀ part ∈ parts, part.Nameable) :
    checkParts anchor visited parts = .ok () := by
  induction parts generalizing visited with
  | nil => rfl
  | cons part parts inductionHypothesis =>
      obtain ⟨partNameable, restNameable⟩ := List.forall_mem_cons.mp partsNameable
      have extended
          {last : Text}
          (lastNameable : last.Nameable) :
          ∀ part ∈ visited ++ [last], part.Nameable := by
        intro part member
        rcases List.mem_append.mp member with before | isLast
        · exact visitedNameable part before
        · exact List.mem_singleton.mp isLast ▸ lastNameable
      rw [checkParts]
      split
      · refine inductionHypothesis ?_ restNameable
        rw [climb]
        split
        · exact extended (by decide)
        · exact fun part member =>
            visitedNameable part (List.dropLast_subset _ member)
      · have accepted : Path.Accepted { anchor := anchor, parts := visited ++ [part] } :=
          accepted_iff.mpr (extended partNameable)
        obtain ⟨bytes, encoded⟩ := accepted
        rw [encoded]
        exact inductionHypothesis (extended partNameable) restNameable

/-- A path that can be looked up is resolved to its absolute form. -/
theorem resolve_of_accepted
    {path : Path}
    (accepted : path.Accepted)
    (here : Path) :
    path.resolve here = .ok { path.absolute here with anchor := .root } := by
  rw [resolve,
    checkParts_of_nameable _ (fun _ member => (List.not_mem_nil member).elim)
      (accepted_iff.mp accepted)]

end Path

namespace Workspace

/-! ## Where names lead -/

/-- Take one step along names, where a pair of dots leads up. -/
def stepTo (location : Location) (name : Bytes) : Location :=
  if name = [0x2e, 0x2e] then location.dropLast else location ++ [name]

/-- Names that lead anywhere lead there step by step. -/
theorem eq_foldl_of_walk
    {workspace : Workspace}
    {start target : Location}
    {names : List Bytes}
    (walked : workspace.walk start names = .ok target) :
    target = names.foldl stepTo start := by
  induction names generalizing start with
  | nil =>
      cases walked
      rfl
  | cons name names inductionHypothesis =>
      rw [walk] at walked
      split at walked
      · cases walked
      · cases walked
      · split at walked
        · next isAbove =>
            rw [inductionHypothesis walked, List.foldl_cons, stepTo, if_pos isAbove]
        · next notAbove =>
            split at walked
            · cases walked
            · rw [inductionHypothesis walked, List.foldl_cons, stepTo, if_neg notAbove]

/-- The names of a path's parts lead where the parts lead. -/
theorem map_foldl_stepTo
    (visited parts : List Text) :
    (parts.foldl Path.stepTo visited).map (·.flatMap Utf8.encodePathPoint) =
      (parts.map (·.flatMap Utf8.encodePathPoint)).foldl stepTo
        (visited.map (·.flatMap Utf8.encodePathPoint)) := by
  induction parts generalizing visited with
  | nil => rfl
  | cons part parts inductionHypothesis =>
      rw [List.foldl_cons, inductionHypothesis, List.map_cons, List.foldl_cons]
      congr 1
      rw [Path.stepTo, stepTo]
      by_cases isAbove : part = Path.above
      · rw [if_pos isAbove, if_pos (by rw [isAbove]; decide), List.map_dropLast]
      · rw [if_neg isAbove, if_neg fun same => isAbove (Access.eq_above_of_encoded same),
          List.map_append, List.map_singleton]

/-- A path leads to the location of its absolute form. -/
theorem eq_locationOf_of_locate
    {workspace : Workspace}
    {path : Path}
    {location : Location}
    (straight : Path.above ∉ workspace.here.parts)
    (located : workspace.locate path = .ok location) :
    location = workspace.locationOf path := by
  unfold locate at located
  split at located
  · cases located
  split at located
  · cases located
  dsimp only at located
  split at located
  · cases located
  · next target walked =>
      cases located
      rw [eq_foldl_of_walk walked, locationOf, Path.absolute, Path.within]
      cases path.isAbsolute with
      | true => exact (map_foldl_stepTo [] path.parts).symm
      | false =>
          simp only [Bool.false_eq_true, if_false, names, List.foldl_append,
            Path.foldl_stepTo_of_not_mem straight, List.nil_append, map_foldl_stepTo]

/-! ## Trees -/

/--
In a tree everything but the root stands in a directory and has a name that is
not too long, and the working directory can be looked up.
-/
structure IsTree (workspace : Workspace) : Prop where
  inDirectory :
    ∀ location node,
      workspace.nodeAt? location = some node →
        location ≠ [] →
          ∃ mode, workspace.nodeAt? location.dropLast = some (.directory mode)
  shortNames :
    ∀ location node,
      workspace.nodeAt? location = some node →
        ∀ name ∈ location, name.length ≤ longestName
  here : workspace.here.Accepted
  hereStraight : Path.above ∉ workspace.here.parts

namespace IsTree

variable {workspace : Workspace}

/-- There is a directory above whatever stands somewhere. -/
theorem directory_above
    (tree : workspace.IsTree)
    {location more : Location}
    {node : Node}
    (below : more ≠ [])
    (found : workspace.nodeAt? (location ++ more) = some node) :
    ∃ mode, workspace.nodeAt? location = some (.directory mode) := by
  induction more using List.reverseRecOn generalizing node with
  | nil => exact (below rfl).elim
  | append_singleton more name inductionHypothesis =>
      obtain ⟨mode, isDirectory⟩ := tree.inDirectory _ node found (by simp)
      rw [← List.append_assoc, List.dropLast_concat] at isDirectory
      by_cases last : more = []
      · rw [last, List.append_nil] at isDirectory
        exact ⟨mode, isDirectory⟩
      · exact inductionHypothesis last isDirectory

/--
Names lead to the location that they spell out, or nothing stands there and the
file system says that something is missing on the way.
-/
theorem walk_cases
    (tree : workspace.IsTree)
    (start : Location)
    {names : List Bytes}
    (straight : [0x2e, 0x2e] ∉ names)
    (short : ∀ name ∈ names, name.length ≤ longestName) :
    workspace.walk start names = .ok (start ++ names) ∨
      workspace.nodeAt? (start ++ names) = none ∧
        (workspace.walk start names = .error .noEntry ∨
          workspace.walk start names = .error .notDirectory) := by
  induction names generalizing start with
  | nil => exact Or.inl (by rw [walk, List.append_nil])
  | cons name names inductionHypothesis =>
      rw [List.mem_cons, not_or] at straight
      obtain ⟨nameShort, restShort⟩ := List.forall_mem_cons.mp short
      have nothingBelow
          (noDirectory : workspace.NoDirectoryAt start) :
          workspace.nodeAt? (start ++ name :: names) = none := by
        by_contra something
        obtain ⟨node, found⟩ := Option.ne_none_iff_exists'.mp something
        obtain ⟨mode, isDirectory⟩ :=
          tree.directory_above (List.cons_ne_nil name names) found
        exact noDirectory mode isDirectory
      rw [walk]
      cases atStart : workspace.nodeAt? start with
      | none =>
          exact Or.inr ⟨nothingBelow (noDirectoryAt_of_eq_none atStart), Or.inl rfl⟩
      | some node =>
          cases node with
          | file contents mode =>
              exact Or.inr ⟨nothingBelow (noDirectoryAt_of_eq_file atStart), Or.inr rfl⟩
          | directory mode =>
              dsimp only
              rw [if_neg (Ne.symm straight.1), if_neg (Nat.not_lt.mpr nameShort)]
              have rest := inductionHypothesis (start ++ [name]) straight.2 restShort
              rwa [List.append_assoc, List.singleton_append] at rest

end IsTree

/-- Something stands where the parts of a path lead from the root. -/
def Contains (workspace : Workspace) (path : Path) : Prop :=
  (workspace.nodeAt? (names path)).isSome = true

instance (workspace : Workspace) (path : Path) : Decidable (workspace.Contains path) :=
  inferInstanceAs (Decidable (_ = true))

/-- A file stands where the parts of a path lead from the root. -/
def ContainsFile (workspace : Workspace) (path : Path) : Prop :=
  (workspace.nodeAt? (names path)).any Node.isFile = true

instance (workspace : Workspace) (path : Path) : Decidable (workspace.ContainsFile path) :=
  inferInstanceAs (Decidable (_ = true))

end Workspace

/-- The number of bytes in the text of a path. -/
def Path.length (path : Path) : Nat :=
  (path.toText.flatMap Utf8.encodePathPoint).length

theorem Path.encode_of_accepted
    {path : Path}
    (accepted : path.Accepted) :
    path.encode = .ok (path.toText.flatMap Utf8.encodePathPoint) := by
  obtain ⟨bytes, encoded⟩ := accepted
  rw [encode, Utf8.encodePath] at encoded ⊢
  cases fault : Utf8.pathFaultAt 0 path.toText with
  | some fault' =>
      rw [fault] at encoded
      cases encoded
  | none =>
      rw [fault] at encoded
      dsimp only at encoded ⊢
      split at encoded
      · cases encoded
      · next noNull => rw [if_neg noNull]

namespace Workspace

/-- What a path leads to is what stands at the location. -/
theorem status_of_locate
    {workspace : Workspace}
    {path : Path}
    {location : Location}
    {node : Node}
    (located : workspace.locate path = .ok location)
    (found : workspace.nodeAt? location = some node) :
    workspace.status path = .ok node := by
  rw [status, located]
  dsimp only
  rw [found]

/-- A test of a path that leads to a location is one of what stands there. -/
theorem holds_of_locate
    {workspace : Workspace}
    {path : Path}
    {location : Location}
    (located : workspace.locate path = .ok location)
    (test : Node → Bool) :
    workspace.holds path test = .ok ((workspace.nodeAt? location).any test) := by
  rw [holds, status, located]
  dsimp only
  cases workspace.nodeAt? location with
  | none => rfl
  | some node => rfl

/-- No test is passed by a path that leads nowhere; any other refusal is passed on. -/
theorem holds_of_refused
    {workspace : Workspace}
    {path : Path}
    {refusal : Refusal}
    (refused : workspace.locate path = .error (refusedFor path refusal))
    (test : Node → Bool) :
    workspace.holds path test =
      if refusal = .noEntry ∨ refusal = .notDirectory then
        .ok false
      else
        .error { refusal := refusal, subject := path.toText } := by
  rw [holds, status, refused]
  rfl

/-- A path from the root, by names as the file system knows them. -/
structure FromRoot (path : Path) : Prop where
  absolute : path.isAbsolute = true
  accepted : path.Accepted
  straight : Path.above ∉ path.parts
  short : ∀ name ∈ names path, name.length ≤ longestName

theorem names_child
    (directory : Path)
    (name : Text) :
    names (directory.child name) =
      names directory ++ [name.flatMap Utf8.encodePathPoint] := by
  rw [names, Path.child, List.map_append]
  rfl

/-- The absolute form of a path from the root has the same parts. -/
theorem FromRoot.parts_absolute
    {path : Path}
    (fromRoot : FromRoot path)
    (here : Path) :
    (path.absolute here).parts = path.parts := by
  rw [Path.absolute, Path.within, if_pos fromRoot.absolute]
  exact Path.foldl_stepTo_of_not_mem fromRoot.straight []

/-- A path from the single root is its own absolute form. -/
theorem FromRoot.resolve_eq
    {path : Path}
    (fromRoot : FromRoot path)
    (isRoot : path.anchor = .root)
    (here : Path) :
    path.resolve here = .ok path := by
  rw [Path.resolve_of_accepted fromRoot.accepted]
  dsimp only
  rw [fromRoot.parts_absolute here, ← isRoot]

/-- The names of parts that do not lead up do not lead up. -/
theorem above_not_mem_names
    {path : Path}
    (straight : Path.above ∉ path.parts) :
    [0x2e, 0x2e] ∉ names path := by
  intro member
  obtain ⟨part, isPart, same⟩ := List.mem_map.mp member
  rw [Access.eq_above_of_encoded same] at isPart
  exact straight isPart

namespace IsTree

variable {workspace : Workspace} {path : Path}

/--
A path that is not too long leads to where its names do, or nothing stands there
and the file system says that something is missing on the way.
-/
theorem locate_cases
    (tree : workspace.IsTree)
    (fromRoot : FromRoot path)
    (short : path.length < longestPath) :
    workspace.locate path = .ok (names path) ∨
      workspace.nodeAt? (names path) = none ∧
        (workspace.locate path = .error (refusedFor path .noEntry) ∨
          workspace.locate path = .error (refusedFor path .notDirectory)) := by
  have notTooLong :
      ¬longestPath ≤ (path.toText.flatMap Utf8.encodePathPoint).length :=
    Nat.not_le.mpr short
  rw [locate, Path.encode_of_accepted fromRoot.accepted]
  dsimp only
  rw [if_neg notTooLong, if_pos fromRoot.absolute]
  rcases tree.walk_cases [] (above_not_mem_names fromRoot.straight) fromRoot.short with
    leads | ⟨nothing, noEntry | notDirectory⟩
  · rw [leads]
    exact Or.inl rfl
  · rw [noEntry]
    exact Or.inr ⟨nothing, Or.inl rfl⟩
  · rw [notDirectory]
    exact Or.inr ⟨nothing, Or.inr rfl⟩

/-- A path that is not too long leads to what stands at its names. -/
theorem status_eq_ok
    (tree : workspace.IsTree)
    (fromRoot : FromRoot path)
    (short : path.length < longestPath)
    {node : Node}
    (found : workspace.nodeAt? (names path) = some node) :
    workspace.status path = .ok node := by
  rcases tree.locate_cases fromRoot short with located | ⟨nothing, _⟩
  · exact status_of_locate located found
  · rw [found] at nothing
    cases nothing

/-- A test of a path is one of what stands at the names, unless the path is too long. -/
theorem holds_eq
    (tree : workspace.IsTree)
    (fromRoot : FromRoot path)
    (test : Node → Bool) :
    workspace.holds path test =
      if longestPath ≤ path.length then
        .error { refusal := .nameTooLong, subject := path.toText }
      else
        .ok ((workspace.nodeAt? (names path)).any test) := by
  split
  · next tooLong =>
      have refused :
          workspace.locate path = .error (refusedFor path .nameTooLong) := by
        rw [locate, Path.encode_of_accepted fromRoot.accepted]
        exact if_pos tooLong
      rw [holds_of_refused refused, if_neg (by decide)]
  · next notTooLong =>
      rcases tree.locate_cases fromRoot (Nat.not_le.mp notTooLong) with
        located | ⟨nothing, noEntry | notDirectory⟩
      · exact holds_of_locate located test
      · rw [holds_of_refused noEntry, if_pos (Or.inl rfl), nothing]
        rfl
      · rw [holds_of_refused notDirectory, if_pos (Or.inr rfl), nothing]
        rfl

/-- Whether something is at a path is asked of the names, unless the path is too long. -/
theorem hasPath_eq
    (tree : workspace.IsTree)
    (fromRoot : FromRoot path) :
    workspace.hasPath path =
      if longestPath ≤ path.length then
        .error { refusal := .nameTooLong, subject := path.toText }
      else
        .ok (decide (workspace.Contains path)) := by
  have isSome : decide (workspace.Contains path) = (workspace.nodeAt? (names path)).isSome :=
    Bool.decide_eq_true
  rw [hasPath, tree.holds_eq fromRoot, isSome]
  cases workspace.nodeAt? (names path) with
  | none => rfl
  | some node => rfl

/-- Whether a file is at a path is asked of the names, unless the path is too long. -/
theorem hasFile_eq
    (tree : workspace.IsTree)
    (fromRoot : FromRoot path) :
    workspace.hasFile path =
      if longestPath ≤ path.length then
        .error { refusal := .nameTooLong, subject := path.toText }
      else
        .ok (decide (workspace.ContainsFile path)) := by
  have isFile :
      decide (workspace.ContainsFile path) =
        (workspace.nodeAt? (names path)).any Node.isFile :=
    Bool.decide_eq_true
  rw [hasFile, tree.holds_eq fromRoot, isFile]

/-- A path from the root leads where its names say, if it leads anywhere. -/
theorem eq_names_of_locate
    (tree : workspace.IsTree)
    (fromRoot : FromRoot path)
    {location : Location}
    (located : workspace.locate path = .ok location) :
    location = names path := by
  rw [eq_locationOf_of_locate tree.hereStraight located, locationOf, names,
    fromRoot.parts_absolute workspace.here, names]

/-- A directory to start from is resolved to a path from the root that leads to it. -/
theorem exists_resolved
    (tree : workspace.IsTree)
    (isDirectory : workspace.hasDirectory path = .ok true) :
    ∃ resolved,
      path.resolve workspace.here = .ok resolved ∧
        workspace.locate path = .ok (names resolved) ∧
          FromRoot resolved := by
  obtain ⟨mode, status⟩ := Access.hasDirectory_eq_ok_true_iff.mp isDirectory
  obtain ⟨location, located, found⟩ := exists_locate_of_status status
  have accepted := accepted_of_locate located
  obtain rfl := eq_locationOf_of_locate tree.hereStraight located
  refine
    ⟨{ path.absolute workspace.here with anchor := .root },
      Path.resolve_of_accepted accepted workspace.here, located, ?_⟩
  exact
    { absolute := rfl
      accepted := (accepted.absolute tree.here).of_parts fun _ member => member
      straight := Path.above_not_mem_foldl_stepTo List.not_mem_nil _
      short := tree.shortNames _ _ found }

end IsTree

namespace FromRoot

variable {path directory : Path}

/-- A name in a directory at or above a path from the root gives such a path. -/
theorem child
    (fromRoot : FromRoot path)
    (isAbove : directory.AtOrAbove path)
    {name : Text}
    (nameable : name.Nameable)
    (notAbove : name ≠ Path.above)
    (short : (name.flatMap Utf8.encodePathPoint).length ≤ longestName) :
    FromRoot (directory.child name) where
  absolute := by
    rw [Path.isAbsolute, Path.child, isAbove.anchor]
    exact fromRoot.absolute
  accepted :=
    (fromRoot.accepted.of_parts fun _ member => isAbove.parts.subset member).child nameable
  straight member := by
    rcases List.mem_append.mp member with inDirectory | isName
    · exact fromRoot.straight (isAbove.parts.subset inDirectory)
    · exact notAbove (List.mem_singleton.mp isName).symm
  short other member := by
    rw [names_child] at member
    rcases List.mem_append.mp member with inDirectory | isName
    · exact fromRoot.short other ((isAbove.parts.map _).subset inDirectory)
    · exact List.mem_singleton.mp isName ▸ short

end FromRoot

/-! ## Adding a file -/

/-- Names lead on as they did if there is a file where nothing was. -/
theorem walk_put_file
    {workspace : Workspace}
    {location : Location}
    (nothing : workspace.nodeAt? location = none)
    (contents : Bytes)
    (mode : Nat)
    (start : Location)
    (names : List Bytes) :
    (workspace.put location (.file contents mode)).walk start names =
        workspace.walk start names ∨
      (workspace.put location (.file contents mode)).walk start names =
          .error .notDirectory ∧
        workspace.walk start names = .error .noEntry := by
  induction names generalizing start with
  | nil => exact Or.inl rfl
  | cons name names inductionHypothesis =>
      rw [walk, walk, nodeAt?_put]
      by_cases same : location = start
      · rw [if_pos same, ← same, nothing]
        exact Or.inr ⟨rfl, rfl⟩
      · rw [if_neg same]
        cases workspace.nodeAt? start with
        | none => exact Or.inl rfl
        | some node =>
            cases node with
            | file => exact Or.inl rfl
            | directory mode =>
                dsimp only
                split
                · exact inductionHypothesis _
                split
                · exact Or.inl rfl
                · exact inductionHypothesis _

/-- A path leads where it did if there is a file where nothing was. -/
theorem locate_put_file
    {workspace : Workspace}
    {location : Location}
    (nothing : workspace.nodeAt? location = none)
    (contents : Bytes)
    (mode : Nat)
    (path : Path) :
    (workspace.put location (.file contents mode)).locate path =
        workspace.locate path ∨
      (workspace.put location (.file contents mode)).locate path =
          .error (refusedFor path .notDirectory) ∧
        workspace.locate path = .error (refusedFor path .noEntry) := by
  have walked :=
    walk_put_file nothing contents mode
      (if path.isAbsolute then [] else names workspace.here) (names path)
  rw [locate, locate]
  split
  · exact Or.inl rfl
  split
  · exact Or.inl rfl
  dsimp only [put] at walked ⊢
  rcases walked with same | ⟨isFile, missing⟩
  · rw [same]
    exact Or.inl rfl
  · rw [isFile, missing]
    exact Or.inr ⟨rfl, rfl⟩

/-- A file is seen only by the paths that lead to it. -/
theorem hasPath_put_file
    {workspace : Workspace}
    {location : Location}
    (nothing : workspace.nodeAt? location = none)
    (contents : Bytes)
    (mode : Nat)
    {path : Path}
    (elsewhere : workspace.locate path ≠ .ok location) :
    (workspace.put location (.file contents mode)).hasPath path =
      workspace.hasPath path := by
  rcases locate_put_file nothing contents mode path with same | ⟨isFile, missing⟩
  · cases target : workspace.locate path with
    | ok other =>
        have different : location ≠ other := by
          rintro rfl
          exact elsewhere target
        rw [hasPath, hasPath, holds_of_locate target, holds_of_locate (same.trans target),
          nodeAt?_put, if_neg different]
    | error fault =>
        have status_eq :
            (workspace.put location (.file contents mode)).status path =
              workspace.status path := by
          rw [status, status, same, target]
        rw [hasPath, hasPath, holds, holds, status_eq]
  -- Nothing is at a path that leads through a missing directory or through a file.
  · rw [hasPath, hasPath, holds_of_refused isFile, holds_of_refused missing,
      if_pos (Or.inr rfl), if_pos (Or.inl rfl)]

/-- A tree with one more file is a tree. -/
theorem IsTree.put_file
    {workspace : Workspace}
    {directory : Location}
    {name : Bytes}
    {mode : Nat}
    (tree : workspace.IsTree)
    (isDirectory : workspace.nodeAt? directory = some (.directory mode))
    (short : name.length ≤ longestName)
    (nothing : workspace.nodeAt? (directory ++ [name]) = none)
    (contents : Bytes)
    (fileMode : Nat) :
    (workspace.put (directory ++ [name]) (.file contents fileMode)).IsTree where
  inDirectory location node found notRoot := by
    have keeps
        {location : Location}
        {mode : Nat}
        (found : workspace.nodeAt? location = some (.directory mode)) :
        ∃ mode,
          (workspace.put (directory ++ [name]) (.file contents fileMode)).nodeAt? location =
            some (.directory mode) := by
      rw [nodeAt?_put, if_neg]
      · exact ⟨mode, found⟩
      · rintro rfl
        rw [found] at nothing
        cases nothing
    rw [nodeAt?_put] at found
    split at found
    · next same =>
        rw [← same, List.dropLast_concat]
        exact keeps isDirectory
    · obtain ⟨mode, above⟩ := tree.inDirectory location node found notRoot
      exact keeps above
  shortNames location node found := by
    rw [nodeAt?_put] at found
    split at found
    · next same =>
        rw [← same]
        intro other member
        rcases List.mem_append.mp member with inDirectory | isName
        · exact tree.shortNames _ _ isDirectory other inDirectory
        · exact List.mem_singleton.mp isName ▸ short
    · exact tree.shortNames location node found
  here := tree.here
  hereStraight := tree.hereStraight

/-! ## Fresh workspaces -/

/-- The workspace with a directory at a location, unless there is something. -/
def withDirectoryAt (workspace : Workspace) (location : Location) : Workspace :=
  match workspace.nodeAt? location with
  | some _ => workspace
  | none => workspace.put location (.directory workspace.directoryMode)

theorem withDirectoryAt_frame
    (workspace : Workspace)
    (location : Location) :
    (workspace.withDirectoryAt location).here = workspace.here ∧
      (workspace.withDirectoryAt location).directoryMode = workspace.directoryMode := by
  rw [withDirectoryAt]
  cases workspace.nodeAt? location with
  | none => exact ⟨rfl, rfl⟩
  | some node => exact ⟨rfl, rfl⟩

theorem nodeAt?_withDirectoryAt
    (workspace : Workspace)
    (location query : Location) :
    (workspace.withDirectoryAt location).nodeAt? query =
      (workspace.nodeAt? query).or
        (if query = location then some (.directory workspace.directoryMode) else none) := by
  rw [withDirectoryAt]
  by_cases same : query = location
  · rw [if_pos same, same]
    cases found : workspace.nodeAt? location with
    | none => exact nodeAt?_put_self workspace location _
    | some node => exact found
  · rw [if_neg same, Option.or_none]
    cases workspace.nodeAt? location with
    | none => exact (nodeAt?_put workspace location query _).trans (if_neg (Ne.symm same))
    | some node => rfl

/-- Directories are made from the root downwards. -/
theorem withDirectories_concat
    (workspace : Workspace)
    (location : Location)
    (name : Bytes) :
    workspace.withDirectories (location ++ [name]) =
      (workspace.withDirectories location).withDirectoryAt (location ++ [name]) := by
  have stepwise
      (location : Location) :
      workspace.withDirectories location =
        (List.range (location.length + 1)).foldl
          (fun extended length => extended.withDirectoryAt (location.take length))
          workspace :=
    rfl
  have whole : (location ++ [name]).length = location.length + 1 :=
    List.length_append
  rw [stepwise, stepwise, whole, List.range_succ, List.foldl_append, List.foldl_cons,
    List.foldl_nil, ← whole, List.take_length]
  congr 1
  refine List.foldl_ext _ _ _ fun extended length member => ?_
  have inside := List.mem_range.mp member
  rw [List.take_append_of_le_length (by omega)]

/-- Directories are made under the same permissions, seen from the same directory. -/
theorem withDirectories_frame
    (workspace : Workspace)
    (location : Location) :
    (workspace.withDirectories location).here = workspace.here ∧
      (workspace.withDirectories location).directoryMode = workspace.directoryMode := by
  induction location using List.reverseRecOn with
  | nil => exact withDirectoryAt_frame workspace []
  | append_singleton location name inductionHypothesis =>
      rw [withDirectories_concat, (withDirectoryAt_frame _ _).1, (withDirectoryAt_frame _ _).2]
      exact inductionHypothesis

/-- Directories stand at a location and everywhere above it, unless there is something else. -/
theorem nodeAt?_withDirectories
    (workspace : Workspace)
    (location query : Location) :
    (workspace.withDirectories location).nodeAt? query =
      (workspace.nodeAt? query).or
        (if query <+: location then some (.directory workspace.directoryMode) else none) := by
  induction location using List.reverseRecOn with
  | nil =>
      simp only [List.prefix_nil]
      exact nodeAt?_withDirectoryAt workspace [] query
  | append_singleton location name inductionHypothesis =>
      rw [withDirectories_concat, nodeAt?_withDirectoryAt, inductionHypothesis,
        (withDirectories_frame workspace location).2, Option.or_assoc]
      congr 1
      by_cases inside : query <+: location
      · simp [inside, List.prefix_concat_iff]
      · simp [inside, List.prefix_concat_iff]

section Fresh

variable (here : Path) (tokens : List Text)

/-- In a fresh workspace there are directories down to the working directory. -/
theorem nodeAt?_fresh (query : Location) :
    (fresh here tokens).nodeAt? query =
      if query <+: names here then some (.directory 0o755) else none := by
  have nothing :
      Workspace.nodeAt? { here := here, nodes := [], tokens := tokens } query = none :=
    rfl
  have mode :
      Workspace.directoryMode { here := here, nodes := [], tokens := tokens } = 0o755 := by
    simp [directoryMode]
  rw [fresh, nodeAt?_withDirectories, nothing, mode, Option.none_or]

theorem here_fresh : (fresh here tokens).here = here :=
  (withDirectories_frame { here := here, nodes := [], tokens := tokens } (names here)).1

/-- A fresh workspace is a tree. -/
theorem isTree_fresh
    (fromRoot : FromRoot here) :
    (fresh here tokens).IsTree where
  inDirectory location node found notRoot := by
    rw [nodeAt?_fresh] at found
    split at found
    · next above =>
        refine ⟨0o755, ?_⟩
        rw [nodeAt?_fresh, if_pos ((List.dropLast_prefix location).trans above)]
    · cases found
  shortNames location node found name member := by
    rw [nodeAt?_fresh] at found
    split at found
    · next above => exact fromRoot.short name (above.subset member)
    · cases found
  here := by
    rw [here_fresh]
    exact fromRoot.accepted
  hereStraight := by
    rw [here_fresh]
    exact fromRoot.straight

/-- In a fresh workspace the working directory is a directory, if its path is not too long. -/
theorem hasDirectory_fresh
    (fromRoot : FromRoot here)
    (short : here.length < longestPath) :
    (fresh here tokens).hasDirectory here = .ok true :=
  Access.hasDirectory_eq_ok_true_iff.mpr
    ⟨0o755, (isTree_fresh here tokens fromRoot).status_eq_ok fromRoot short
      ((nodeAt?_fresh here tokens (names here)).trans (if_pos List.prefix_rfl))⟩

/-- There is no file in a fresh workspace. -/
theorem not_containsFile_fresh (path : Path) : ¬(fresh here tokens).ContainsFile path := by
  rw [ContainsFile, nodeAt?_fresh]
  split
  · decide
  · decide

end Fresh

end Workspace

end Tolerance
