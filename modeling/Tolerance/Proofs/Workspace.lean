import Tolerance.Workspace

namespace Tolerance.Workspace

/-!
# Where a path leads while files change

What stands at each location after a change is known.  A path that leads
somewhere leads to the same location after every change that leaves the
directories in place, because only directories are passed on the way.
-/

private theorem find?_putNode
    (location query : Location)
    (node : Node)
    (nodes : List (Location × Node)) :
    ((putNode location node nodes).find? fun entry => entry.1 = query).map
        Prod.snd =
      if location = query then
        some node
      else
        (nodes.find? fun entry => entry.1 = query).map Prod.snd := by
  induction nodes with
  | nil =>
      by_cases same : location = query <;> simp [putNode, same]
  | cons entry nodes inductionHypothesis =>
      by_cases here : entry.1 = location
      · rw [putNode, if_pos here]
        by_cases same : location = query <;> simp [same, here]
      · rw [putNode, if_neg here]
        by_cases found : entry.1 = query
        · have notHere : location ≠ query := fun same =>
            here (found.trans same.symm)
          simp [found, notHere]
        · simpa [found] using inductionHypothesis

/-- What stands somewhere after a node was put at a location. -/
theorem nodeAt?_put
    (workspace : Workspace)
    (location query : Location)
    (node : Node) :
    (workspace.put location node).nodeAt? query =
      if location = query then some node else workspace.nodeAt? query :=
  find?_putNode location query node workspace.nodes

@[simp] theorem nodeAt?_put_self
    (workspace : Workspace)
    (location : Location)
    (node : Node) :
    (workspace.put location node).nodeAt? location = some node := by
  rw [nodeAt?_put, if_pos rfl]

/-- What stands somewhere after a location was cleared. -/
theorem nodeAt?_erase
    (workspace : Workspace)
    (location query : Location) :
    (workspace.erase location).nodeAt? query =
      if location = query then none else workspace.nodeAt? query := by
  unfold nodeAt? erase
  rw [List.find?_filter]
  split
  · next same =>
      subst query
      simp
  · next different =>
      congr 2
      funext entry
      by_cases found : entry.1 = query
      · simp [found, Ne.symm different]
      · simp [found]

/-- No directory stands at a location. -/
def NoDirectoryAt (workspace : Workspace) (location : Location) : Prop :=
  ∀ mode, workspace.nodeAt? location ≠ some (.directory mode)

theorem noDirectoryAt_of_eq_none
    {workspace : Workspace}
    {location : Location}
    (nothing : workspace.nodeAt? location = none) :
    workspace.NoDirectoryAt location := by
  intro mode found
  rw [nothing] at found
  cases found

theorem noDirectoryAt_of_eq_file
    {workspace : Workspace}
    {location : Location}
    {contents : Bytes}
    {mode : Nat}
    (isFile : workspace.nodeAt? location = some (.file contents mode)) :
    workspace.NoDirectoryAt location := by
  intro other found
  rw [isFile] at found
  cases found

theorem NoDirectoryAt.erase
    {workspace : Workspace}
    {location : Location}
    (noDirectory : workspace.NoDirectoryAt location)
    (cleared : Location) :
    (workspace.erase cleared).NoDirectoryAt location := by
  intro mode found
  rw [nodeAt?_erase] at found
  split at found
  · cases found
  · exact noDirectory mode found

/--
A change that leaves the directories in place, and where and how the run
works.
-/
structure KeepsDirectories (before after : Workspace) : Prop where
  here : after.here = before.here
  tokens : after.tokens = before.tokens
  directories :
    ∀ location mode,
      before.nodeAt? location = some (.directory mode) →
      ∃ mode, after.nodeAt? location = some (.directory mode)

namespace KeepsDirectories

theorem refl (workspace : Workspace) :
    KeepsDirectories workspace workspace :=
  ⟨rfl, rfl, fun _ mode found => ⟨mode, found⟩⟩

theorem trans
    {first second third : Workspace}
    (earlier : KeepsDirectories first second)
    (later : KeepsDirectories second third) :
    KeepsDirectories first third where
  here := later.here.trans earlier.here
  tokens := later.tokens.trans earlier.tokens
  directories location mode found := by
    obtain ⟨between, foundBetween⟩ := earlier.directories location mode found
    exact later.directories location between foundBetween

/-- What is put where no directory stands takes none away. -/
theorem put
    {workspace : Workspace}
    {location : Location}
    (noDirectory : workspace.NoDirectoryAt location)
    (node : Node) :
    KeepsDirectories workspace (workspace.put location node) where
  here := rfl
  tokens := rfl
  directories query mode found := by
    refine ⟨mode, ?_⟩
    rw [nodeAt?_put, if_neg]
    · exact found
    · intro same
      exact noDirectory mode (same ▸ found)

/-- Clearing where no directory stands takes none away. -/
theorem erase
    {workspace : Workspace}
    {location : Location}
    (noDirectory : workspace.NoDirectoryAt location) :
    KeepsDirectories workspace (workspace.erase location) where
  here := rfl
  tokens := rfl
  directories query mode found := by
    refine ⟨mode, ?_⟩
    rw [nodeAt?_erase, if_neg]
    · exact found
    · intro same
      exact noDirectory mode (same ▸ found)

/-- Names lead to the same location as long as the directories stay. -/
theorem walk
    {before after : Workspace}
    (keeps : KeepsDirectories before after)
    {start target : Location}
    {names : List Bytes}
    (walked : before.walk start names = .ok target) :
    after.walk start names = .ok target := by
  induction names generalizing start with
  | nil =>
      exact walked
  | cons name names inductionHypothesis =>
      rw [Workspace.walk] at walked ⊢
      split at walked
      · cases walked
      · cases walked
      · next mode found =>
          obtain ⟨_, foundAfter⟩ := keeps.directories start mode found
          rw [foundAfter]
          dsimp only
          split at walked
          · next up =>
              rw [if_pos up]
              exact inductionHypothesis walked
          · next notUp =>
              rw [if_neg notUp]
              split at walked
              · cases walked
              · next short =>
                  rw [if_neg short]
                  exact inductionHypothesis walked

/-- A path leads to the same location as long as the directories stay. -/
theorem locate
    {before after : Workspace}
    (keeps : KeepsDirectories before after)
    {path : Path}
    {location : Location}
    (located : before.locate path = .ok location) :
    after.locate path = .ok location := by
  unfold Workspace.locate at located ⊢
  rw [keeps.here]
  split at located
  · cases located
  next bytes encoded =>
  split at located
  · cases located
  next short =>
  rw [if_neg short]
  dsimp only at located ⊢
  split at located
  · cases located
  next target walked =>
  rw [keeps.walk walked]
  exact located

end KeepsDirectories

/-- A path that leads to a node has the status of this node. -/
theorem status_eq_ok
    {workspace : Workspace}
    {path : Path}
    {location : Location}
    {node : Node}
    (located : workspace.locate path = .ok location)
    (found : workspace.nodeAt? location = some node) :
    workspace.status path = .ok node := by
  rw [status, located]
  dsimp only
  rw [found]

/-- A path with the status of a node leads to it. -/
theorem exists_locate_of_status
    {workspace : Workspace}
    {path : Path}
    {node : Node}
    (statusIs : workspace.status path = .ok node) :
    ∃ location,
      workspace.locate path = .ok location ∧
        workspace.nodeAt? location = some node := by
  unfold status at statusIs
  split at statusIs
  · cases statusIs
  next location located =>
  split at statusIs
  · cases statusIs
  next other found =>
  cases statusIs
  exact ⟨location, located, found⟩

/-- Names end at a location of the last name, unless it leads up. -/
theorem exists_eq_of_walk_append
    {workspace : Workspace}
    {start target : Location}
    {front : List Bytes}
    {last : Bytes}
    (notUp : last ≠ [0x2e, 0x2e])
    (walked : workspace.walk start (front ++ [last]) = .ok target) :
    ∃ folder, target = folder ++ [last] := by
  induction front generalizing start with
  | nil =>
      rw [List.nil_append, walk] at walked
      split at walked
      · cases walked
      · cases walked
      rw [if_neg notUp] at walked
      split at walked
      · cases walked
      · rw [walk] at walked
        cases walked
        exact ⟨start, rfl⟩
  | cons name front inductionHypothesis =>
      rw [List.cons_append, walk] at walked
      split at walked
      · cases walked
      · cases walked
      split at walked
      · exact inductionHypothesis walked
      split at walked
      · cases walked
      · exact inductionHypothesis walked

/-- A path ends at a location of its last part, unless this part leads up. -/
theorem exists_eq_of_locate
    {workspace : Workspace}
    {path : Path}
    {location : Location}
    {front : List Text}
    {last : Text}
    (shape : path.parts = front ++ [last])
    (notUp : last.flatMap Utf8.encodePathPoint ≠ [0x2e, 0x2e])
    (located : workspace.locate path = .ok location) :
    ∃ folder, location = folder ++ [last.flatMap Utf8.encodePathPoint] := by
  unfold locate at located
  split at located
  · cases located
  split at located
  · cases located
  dsimp only at located
  split at located
  · cases located
  next target walked =>
  cases located
  have namesShape :
      names path = names { path with parts := front } ++
        [last.flatMap Utf8.encodePathPoint] := by
    simp [names, shape]
  rw [namesShape] at walked
  exact exists_eq_of_walk_append notUp walked

end Tolerance.Workspace
