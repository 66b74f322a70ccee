import Mathlib.Control.Monad.Basic
import Tolerance.Proofs.Settings
import Tolerance.Proofs.Tree
import Tolerance.Settings.Discovery

namespace Tolerance

/-!
# The file that decides

A candidate is passed over if there is no file, or if it is a project file that
sets nothing.  The first one that is not passed over decides: what comes after it
is not looked at, and what is wrong with it is reported.  Where the file system
refuses to say whether a candidate is there, no later candidate is tried either.
-/

open Outcome

namespace Workspace

variable {workspace other : Workspace} {path : Path}

/-- A look-up is refused, finds no file, or finds one that is read. -/
theorem file_cases (workspace : Workspace) (path : Path) :
    (∃ fault, workspace.hasFile path = .error fault) ∨
      workspace.hasFile path = .ok false ∨
        ∃ bytes,
          workspace.hasFile path = .ok true ∧ workspace.readFile path = .ok bytes := by
  unfold hasFile holds readFile
  cases workspace.status path with
  | error fault =>
      cases fault with
      | path fault => exact Or.inr (Or.inl rfl)
      | system fault =>
          dsimp only
          split
          · exact Or.inr (Or.inl rfl)
          · exact Or.inl ⟨fault, rfl⟩
  | ok node =>
      cases node with
      | directory mode => exact Or.inr (Or.inl rfl)
      | file contents mode => exact Or.inr (Or.inr ⟨contents, rfl, rfl⟩)

/-- A file that is read is there. -/
theorem hasFile_of_readFile
    {bytes : Bytes}
    (read : workspace.readFile path = .ok bytes) :
    workspace.hasFile path = .ok true := by
  unfold readFile at read
  unfold hasFile holds
  cases status : workspace.status path with
  | error fault =>
      rw [status] at read
      cases read
  | ok node =>
      rw [status] at read
      cases node with
      | directory mode => cases read
      | file contents mode => rfl

/-- Two workspaces have the same file at a path, or neither has one there. -/
structure SameFile (workspace other : Workspace) (path : Path) : Prop where
  hasFile : other.hasFile path = workspace.hasFile path
  readFile :
    ∀ bytes, workspace.readFile path = .ok bytes → other.readFile path = .ok bytes

end Workspace

namespace Settings

variable {workspace other : Workspace}
  {path : Path}
  {document table : Toml.Table}
  {outcome : Except LoadError Settings}

/-! ## The table of settings -/

/-- The table of settings in a project file, which is empty if there is none. -/
inductive ProjectTable (document : Toml.Table) : Toml.Table → Prop where
  | first
      (tools table : Toml.Table)
      (tool : Toml.field? "tool" document = some (.table tools))
      (found : Toml.field? "lint_ratchet" tools = some (.table table)) :
      ProjectTable document table
  | second
      (tools table : Toml.Table)
      (tool : Toml.field? "tool" document = some (.table tools))
      (noFirst : ∀ table, Toml.field? "lint_ratchet" tools ≠ some (.table table))
      (found : Toml.field? "lint-ratchet" tools = some (.table table)) :
      ProjectTable document table
  | missing
      (neither :
        ∀ tools,
          Toml.field? "tool" document = some (.table tools) →
            ∀ key ∈ toolKeys, ∀ table, Toml.field? key tools ≠ some (.table table)) :
      ProjectTable document []

/-- The table of settings in a settings file is the whole document. -/
def SettingsTable (path : Path) (document table : Toml.Table) : Prop :=
  if isProjectFile path then ProjectTable document table else table = document

/-- The table of a key, if it has one. -/
private def tableAt? (tools : Toml.Table) (key : Text) : Option Toml.Table :=
  match Toml.field? key tools with
  | some (.table found) => some found
  | _ => none

private theorem tableAt?_eq_some_iff
    {tools : Toml.Table}
    {key : Text} :
    tableAt? tools key = some table ↔ Toml.field? key tools = some (.table table) := by
  unfold tableAt?
  split
  · next found isTable =>
      rw [isTable, Option.some.injEq, Option.some.injEq, Toml.table.injEq]
  · next noTable =>
      exact iff_of_false nofun (noTable table)

private theorem tableAt?_eq_none_iff
    {tools : Toml.Table}
    {key : Text} :
    tableAt? tools key = none ↔
      ∀ table, Toml.field? key tools ≠ some (.table table) := by
  rw [Option.eq_none_iff_forall_ne_some]
  exact forall_congr' fun table => not_congr tableAt?_eq_some_iff

/-- The first of the tool keys that has a table gives it. -/
private theorem projectTable_of_tools
    {tools : Toml.Table}
    (tool : Toml.field? "tool" document = some (.table tools)) :
    projectTable document =
      ((tableAt? tools "lint_ratchet").or (tableAt? tools "lint-ratchet")).getD [] := by
  have searched :
      projectTable document = (toolKeys.findSome? (tableAt? tools)).getD [] := by
    unfold projectTable
    rw [tool]
    rfl
  rw [searched, toolKeys]
  cases first : tableAt? tools "lint_ratchet" with
  | some found => simp [first]
  | none =>
      cases second : tableAt? tools "lint-ratchet" with
      | some found => simp [first, second]
      | none => simp [first, second]

private theorem projectTable_of_no_tools
    (noTool : ∀ tools, Toml.field? "tool" document ≠ some (.table tools)) :
    projectTable document = [] := by
  unfold projectTable
  split
  · next tools tool => exact (noTool tools tool).elim
  · rfl

theorem projectTable_of_isTable
    (isTable : ProjectTable document table) :
    projectTable document = table := by
  cases isTable with
  | first tools _ tool found =>
      rw [projectTable_of_tools tool, tableAt?_eq_some_iff.mpr found]
      rfl
  | second tools _ tool noFirst found =>
      rw [projectTable_of_tools tool, tableAt?_eq_none_iff.mpr noFirst,
        tableAt?_eq_some_iff.mpr found]
      rfl
  | missing neither =>
      by_cases someTools : ∃ tools, Toml.field? "tool" document = some (.table tools)
      · obtain ⟨tools, tool⟩ := someTools
        have noTable := neither tools tool
        rw [projectTable_of_tools tool,
          tableAt?_eq_none_iff.mpr (noTable "lint_ratchet" List.mem_cons_self),
          tableAt?_eq_none_iff.mpr
            (noTable "lint-ratchet" (List.mem_cons_of_mem _ List.mem_cons_self))]
        rfl
      · exact projectTable_of_no_tools fun tools tool => someTools ⟨tools, tool⟩

theorem isTable_projectTable (document : Toml.Table) :
    ProjectTable document (projectTable document) := by
  by_cases someTools : ∃ tools, Toml.field? "tool" document = some (.table tools)
  · obtain ⟨tools, tool⟩ := someTools
    rw [projectTable_of_tools tool]
    cases first : tableAt? tools "lint_ratchet" with
    | some found =>
        exact .first tools found tool (tableAt?_eq_some_iff.mp first)
    | none =>
        have noFirst := tableAt?_eq_none_iff.mp first
        cases second : tableAt? tools "lint-ratchet" with
        | some found =>
            exact .second tools found tool noFirst (tableAt?_eq_some_iff.mp second)
        | none =>
            have noSecond := tableAt?_eq_none_iff.mp second
            refine .missing fun others same => ?_
            cases Option.some.inj (tool.symm.trans same)
            exact
              List.forall_mem_cons.mpr ⟨noFirst, List.forall_mem_singleton.mpr noSecond⟩
  · rw [projectTable_of_no_tools fun tools tool => someTools ⟨tools, tool⟩]
    exact .missing fun tools tool => (someTools ⟨tools, tool⟩).elim

/-- Every document has one table of settings. -/
theorem settingsTable_iff :
    SettingsTable path document table ↔
      (if isProjectFile path then projectTable document else document) = table := by
  unfold SettingsTable
  split
  · exact ⟨projectTable_of_isTable, fun same => same ▸ isTable_projectTable document⟩
  · exact eq_comm

/-! ## What becomes of a candidate -/

/-- A failure is due to what a file says. -/
def LoadError.IsOfContents : LoadError → Prop
  | .malformed _ _ | .numeral _ | .undecodable _ | .invalid _ => True
  | .missing _ | .tooDeep | .refused _ | .unusablePath _ => False

/-- A document is not read because of what it says, or because it is nested too deep. -/
theorem isOfContents_of_documentOfBytes
    {bytes : Bytes}
    {error : LoadError}
    (notDecoded : documentOfBytes path bytes = .error error) :
    error.IsOfContents ∨ error = .tooDeep := by
  unfold documentOfBytes at notDecoded
  split at notDecoded
  · cases notDecoded
    exact Or.inl trivial
  · split at notDecoded
    · cases notDecoded
      exact Or.inl trivial
    · cases notDecoded
      exact Or.inr rfl
    · cases notDecoded
      exact Or.inl trivial
    · cases notDecoded

/-- The file at a path holds a table of settings. -/
inductive HoldsTable
    (workspace : Workspace)
    (path : Path)
    (table : Toml.Table) :
    Prop where
  | read
      (bytes : Bytes)
      (document : Toml.Table)
      (read : workspace.readFile path = .ok bytes)
      (decoded : documentOfBytes path bytes = .ok document)
      (isTable : SettingsTable path document table) :
      HoldsTable workspace path table

/-- A candidate is passed over without a file, or as a project file that sets nothing. -/
inductive PassedOver (workspace : Workspace) (path : Path) : Prop where
  | noFile
      (absent : workspace.hasFile path = .ok false) :
      PassedOver workspace path
  | setsNothing
      (isProject : isProjectFile path = true)
      (empty : HoldsTable workspace path []) :
      PassedOver workspace path

/-- What comes of the file at a path if it decides. -/
inductive Decides
    (workspace : Workspace)
    (path : Path) :
    Except LoadError Settings → Prop where
  | settings
      (table : Toml.Table)
      (settings : Settings)
      (holds : HoldsTable workspace path table)
      (describes : Describes path table settings) :
      Decides workspace path (.ok settings)
  | notValid
      (table : Toml.Table)
      (fault : Fault)
      (holds : HoldsTable workspace path table)
      (invalid : ¬Valid table)
      (blames : Blames table fault) :
      Decides workspace path (.error (.invalid fault))
  | notDecoded
      (bytes : Bytes)
      (error : LoadError)
      (read : workspace.readFile path = .ok bytes)
      (refused : documentOfBytes path bytes = .error error)
      (ofContents : error.IsOfContents) :
      Decides workspace path (.error error)
  -- The reader of documents has a limit of its own, whatever else a document says.
  | tooDeep
      (bytes : Bytes)
      (read : workspace.readFile path = .ok bytes)
      (refused : documentOfBytes path bytes = .error .tooDeep) :
      Decides workspace path (.error .tooDeep)
  | noAnswer
      (fault : SystemFault)
      (refused : workspace.hasFile path = .error fault) :
      Decides workspace path (.error (.refused fault))

theorem readTable_of_readFile
    {bytes : Bytes}
    (read : workspace.readFile path = .ok bytes) :
    readTable workspace path =
      (documentOfBytes path bytes).map fun document =>
        if isProjectFile path then projectTable document else document := by
  unfold readTable
  rw [read]

theorem holdsTable_iff :
    HoldsTable workspace path table ↔ readTable workspace path = .ok table := by
  constructor
  · rintro ⟨bytes, document, read, decoded, isTable⟩
    rw [readTable_of_readFile read, decoded]
    exact congrArg Except.ok (settingsTable_iff.mp isTable)
  · intro found
    cases contents : workspace.readFile path with
    | error fault =>
        unfold readTable at found
        rw [contents] at found
        cases fault <;> cases found
    | ok bytes =>
        rw [readTable_of_readFile contents] at found
        cases decoded : documentOfBytes path bytes with
        | error error =>
            rw [decoded] at found
            cases found
        | ok document =>
            rw [decoded] at found
            exact
              .read bytes document contents decoded
                (settingsTable_iff.mpr (Except.ok.inj found))

/-! ## One candidate -/

variable {others later : List Path}

theorem loadFirst_of_noFile
    (absent : workspace.hasFile path = .ok false) :
    loadFirst workspace (path :: others) = loadFirst workspace others := by
  rw [loadFirst, absent]

/-- The table that a file holds is read, unless it is a project file that sets nothing. -/
theorem loadFirst_of_file
    (found : workspace.hasFile path = .ok true) :
    loadFirst workspace (path :: others) =
      (readTable workspace path).bind fun table =>
        if table = [] ∧ isProjectFile path = true then
          loadFirst workspace others
        else
          settingsIn path table := by
  rw [loadFirst, found]
  dsimp only
  cases readTable workspace path with
  | error error => rfl
  | ok table =>
      cases table <;> cases isProjectFile path <;> rfl

/-- The candidates behind one that is passed over are tried. -/
theorem loadFirst_of_passedOver
    (passed : PassedOver workspace path) :
    loadFirst workspace (path :: others) = loadFirst workspace others := by
  cases passed with
  | noFile absent =>
      exact loadFirst_of_noFile absent
  | setsNothing isProject empty =>
      have tableIs := holdsTable_iff.mp empty
      obtain ⟨bytes, document, read, decoded, isTable⟩ := empty
      rw [loadFirst_of_file (Workspace.hasFile_of_readFile read), tableIs]
      exact if_pos ⟨rfl, isProject⟩

/-- What is described is loaded, and what is wrong is reported. -/
private theorem decides_settingsIn
    (holds : HoldsTable workspace path table) :
    Decides workspace path (settingsIn path table) := by
  unfold settingsIn
  cases outcome : ofTable path table with
  | ok settings =>
      exact .settings table settings holds (ofTable_eq_ok_iff.mp outcome)
  | error fault =>
      exact
        .notValid table fault holds (exists_ofTable_eq_error_iff.mp ⟨fault, outcome⟩)
          (blames_of_ofTable outcome)

/-- A candidate that is not passed over decides. -/
theorem decides_loadFirst
    (notPassed : ¬PassedOver workspace path) :
    Decides workspace path (loadFirst workspace (path :: others)) := by
  rcases workspace.file_cases path with ⟨fault, refused⟩ | absent | ⟨bytes, found, read⟩
  · rw [loadFirst, refused]
    exact .noAnswer fault refused
  · exact (notPassed (.noFile absent)).elim
  · rw [loadFirst_of_file found]
    cases tableIs : readTable workspace path with
    | ok table =>
        have holds := holdsTable_iff.mpr tableIs
        have counts : ¬(table = [] ∧ isProjectFile path = true) := by
          rintro ⟨rfl, isProject⟩
          exact notPassed (.setsNothing isProject holds)
        dsimp only [Except.bind]
        rw [if_neg counts]
        exact decides_settingsIn holds
    | error error =>
        have refused : documentOfBytes path bytes = .error error := by
          rw [readTable_of_readFile read] at tableIs
          cases decoded : documentOfBytes path bytes with
          | ok document =>
              rw [decoded] at tableIs
              cases tableIs
          | error other =>
              rw [decoded] at tableIs
              cases tableIs
              rfl
        rcases isOfContents_of_documentOfBytes refused with ofContents | rfl
        · exact .notDecoded bytes error read refused ofContents
        · exact .tooDeep bytes read refused

/-- Where two workspaces have the same candidate they differ at most in the rest. -/
theorem loadFirst_congr_of_sameFile
    (same : Workspace.SameFile workspace other path)
    (rest :
      PassedOver workspace path →
        loadFirst other others = loadFirst workspace later) :
    loadFirst other (path :: others) = loadFirst workspace (path :: later) := by
  rcases workspace.file_cases path with ⟨fault, refused⟩ | absent | ⟨bytes, found, read⟩
  · rw [loadFirst, loadFirst, same.hasFile, refused]
  · rw [loadFirst_of_noFile absent, loadFirst_of_noFile (same.hasFile.trans absent)]
    exact rest (.noFile absent)
  · have sameTable : readTable other path = readTable workspace path := by
      rw [readTable_of_readFile read, readTable_of_readFile (same.readFile bytes read)]
    rw [loadFirst_of_file found, loadFirst_of_file (same.hasFile.trans found), sameTable]
    cases tableIs : readTable workspace path with
    | error error => rfl
    | ok table =>
        dsimp only [Except.bind]
        split
        · next setsNothing =>
            obtain ⟨rfl, isProject⟩ := setsNothing
            exact rest (.setsNothing isProject (holdsTable_iff.mpr tableIs))
        · rfl

/-! ## All candidates -/

/-- Every candidate is passed over, or the first one that is not decides. -/
theorem loadFirst_cases (workspace : Workspace) (paths : List Path) :
    ((∀ path ∈ paths, PassedOver workspace path) ∧
        loadFirst workspace paths = .ok {}) ∨
      ∃ earlier path later,
        paths = earlier ++ path :: later ∧
          (∀ passed ∈ earlier, PassedOver workspace passed) ∧
            ¬PassedOver workspace path ∧
              Decides workspace path (loadFirst workspace paths) := by
  induction paths with
  | nil =>
      exact Or.inl ⟨nofun, rfl⟩
  | cons path others inductionHypothesis =>
      by_cases passed : PassedOver workspace path
      · rw [loadFirst_of_passedOver passed]
        rcases inductionHypothesis with
          ⟨allPassed, isDefault⟩ | ⟨earlier, deciding, later, rfl, restPassed, decides⟩
        · exact Or.inl ⟨List.forall_mem_cons.mpr ⟨passed, allPassed⟩, isDefault⟩
        · exact
            Or.inr
              ⟨path :: earlier, deciding, later, rfl,
                List.forall_mem_cons.mpr ⟨passed, restPassed⟩, decides⟩
      · exact Or.inr ⟨[], path, others, rfl, nofun, passed, decides_loadFirst passed⟩

/-- The candidates behind several that are passed over are tried. -/
theorem loadFirst_append_of_passedOver
    {earlier : List Path}
    (passed : ∀ candidate ∈ earlier, PassedOver workspace candidate) :
    loadFirst workspace (earlier ++ others) = loadFirst workspace others := by
  induction earlier with
  | nil => rfl
  | cons first rest inductionHypothesis =>
      obtain ⟨firstPassed, restPassed⟩ := List.forall_mem_cons.mp passed
      exact (loadFirst_of_passedOver firstPassed).trans (inductionHypothesis restPassed)

/-- Loading is refused where a look-up is, and all candidates before it are passed over. -/
theorem loadFirst_eq_refused_iff
    {paths : List Path}
    {fault : SystemFault} :
    loadFirst workspace paths = .error (.refused fault) ↔
      ∃ earlier path later,
        paths = earlier ++ path :: later ∧
          (∀ passed ∈ earlier, PassedOver workspace passed) ∧
            workspace.hasFile path = .error fault := by
  constructor
  · intro isRefused
    rcases loadFirst_cases workspace paths with
      ⟨_, isDefault⟩ | ⟨earlier, path, later, split, passed, _, decides⟩
    · rw [isDefault] at isRefused
      cases isRefused
    · rw [isRefused] at decides
      cases decides with
      | notDecoded _ _ _ _ ofContents => exact ofContents.elim
      | noAnswer _ noAnswer => exact ⟨earlier, path, later, split, passed, noAnswer⟩
  · rintro ⟨earlier, path, later, rfl, passed, noAnswer⟩
    rw [loadFirst_append_of_passedOver passed, loadFirst, noAnswer]

/-- What comes after a candidate that decides does not matter. -/
theorem loadFirst_eq_of_sameFiles
    {earlier : List Path}
    (same :
      ∀ candidate ∈ earlier ++ [path], Workspace.SameFile workspace other candidate)
    (notPassed : ¬PassedOver workspace path) :
    loadFirst other (earlier ++ path :: others) =
      loadFirst workspace (earlier ++ path :: later) := by
  induction earlier with
  | nil =>
      exact
        loadFirst_congr_of_sameFile (same path List.mem_cons_self) fun passed =>
          (notPassed passed).elim
  | cons first rest inductionHypothesis =>
      obtain ⟨firstSame, restSame⟩ := List.forall_mem_cons.mp same
      exact
        loadFirst_congr_of_sameFile firstSame fun _ => inductionHypothesis restSame

/-- The candidates are tried by these names, of which the last one is the project file's. -/
theorem map_name_candidates (directory : Path) :
    (candidates directory).map Path.name = filenames ++ [projectFilename] := by
  unfold candidates
  rw [List.map_map]
  refine (List.map_congr_left fun name _ => ?_).trans (List.map_id' _)
  simp [Path.child, Path.name]

/-- The names can be looked up, and none is too long. -/
private theorem nameable_filenames :
    ∀ name ∈ filenames ++ [projectFilename],
      name.Nameable ∧
        name ≠ Path.above ∧
          (name.flatMap Utf8.encodePathPoint).length ≤ Workspace.longestName := by
  decide

/-- Whether a candidate is there is said in a tree, unless its path is too long. -/
theorem hasFile_of_mem_candidates
    {directory resolved candidate : Path}
    (tree : workspace.IsTree)
    (isDirectory : workspace.hasDirectory directory = .ok true)
    (found : directory.resolve workspace.here = .ok resolved)
    (member : candidate ∈ candidates resolved) :
    workspace.hasFile candidate =
      if Workspace.longestPath ≤ candidate.length then
        .error { refusal := .nameTooLong, subject := candidate.toText }
      else
        .ok (decide (workspace.ContainsFile candidate)) := by
  obtain ⟨other, resolves, _, fromRoot⟩ := tree.exists_resolved isDirectory
  obtain rfl : other = resolved := Except.ok.inj (resolves.symm.trans found)
  obtain ⟨name, isName, rfl⟩ := List.mem_map.mp member
  obtain ⟨nameable, notAbove, short⟩ := nameable_filenames name isName
  exact
    tree.hasFile_eq
      (fromRoot.child ⟨rfl, List.prefix_rfl⟩ nameable notAbove short)

theorem load_none_eq
    {directory resolved : Path}
    (found : directory.resolve workspace.here = .ok resolved) :
    load workspace directory none = loadFirst workspace (candidates resolved) := by
  rw [load, found]

/-- Settings that a table describes are in range, and so are the defaults. -/
structure InRange (settings : Settings) : Prop where
  showCode : 0 ≤ settings.showCode
  format : settings.format = .human ∨ settings.format = .json
  command : settings.command ≠ some []

theorem inRange_of_describes
    {settings : Settings}
    (describes : Describes path table settings) :
    InRange settings := by
  obtain ⟨linter, _, showCode, _, command, _, _, _, _⟩ := describes
  refine ⟨?_, ?_, ?_⟩
  · unfold Reads at showCode
    split at showCode
    · rw [showCode]
      decide
    · exact showCode.2
  · cases settings.format with
    | human => exact Or.inl rfl
    | json => exact Or.inr rfl
  · unfold Reads at command
    split at command
    · rw [command]
      nofun
    · obtain ⟨words, _, notEmpty, isSome⟩ := command
      rw [isSome]
      exact fun same => notEmpty (Option.some.inj same)

/--
Without a given file the first candidate that is not passed over decides: its
settings are loaded, each of them as its key says or with its default, or what
is wrong with the file is reported.  If every candidate is passed over the
settings are the defaults.  Files that come after the one that decides can be
changed, added and removed, and nothing changes.  Loading is refused by the file
system where the look-up of a candidate is that the search gets to; in a
directory of a tree only that of a path that is too long is refused.
-/
theorem first_candidate_that_counts_decides
    {directory resolved : Path}
    (found : directory.resolve workspace.here = .ok resolved) :
    (candidates resolved).map Path.name = filenames ++ [projectFilename] ∧
      ((∀ path ∈ candidates resolved, PassedOver workspace path) ∧
          load workspace directory none = .ok {} ∨
        ∃ earlier path later,
          candidates resolved = earlier ++ path :: later ∧
            (∀ passed ∈ earlier, PassedOver workspace passed) ∧
              ¬PassedOver workspace path ∧
                Decides workspace path (load workspace directory none)) ∧
      (∀ other earlier path later,
        candidates resolved = earlier ++ path :: later →
          ¬PassedOver workspace path →
            other.here = workspace.here →
              (∀ candidate ∈ earlier ++ [path],
                Workspace.SameFile workspace other candidate) →
                load other directory none = load workspace directory none) ∧
      (∀ fault,
        load workspace directory none = .error (.refused fault) ↔
          ∃ earlier path later,
            candidates resolved = earlier ++ path :: later ∧
              (∀ passed ∈ earlier, PassedOver workspace passed) ∧
                workspace.hasFile path = .error fault) ∧
      (workspace.IsTree →
        workspace.hasDirectory directory = .ok true →
          ∀ candidate ∈ candidates resolved,
            workspace.hasFile candidate =
              if Workspace.longestPath ≤ candidate.length then
                .error { refusal := .nameTooLong, subject := candidate.toText }
              else
                .ok (decide (workspace.ContainsFile candidate))) ∧
      ∀ settings,
        load workspace directory none = .ok settings → InRange settings := by
  have cases := loadFirst_cases workspace (candidates resolved)
  rw [load_none_eq found]
  refine
    ⟨map_name_candidates resolved, cases, ?_, fun _ => loadFirst_eq_refused_iff,
      fun tree isDirectory _ => hasFile_of_mem_candidates tree isDirectory found, ?_⟩
  · intro other earlier path later split notPassed sameHere same
    rw [load_none_eq (sameHere ▸ found), split]
    exact loadFirst_eq_of_sameFiles same notPassed
  · intro settings loaded
    rw [loaded] at cases
    rcases cases with ⟨_, isDefault⟩ | ⟨_, _, _, _, _, _, decides⟩
    · cases isDefault
      exact ⟨by decide, Or.inl rfl, nofun⟩
    · cases decides with
      | settings table _ _ describes => exact inRange_of_describes describes

/-- Settings are loaded from the second candidate, and a broken project file is not read. -/
theorem broken_project_file_is_not_read :
    let contents : Text := "show_code = 1"
    let workspace :=
      (Workspace.fresh "/w" ["t"]).withFile "lint-ratchet.toml"
        (contents.flatMap Utf8.encodePoint)
    let other := workspace.withFile "pyproject.toml" [0xff]
    workspace.IsTree ∧
      workspace.hasDirectory "." = .ok true ∧
        Path.resolve "." workspace.here = .ok "/w" ∧
          load workspace "." none =
              .ok { showCode := 1, source := some "/w/lint-ratchet.toml" } ∧
            ¬PassedOver workspace "/w/lint-ratchet.toml" ∧
              load other "." none = load workspace "." none := by
  intro contents workspace other
  have fromRoot : Workspace.FromRoot "/w" :=
    ⟨by decide, by decide +kernel, by decide +kernel, by decide +kernel⟩
  have tree : workspace.IsTree := by
    have isFolder :
        (Workspace.fresh "/w" ["t"]).nodeAt? (Workspace.names "/w") =
          some (.directory 0o755) := by
      decide +kernel
    have isPut :
        workspace =
          (Workspace.fresh "/w" ["t"]).put (Workspace.names "/w/lint-ratchet.toml")
            (.file (contents.flatMap Utf8.encodePoint) 0o644) := by
      decide +kernel
    rw [isPut]
    exact
      (Workspace.isTree_fresh "/w" ["t"] fromRoot).put_file isFolder
        (by decide +kernel) (by decide +kernel) _ 0o644
  have isDirectory : workspace.hasDirectory "." = .ok true := by decide +kernel
  have found : Path.resolve "." workspace.here = .ok "/w" := by decide +kernel
  have loaded :
      load workspace "." none =
        .ok { showCode := 1, source := some "/w/lint-ratchet.toml" } := by
    decide +kernel
  have present : workspace.hasFile "/w/lint-ratchet.toml" = .ok true := by
    decide +kernel
  have notProject : isProjectFile "/w/lint-ratchet.toml" = false := by
    decide +kernel
  have notPassed : ¬PassedOver workspace "/w/lint-ratchet.toml" := by
    intro passed
    cases passed with
    | noFile absent =>
        rw [present] at absent
        cases absent
    | setsNothing isProject _ =>
        rw [notProject] at isProject
        cases isProject
  obtain ⟨-, -, unread, -, answered, -⟩ := first_candidate_that_counts_decides found
  have sameAbsent : Workspace.SameFile workspace other "/w/.lint-ratchet.toml" := by
    refine ⟨by decide +kernel, fun bytes read => ?_⟩
    have absent : workspace.hasFile "/w/.lint-ratchet.toml" = .ok false :=
      (answered tree isDirectory _ (by decide +kernel)).trans (by decide +kernel)
    rw [Workspace.hasFile_of_readFile read] at absent
    cases absent
  have sameFound : Workspace.SameFile workspace other "/w/lint-ratchet.toml" := by
    have same :
        other.readFile "/w/lint-ratchet.toml" =
          workspace.readFile "/w/lint-ratchet.toml" := by
      decide +kernel
    exact ⟨by decide +kernel, fun bytes read => same.trans read⟩
  refine
    ⟨tree, isDirectory, found, loaded, notPassed,
      unread other ["/w/.lint-ratchet.toml"] "/w/lint-ratchet.toml"
        ["/w/pyproject.toml"] (by decide +kernel) notPassed (by decide +kernel) ?_⟩
  intro candidate member
  rcases List.mem_cons.mp member with rfl | isSecond
  · exact sameAbsent
  · rw [List.mem_singleton.mp isSecond]
    exact sameFound

/--
In a directory that is not too deep itself no defaults are loaded, although there
is no candidate and no other file.
-/
theorem deep_directory_has_no_defaults :
    let deep : Path := {
      anchor := .root
      parts := List.replicate 15 (List.replicate 254 0x64) ++ [List.replicate 255 0x64]
    }
    let workspace := Workspace.fresh deep []
    workspace.IsTree ∧
      workspace.hasDirectory deep = .ok true ∧
        (∀ path, ¬workspace.ContainsFile path) ∧
          load workspace deep none =
            .error (.refused {
              refusal := .nameTooLong
              subject := (deep.child ".lint-ratchet.toml").toText
            }) := by
  intro deep workspace
  have fromRoot : Workspace.FromRoot deep :=
    ⟨by decide, by decide +kernel, by decide +kernel, by decide +kernel⟩
  have tree : workspace.IsTree := Workspace.isTree_fresh deep [] fromRoot
  have isDirectory : workspace.hasDirectory deep = .ok true :=
    Workspace.hasDirectory_fresh deep [] fromRoot (by decide +kernel)
  have found : deep.resolve workspace.here = .ok deep :=
    fromRoot.resolve_eq rfl workspace.here
  have tooLong : Workspace.longestPath ≤ (deep.child ".lint-ratchet.toml").length := by
    decide +kernel
  refine ⟨tree, isDirectory, Workspace.not_containsFile_fresh deep [], ?_⟩
  rw [load_none_eq found]
  refine loadFirst_eq_refused_iff.mpr ⟨[], _, _, rfl, nofun, ?_⟩
  rw [hasFile_of_mem_candidates tree isDirectory found List.mem_cons_self, if_pos tooLong]

end Settings

end Tolerance
