import Tolerance.Excerpt.Reader
import Tolerance.Proofs.Directories
import Tolerance.Proofs.OrderedMap

namespace Tolerance

/-!
# What a reader of source files sees

A reader that remembers only what is still in the files goes on like one that
has read nothing yet.  It finds no excerpt in a file that cannot be read as
text, and it fails over nothing but a name that cannot be looked up.
-/

namespace Workspace

variable {workspace : Workspace} {path : Path}

/-- There is a file of UTF-8 text at a path. -/
def HasText (workspace : Workspace) (path : Path) : Prop :=
  ∃ bytes text,
    workspace.readFile path = .ok bytes ∧ Utf8.decode bytes = .ok text

/-- The system is not asked about a path that it does not accept. -/
theorem exists_readFile_eq_of_not_accepted
    (workspace : Workspace)
    (notAccepted : ¬path.Accepted) :
    ∃ fault, workspace.readFile path = .error (.path fault) := by
  cases encoded : path.encode with
  | ok bytes =>
      exact (notAccepted ⟨bytes, encoded⟩).elim
  | error fault =>
      exact ⟨fault, by simp only [readFile, status, locate, encoded]⟩

theorem fromSystem_of_readFile_eq_error
    {fault : AccessFault}
    (refused : workspace.readFile path = .error fault)
    (accepted : path.Accepted) :
    fault.FromSystem := by
  unfold readFile at refused
  split at refused
  · next refusedEarlier =>
      cases refused
      exact fromSystem_of_status_eq_error refusedEarlier accepted
  · cases refused
    exact fromSystem_refusedFor path .isDirectory
  · cases refused

end Workspace

/-- A diagnostic names a line that a file can have. -/
def Diagnostic.Placed (diagnostic : Diagnostic) : Prop :=
  ∃ line, diagnostic.line = some line ∧ 1 ≤ line

namespace SourceReader

/-! ## One file -/

/-- How the reading of a file ends. -/
inductive Reads (workspace : Workspace) (path : Path) :
    Except Path.Fault (Option (List Text)) → Prop where
  | unusable (fault : Path.Fault) (notAccepted : ¬path.Accepted) :
      Reads workspace path (.error fault)
  | unreadable (accepted : path.Accepted) (noText : ¬workspace.HasText path) :
      Reads workspace path (.ok none)
  | text (lines : List Text) (accepted : path.Accepted)
      (hasText : workspace.HasText path) :
      Reads workspace path (.ok (some lines))

theorem reads_readLines
    (workspace : Workspace)
    (path : Path) :
    Reads workspace path (readLines workspace path) := by
  by_cases accepted : path.Accepted
  · unfold readLines
    split
    · next fault refused =>
        obtain ⟨_, fromSystem⟩ :=
          Workspace.fromSystem_of_readFile_eq_error refused accepted
        cases fromSystem
    · next fault refused =>
        refine .unreadable accepted ?_
        rintro ⟨_, _, found, _⟩
        rw [refused] at found
        cases found
    next bytes found =>
    split
    · next fault undecodable =>
        refine .unreadable accepted ?_
        rintro ⟨_, _, foundAgain, decoded⟩
        rw [found] at foundAgain
        cases foundAgain
        rw [undecodable] at decoded
        cases decoded
    · next text decoded =>
        exact .text _ accepted ⟨bytes, text, found, decoded⟩
  · obtain ⟨fault, refused⟩ :=
      workspace.exists_readFile_eq_of_not_accepted accepted
    unfold readLines
    rw [refused]
    exact .unusable fault accepted

/-- Whether the system can be asked about a source file. -/
def CanLookUp (reader : SourceReader) (filename : Text) : Prop :=
  filename.Nameable ∧
    ((Path.ofText filename).isAbsolute = true ∨ reader.root.Accepted)

theorem accepted_pathOf_iff
    {reader : SourceReader}
    {filename : Text} :
    (reader.pathOf filename).Accepted ↔ reader.CanLookUp filename := by
  unfold pathOf CanLookUp Path.within
  rw [← Path.accepted_ofText_iff]
  split
  · next absolute =>
      simp [absolute]
  · next relative =>
      simp only [relative, Bool.false_eq_true, false_or, Path.accepted_iff,
        List.mem_append]
      constructor
      · intro nameable
        exact
          ⟨fun part member => nameable part (Or.inr member),
            fun part member => nameable part (Or.inl member)⟩
      · rintro ⟨fileNameable, rootNameable⟩ part (inRoot | inFile)
        · exact rootNameable part inRoot
        · exact fileNameable part inFile

/-! ## Files that were read before -/

/-- What a reader remembers of a file is what is in the file. -/
def Faithful (workspace : Workspace) (reader : SourceReader) : Prop :=
  ∀ filename view,
    reader.views.get? filename = some view →
      readLines workspace (reader.pathOf filename) = .ok view

/-- A reader that has read nothing is faithful. -/
theorem faithful_of_unread
    {reader : SourceReader}
    (unread : reader.views = OrderedMap.empty)
    (workspace : Workspace) :
    reader.Faithful workspace := by
  intro filename view remembered
  simp [unread] at remembered

/-- What a reader has come to that goes on reading the same files. -/
structure Continues
    (workspace : Workspace)
    (reader later : SourceReader) :
    Prop where
  root : later.root = reader.root
  context : later.context = reader.context
  faithful : later.Faithful workspace

namespace Continues

variable {workspace : Workspace} {reader later : SourceReader}

theorem refl
    (faithful : reader.Faithful workspace) :
    Continues workspace reader reader :=
  ⟨rfl, rfl, faithful⟩

theorem pathOf
    (continues : Continues workspace reader later)
    (filename : Text) :
    later.pathOf filename = reader.pathOf filename := by
  rw [SourceReader.pathOf, continues.root, SourceReader.pathOf]

/-- What was read is remembered. -/
theorem insert
    {filename : Text}
    {view : Option (List Text)}
    (continues : Continues workspace reader later)
    (read : readLines workspace (reader.pathOf filename) = .ok view) :
    Continues workspace reader
      { later with views := later.views.insert filename view } where
  root := continues.root
  context := continues.context
  faithful := by
    intro query seen remembered
    rw [OrderedMap.get?_insert] at remembered
    split at remembered
    · next same =>
        cases remembered
        rw [← same]
        exact (congrArg (readLines workspace) (continues.pathOf filename)).trans read
    · exact continues.faithful query seen remembered

/-- A reader sees the lines that are in a file, whether or not it has read it before. -/
theorem lines
    (continues : Continues workspace reader later)
    (filename : Text) :
    (∃ fault,
        readLines workspace (reader.pathOf filename) = .error fault ∧
          later.lines workspace filename = .error fault) ∨
      ∃ view after,
        readLines workspace (reader.pathOf filename) = .ok view ∧
          later.lines workspace filename = .ok (view, after) ∧
          Continues workspace reader after := by
  unfold SourceReader.lines
  split
  -- What is remembered was read from the same path, so it is what would be read now.
  · next view remembered =>
      have read := continues.faithful filename view remembered
      rw [continues.pathOf] at read
      exact Or.inr ⟨view, later, read, rfl, continues⟩
  · rw [continues.pathOf]
    split
    · next fault refused =>
        exact Or.inl ⟨fault, refused, rfl⟩
    · next view read =>
        exact Or.inr ⟨view, _, read, rfl, continues.insert read⟩

end Continues

/-! ## Excerpts -/

/-- The excerpt that the file of a diagnostic has at its line. -/
def Shows
    (workspace : Workspace)
    (reader : SourceReader)
    (diagnostic : Diagnostic)
    (found : Excerpt) :
    Prop :=
  ∃ line lines,
    diagnostic.line = some line ∧
      1 ≤ line ∧
      readLines workspace (reader.pathOf diagnostic.filename) =
        .ok (some lines) ∧
      Excerpt.cut? lines line diagnostic.column reader.context = some found

/-- Whether the file of a diagnostic is there and can be read as text. -/
def HasSource
    (workspace : Workspace)
    (reader : SourceReader)
    (diagnostic : Diagnostic) :
    Prop :=
  workspace.HasText (reader.pathOf diagnostic.filename)

variable {workspace : Workspace} {reader later : SourceReader}
  {diagnostic : Diagnostic}

theorem Shows.hasSource
    {found : Excerpt}
    (shows : Shows workspace reader diagnostic found) :
    HasSource workspace reader diagnostic := by
  obtain ⟨_, lines, _, _, read, _⟩ := shows
  have reads :=
    reads_readLines workspace (reader.pathOf diagnostic.filename)
  rw [read] at reads
  cases reads with
  | text _ _ hasText => exact hasText

theorem Shows.unique
    {found other : Excerpt}
    (shows : Shows workspace reader diagnostic found)
    (showsOther : Shows workspace reader diagnostic other) :
    other = found := by
  obtain ⟨line, lines, isLine, _, read, cut⟩ := shows
  obtain ⟨line', lines', isLine', _, read', cut'⟩ := showsOther
  rw [isLine] at isLine'
  cases isLine'
  rw [read] at read'
  cases read'
  rw [cut] at cut'
  exact (Option.some.inj cut').symm

/-- How the search for an excerpt ends. -/
inductive Finds
    (workspace : Workspace)
    (reader : SourceReader)
    (diagnostic : Diagnostic) :
    Except Path.Fault (Option Excerpt × SourceReader) → Prop where
  | unusable (fault : Path.Fault) (placed : diagnostic.Placed)
      (notAccepted : ¬reader.CanLookUp diagnostic.filename) :
      Finds workspace reader diagnostic (.error fault)
  | nothing (after : SourceReader)
      (usable : diagnostic.Placed → reader.CanLookUp diagnostic.filename)
      (unseen : ∀ found, ¬Shows workspace reader diagnostic found)
      (continues : Continues workspace reader after) :
      Finds workspace reader diagnostic (.ok (none, after))
  | excerpt (found : Excerpt) (after : SourceReader)
      (usable : reader.CanLookUp diagnostic.filename)
      (shows : Shows workspace reader diagnostic found)
      (continues : Continues workspace reader after) :
      Finds workspace reader diagnostic (.ok (some found, after))

theorem Continues.finds_excerpt?
    (continues : Continues workspace reader later)
    (diagnostic : Diagnostic) :
    Finds workspace reader diagnostic (later.excerpt? workspace diagnostic) := by
  have unplaced
      (notPlaced : ¬diagnostic.Placed) :
      Finds workspace reader diagnostic (.ok (none, later)) := by
    refine .nothing later (fun placed => (notPlaced placed).elim) ?_ continues
    rintro found ⟨line, _, isLine, positive, _⟩
    exact notPlaced ⟨line, isLine, positive⟩
  have sameLine
      {line other : Int}
      (isLine : diagnostic.line = some line)
      (isOther : diagnostic.line = some other) :
      other = line :=
    Option.some.inj (isOther.symm.trans isLine)
  unfold excerpt?
  split
  · next noLine =>
      refine unplaced ?_
      rintro ⟨line, isLine, _⟩
      rw [noLine] at isLine
      cases isLine
  next line isLine =>
  split
  · next early =>
      refine unplaced ?_
      rintro ⟨other, isOther, positive⟩
      have := sameLine isLine isOther
      omega
  next positive =>
  have placed : diagnostic.Placed := ⟨line, isLine, by omega⟩
  have reads := reads_readLines workspace (reader.pathOf diagnostic.filename)
  rcases continues.lines diagnostic.filename with
    ⟨fault, refused, ran⟩ | ⟨view, after, read, ran, continuesAfter⟩
  · rw [ran]
    rw [refused] at reads
    cases reads with
    | unusable _ notAccepted =>
        exact .unusable fault placed
          fun usable => notAccepted (accepted_pathOf_iff.mpr usable)
  · rw [ran]
    rw [read] at reads
    cases reads with
    | unreadable accepted _ =>
        refine .nothing after (fun _ => accepted_pathOf_iff.mp accepted) ?_
          continuesAfter
        rintro found ⟨_, _, _, _, readAgain, _⟩
        rw [read] at readAgain
        cases readAgain
    | text lines accepted hasText =>
        have usable := accepted_pathOf_iff.mp accepted
        dsimp only
        rw [continues.context]
        cases cut : Excerpt.cut? lines line diagnostic.column reader.context with
        | some found =>
            exact .excerpt found after usable
              ⟨line, lines, isLine, by omega, read, cut⟩ continuesAfter
        | none =>
            refine .nothing after (fun _ => usable) ?_ continuesAfter
            rintro found ⟨_, _, isOther, _, readAgain, cutAgain⟩
            rw [read] at readAgain
            cases readAgain
            rw [sameLine isLine isOther, cut] at cutAgain
            cases cutAgain

end SourceReader

end Tolerance
