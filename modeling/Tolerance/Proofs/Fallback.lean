import Tolerance.Proofs.FirstAppearance
import Tolerance.Proofs.Presentation
import Tolerance.Proofs.Source

namespace Tolerance

/-!
# Reports on files that cannot be read

A report shows a diagnostic on one line where there is no source to show it
with.  Whether it can be written at all is a matter of each diagnostic in it, and
not of what the reader has read before.
-/

open Outcome SourceReader

namespace Report

variable {Value Result : Type}

/-! ## Writing with a reader at hand -/

variable {workspace : Workspace} {reader : SourceReader} {memory : Nat}

/--
From any reader that goes on reading the same files, something is written
exactly if a condition holds, and then it is as promised.
-/
def WritesIff
    (workspace : Workspace)
    (reader : SourceReader)
    (condition : Prop)
    (promise : Value → Prop)
    (writing : Writing Value) :
    Prop :=
  ∀ present,
    Continues workspace reader present →
      GivenIff condition
        (fun outcome => promise outcome.1 ∧ Continues workspace reader outcome.2)
        (writing.run present)

namespace WritesIff

variable {condition otherCondition : Prop}
  {promise otherPromise : Value → Prop}
  {writing : Writing Value}

theorem imp
    (writes : WritesIff workspace reader condition promise writing)
    (sameCondition : condition ↔ otherCondition)
    (weaker : ∀ value, promise value → otherPromise value) :
    WritesIff workspace reader otherCondition otherPromise writing :=
  fun present continues =>
    (writes present continues).imp sameCondition fun outcome kept =>
      kept.imp_left (weaker outcome.1)

theorem pure
    {value : Value}
    (kept : promise value) :
    WritesIff workspace reader True promise (pure value) :=
  fun present continues => .value (value, present) trivial ⟨kept, continues⟩

/-- What needs no reader leaves it as it is. -/
theorem lift
    {answer : Except Fault Value}
    (given : GivenIff condition promise answer) :
    WritesIff workspace reader condition promise (liftM answer) :=
  fun _ continues => given.map fun _ kept => ⟨kept, continues⟩

/-- What is written next is written with the reader that the first step left. -/
theorem bind
    {nextPromise : Result → Prop}
    {next : Value → Writing Result}
    (writes : WritesIff workspace reader condition promise writing)
    (nextWrites :
      ∀ value,
        promise value →
          WritesIff workspace reader otherCondition nextPromise (next value)) :
    WritesIff workspace reader (condition ∧ otherCondition) nextPromise
      (writing >>= next) :=
  fun present continues =>
    (writes present continues).bind fun outcome kept =>
      nextWrites outcome.1 kept.1 outcome.2 kept.2

theorem map
    {nextPromise : Result → Prop}
    {change : Value → Result}
    (writes : WritesIff workspace reader condition promise writing)
    (kept : ∀ value, promise value → nextPromise (change value)) :
    WritesIff workspace reader condition nextPromise
      (do let value ← writing; return change value) :=
  (writes.bind fun value promised => .pure (kept value promised)).imp
    (and_iff_left trivial) fun _ => id

end WritesIff

/-! ## Diagnostics -/

/-- What it takes to show a diagnostic with its source, or without if there is none. -/
structure Showable
    (memory : Nat)
    (workspace : Workspace)
    (reader : SourceReader)
    (diagnostic : Diagnostic) :
    Prop where
  usable : diagnostic.Placed → reader.CanLookUp diagnostic.filename
  locatable : Locatable diagnostic
  printable :
    ∀ found, Shows workspace reader diagnostic found → PrintableExcerpt memory found

/-- Where a diagnostic has no source it is shown on one line. -/
theorem writesIff_detailed
    (diagnostic : Diagnostic) :
    WritesIff workspace reader (Showable memory workspace reader diagnostic)
      (fun shown =>
        ¬HasSource workspace reader diagnostic → brief diagnostic = .ok shown)
      (detailed memory workspace diagnostic) := by
  intro present continues
  have finds := continues.finds_excerpt? diagnostic
  unfold detailed readExcerpt
  rw [StateT.run_bind]
  change GivenIff _ _ (Except.mapError _ _ >>= _)
  generalize present.excerpt? workspace diagnostic = outcome at finds ⊢
  cases finds with
  | unusable fault placed notUsable =>
      exact .failure _ fun showable => notUsable (showable.usable placed)
  | nothing after usable unseen continuesAfter =>
      -- Without an excerpt nothing is asked of its numbers and its pointer.
      refine (WritesIff.lift (givenIff_brief diagnostic) after continuesAfter).imp
        ⟨fun locatable => ⟨usable, locatable, fun found shows => ?_⟩,
          Showable.locatable⟩
        fun outcome kept => ⟨fun _ => kept.1, kept.2⟩
      exact (unseen found shows).elim
  | excerpt found after usable shows continuesAfter =>
      -- An excerpt is cut from text, so the promise for files without text is empty.
      refine (WritesIff.lift (givenIff_excerpt memory found diagnostic) after
        continuesAfter).imp
        ⟨fun both => ⟨fun _ => usable, both.1, fun other showsOther => ?_⟩,
          fun showable => ⟨showable.locatable, showable.printable found shows⟩⟩
        fun outcome kept => ⟨fun noSource => ?_, kept.2⟩
      · exact shows.unique showsOther ▸ both.2
      · exact (noSource shows.hasSource).elim

/-- Diagnostics without a source are among some texts, each on one line. -/
def Names
    (workspace : Workspace)
    (reader : SourceReader)
    (diagnostics : List Diagnostic)
    (texts : List Text) :
    Prop :=
  ∀ diagnostic ∈ diagnostics,
    ¬HasSource workspace reader diagnostic →
      ∃ shown ∈ texts, brief diagnostic = .ok shown

namespace Names

variable {diagnostics others : List Diagnostic} {texts more : List Text}

theorem mono
    (names : Names workspace reader diagnostics texts)
    (kept : texts ⊆ more) :
    Names workspace reader diagnostics more := by
  intro diagnostic member noSource
  obtain ⟨shown, isText, isBrief⟩ := names diagnostic member noSource
  exact ⟨shown, kept isText, isBrief⟩

theorem append
    (names : Names workspace reader diagnostics texts)
    (namesOthers : Names workspace reader others more) :
    Names workspace reader (diagnostics ++ others) (texts ++ more) :=
  List.forall_mem_append.mpr
    ⟨names.mono (List.subset_append_left _ _),
      namesOthers.mono (List.subset_append_right _ _)⟩

theorem single
    {diagnostic : Diagnostic}
    {shown : Text}
    (isBrief :
      ¬HasSource workspace reader diagnostic → brief diagnostic = .ok shown) :
    Names workspace reader [diagnostic] [shown] :=
  List.forall_mem_singleton.mpr fun noSource =>
    ⟨shown, List.mem_singleton_self shown, isBrief noSource⟩

end Names

theorem writesIff_detailedAll
    (diagnostics : List Diagnostic) :
    WritesIff workspace reader
      (∀ diagnostic ∈ diagnostics, Showable memory workspace reader diagnostic)
      (Names workspace reader diagnostics)
      (detailedAll memory workspace diagnostics) := by
  induction diagnostics with
  | nil =>
      exact (WritesIff.pure (by simp [Names])).imp (by simp) fun _ => id
  | cons diagnostic rest inductionHypothesis =>
      refine WritesIff.imp ?_ List.forall_mem_cons.symm fun _ => id
      exact (writesIff_detailed diagnostic).bind fun shown isBrief =>
        inductionHypothesis.map fun others namesOthers =>
          (Names.single isBrief).append namesOthers

/-! ## Groups -/

/-- The diagnostics of a group that are shown with their sources. -/
def inFull (showCode : Int) (diagnostics : List Diagnostic) : List Diagnostic :=
  if showCode ≤ 0 then
    []
  else if diagnostics.length ≤ showCode then
    diagnostics
  else
    diagnostics.take 1

/-- The diagnostics of a group that are shown without their sources. -/
def inBrief (showCode : Int) (diagnostics : List Diagnostic) : List Diagnostic :=
  if showCode ≤ 0 then
    []
  else if diagnostics.length ≤ showCode then
    []
  else
    (diagnostics.drop 1).take namedDiagnostics

/-- What it takes to show the diagnostics of a group. -/
@[mk_iff]
structure ShowableGroup
    (memory : Nat)
    (workspace : Workspace)
    (reader : SourceReader)
    (showCode : Int)
    (diagnostics : List Diagnostic) :
    Prop where
  inFull :
    ∀ diagnostic ∈ inFull showCode diagnostics,
      Showable memory workspace reader diagnostic
  inBrief : ∀ diagnostic ∈ inBrief showCode diagnostics, Locatable diagnostic

/-- The diagnostics of a group that a report shows at all. -/
def listed (showCode : Int) (diagnostics : List Diagnostic) : List Diagnostic :=
  inFull showCode diagnostics ++ inBrief showCode diagnostics

theorem writesIff_groupDiagnostics
    (showCode : Int)
    (diagnostics : List Diagnostic) :
    WritesIff workspace reader
      (ShowableGroup memory workspace reader showCode diagnostics)
      (Names workspace reader (listed showCode diagnostics))
      (groupDiagnostics memory workspace showCode diagnostics) := by
  have nothing
      (noneInFull : inFull showCode diagnostics = [])
      (noneInBrief : inBrief showCode diagnostics = []) :
      WritesIff workspace reader
        (ShowableGroup memory workspace reader showCode diagnostics)
        (Names workspace reader (listed showCode diagnostics)) (pure []) := by
    refine (WritesIff.pure (by simp [Names, listed, noneInFull, noneInBrief])).imp
      ⟨fun _ => ⟨by simp [noneInFull], by simp [noneInBrief]⟩, fun _ => trivial⟩
      fun _ => id
  cases diagnostics with
  | nil =>
      exact nothing (by simp [inFull]) (by simp [inBrief])
  | cons first rest =>
      rw [groupDiagnostics]
      split
      · next hidden =>
          exact nothing (if_pos hidden) (if_pos hidden)
      next visible =>
      split
      · next few =>
          have allInFull : inFull showCode (first :: rest) = first :: rest :=
            (if_neg visible).trans (if_pos few)
          have noneInBrief : inBrief showCode (first :: rest) = [] :=
            (if_neg visible).trans (if_pos few)
          have condition :
              (Showable memory workspace reader first ∧
                  ∀ diagnostic ∈ rest, Showable memory workspace reader diagnostic) ↔
                ShowableGroup memory workspace reader showCode (first :: rest) := by
            rw [showableGroup_iff, allInFull, noneInBrief]
            simp
          refine WritesIff.imp ?_ condition fun _ => id
          rw [listed, allInFull, noneInBrief, List.append_nil]
          exact (writesIff_detailed first).bind fun shown isBrief =>
            (writesIff_detailedAll rest).map fun others namesOthers =>
              ((Names.single isBrief).append namesOthers).mono
                (List.subset_cons_self _ _)
      · next many =>
          have firstInFull : inFull showCode (first :: rest) = [first] :=
            (if_neg visible).trans (if_neg many)
          have someInBrief :
              inBrief showCode (first :: rest) = rest.take namedDiagnostics :=
            (if_neg visible).trans (if_neg many)
          have condition :
              (Showable memory workspace reader first ∧
                  ∀ diagnostic ∈ rest.take namedDiagnostics, Locatable diagnostic) ↔
                ShowableGroup memory workspace reader showCode (first :: rest) := by
            rw [showableGroup_iff, firstInFull, someInBrief]
            simp
          refine WritesIff.imp ?_ condition fun _ => id
          rw [listed, firstInFull, someInBrief]
          exact (writesIff_detailed first).bind fun shown isBrief =>
            (WritesIff.lift (givenIff_briefAll _)).map fun others areBrief =>
              have namesOthers :
                  Names workspace reader (rest.take namedDiagnostics) others :=
                fun other member _ => areBrief other member
              ((Names.single isBrief).append namesOthers).mono
                (List.subset_append_of_subset_left _ (List.subset_cons_self _ _))

/-- A group can be shown with its heading and its diagnostics. -/
@[mk_iff]
structure Presentable
    (memory : Nat)
    (workspace : Workspace)
    (reader : SourceReader)
    (showCode : Int)
    (group : Excess) :
    Prop where
  countable : Countable group
  showable : ShowableGroup memory workspace reader showCode group.diagnostics

/-- Texts name the diagnostics of a group that are listed and have no source. -/
abbrev NamesGroup
    (workspace : Workspace)
    (reader : SourceReader)
    (showCode : Int)
    (texts : List Text)
    (group : Excess) :
    Prop :=
  Names workspace reader (listed showCode group.diagnostics) texts

theorem writesIff_groupLines
    (showCode : Int)
    (group : Excess) :
    WritesIff workspace reader (Presentable memory workspace reader showCode group)
      (fun lines => NamesGroup workspace reader showCode lines group)
      (groupLines memory workspace showCode group) := by
  refine WritesIff.imp ?_ (presentable_iff memory workspace reader showCode group).symm
    fun _ => id
  exact (WritesIff.lift (givenIff_groupHeading group)).bind fun heading _ =>
    (writesIff_groupDiagnostics showCode group.diagnostics).map fun shown names =>
      names.mono fun text member => by
        simp [member]

theorem writesIff_groupsLines
    (showCode : Int)
    (groups : List Excess) :
    WritesIff workspace reader
      (∀ group ∈ groups, Presentable memory workspace reader showCode group)
      (fun lines => ∀ group ∈ groups, NamesGroup workspace reader showCode lines group)
      (groupsLines memory workspace showCode groups) := by
  induction groups with
  | nil =>
      exact (WritesIff.pure (by simp)).imp (by simp) fun _ => id
  | cons group rest inductionHypothesis =>
      refine WritesIff.imp ?_ List.forall_mem_cons.symm fun _ => id
      exact (writesIff_groupLines showCode group).bind fun lines names =>
        inductionHypothesis.map fun others namesOthers =>
          List.forall_mem_cons.mpr
            ⟨names.mono (List.subset_append_left _ _), fun other member =>
              (namesOthers other member).mono (List.subset_append_right _ _)⟩

/-! ## The report -/

theorem writesIff_filesLines
    (showCode : Int)
    (groups : List Excess)
    (filenames : List Text) :
    WritesIff workspace reader
      (∀ group ∈ groups,
        group.filename ∈ filenames →
          Presentable memory workspace reader showCode group)
      (fun lines =>
        ∀ group ∈ groups,
          group.filename ∈ filenames →
            NamesGroup workspace reader showCode lines group)
      (filesLines memory workspace showCode groups filenames) := by
  induction filenames with
  | nil =>
      exact (WritesIff.pure (by simp)).imp (by simp) fun _ => id
  | cons filename rest inductionHypothesis =>
      have condition :
          ((∀ group ∈ groups.filter fun group => group.filename = filename,
              Presentable memory workspace reader showCode group) ∧
            ∀ group ∈ groups,
              group.filename ∈ rest →
                Presentable memory workspace reader showCode group) ↔
            ∀ group ∈ groups,
              group.filename ∈ filename :: rest →
                Presentable memory workspace reader showCode group := by
        simp only [List.mem_filter, decide_eq_true_eq, List.mem_cons, and_imp,
          or_imp, forall_and]
      refine WritesIff.imp ?_ condition fun _ => id
      refine (writesIff_groupsLines showCode
        (groups.filter fun group => group.filename = filename)).bind
        fun lines names => inductionHypothesis.map fun others namesOthers => ?_
      intro group member listedFile
      rcases List.mem_cons.mp listedFile with thisFile | otherFile
      · have here : group ∈ groups.filter fun group => group.filename = filename :=
          List.mem_filter.mpr ⟨member, decide_eq_true thisFile⟩
        exact (names group here).mono fun text isText => by simp [isText]
      · exact (namesOthers group member otherFile).mono fun text isText => by
          simp [isText]

/-- Every file of a group is among the files of a report. -/
theorem filename_mem_filenames
    {groups : List Excess}
    {group : Excess}
    (member : group ∈ groups) :
    group.filename ∈ Excess.filenames groups := by
  rw [Excess.filenames_eq_eraseDups, List.mem_eraseDups]
  exact List.mem_map_of_mem member

/-- A report can be written if its groups can, and then it names what has no source. -/
theorem writesIff_human
    (showCode : Int)
    (groups : List Excess) :
    WritesIff workspace reader
      (CountableGroups groups ∧
        ∀ group ∈ groups,
          ShowableGroup memory workspace reader showCode group.diagnostics)
      (fun report =>
        ∀ group ∈ groups,
          ∀ diagnostic ∈ listed showCode group.diagnostics,
            ¬HasSource workspace reader diagnostic →
              ∃ shown, brief diagnostic = .ok shown ∧ shown.FillsLinesIn report)
      (human workspace showCode groups memory) := by
  have condition :
      ((∀ group ∈ groups,
          group.filename ∈ Excess.filenames groups →
            Presentable memory workspace reader showCode group) ∧
        Writable (Excess.totalAmount groups)) ↔
        CountableGroups groups ∧
          ∀ group ∈ groups,
            ShowableGroup memory workspace reader showCode group.diagnostics := by
    constructor
    · rintro ⟨presentable, total⟩
      have each (group : Excess) (member : group ∈ groups) :=
        presentable group member (filename_mem_filenames member)
      exact
        ⟨⟨fun group member => (each group member).countable, total⟩,
          fun group member => (each group member).showable⟩
    · rintro ⟨countable, showable⟩
      exact
        ⟨fun group member _ => ⟨countable.each group member, showable group member⟩,
          countable.total⟩
  refine WritesIff.imp ?_ condition fun _ => id
  refine (writesIff_filesLines showCode groups (Excess.filenames groups)).bind
    fun lines names =>
      (WritesIff.lift (givenIff_summaryLines groups)).map fun summary someSummary => ?_
  intro group member diagnostic isListed noSource
  obtain ⟨shown, isLine, isBrief⟩ :=
    names group member (filename_mem_filenames member) diagnostic isListed noSource
  exact
    ⟨shown, isBrief,
      Text.fillsLinesIn_join (List.cons_ne_nil _ _) someSummary isLine⟩

/--
A reader fails over nothing but a line in a file whose name cannot be looked up:
one with a null character, or with a surrogate that stands for no byte.  A file
that is not there, that is no file or that is no UTF-8 text has no excerpt, and
the reader goes on as before.

A report on any groups is written exactly if their counts can be and each
diagnostic that is listed can be shown: its line and column have no more digits
than are written, its file has a name that can be looked up if it is to be
shown with its source, and the numbers and the pointer of an excerpt that is
found are not too large, whatever memory there is for the pointer.  In such a
report every listed diagnostic without a source stands on lines of its own as its
location and message.  The counts can always be written of what exceeds a baseline.
-/
theorem unreadable_source_falls_back
    (workspace : Workspace)
    (reader : SourceReader)
    (faithful : reader.Faithful workspace) :
    (∀ diagnostic,
      ((∃ fault, reader.excerpt? workspace diagnostic = .error fault) ↔
          diagnostic.Placed ∧ ¬reader.CanLookUp diagnostic.filename) ∧
        ((diagnostic.Placed → reader.CanLookUp diagnostic.filename) →
          ¬HasSource workspace reader diagnostic →
          ∃ after,
            reader.excerpt? workspace diagnostic = .ok (none, after) ∧
              Continues workspace reader after)) ∧
      (∀ showCode groups memory,
        ((∃ outcome,
            (human workspace showCode groups memory).run reader = .ok outcome) ↔
            CountableGroups groups ∧
              ∀ group ∈ groups,
                ShowableGroup memory workspace reader showCode group.diagnostics) ∧
          ∀ report after,
            (human workspace showCode groups memory).run reader = .ok (report, after) →
            ∀ group ∈ groups,
              ∀ diagnostic ∈ listed showCode group.diagnostics,
                ¬HasSource workspace reader diagnostic →
                ∃ shown,
                  brief diagnostic = .ok shown ∧ shown.FillsLinesIn report) ∧
      ∀ (baseline : Baseline) (diagnostics : List Diagnostic),
        baseline.Nonnegative →
        diagnostics.length < Numeral.bound →
        CountableGroups (baseline.excess diagnostics) := by
  have continues := Continues.refl faithful
  refine ⟨fun diagnostic => ⟨?_, ?_⟩, fun showCode groups memory => ⟨?_, ?_⟩,
    fun baseline diagnostics => countableGroups_excess⟩
  · have finds := continues.finds_excerpt? diagnostic
    generalize reader.excerpt? workspace diagnostic = outcome at finds ⊢
    cases finds with
    | unusable fault placed notUsable => simp [placed, notUsable]
    | nothing after usable unseen continues => simpa using usable
    | excerpt found after usable shows continues => simp [usable]
  · intro usable noSource
    have finds := continues.finds_excerpt? diagnostic
    generalize reader.excerpt? workspace diagnostic = outcome at finds ⊢
    cases finds with
    | unusable fault placed notUsable => exact (notUsable (usable placed)).elim
    | nothing after usable unseen continues => exact ⟨after, rfl, continues⟩
    | excerpt found after usable shows continues => exact (noSource shows.hasSource).elim
  · exact (writesIff_human showCode groups reader continues).exists_eq_ok_iff
  · intro report after written
    exact ((writesIff_human showCode groups reader continues).of_eq_ok written).1

/-- A file of a byte that is no text leaves a violation in it to be named on one line. -/
theorem binary_source_falls_back :
    let workspace := (Workspace.fresh "/w" []).withFile "a.ts" [0xff]
    let diagnostic : Diagnostic := {
      filename := "a.ts"
      rule := "no-var"
      message := "Unexpected var"
      line := some 1
    }
    Faithful workspace {} ∧
      ¬HasSource workspace {} diagnostic ∧
        ∃ report after shown,
          (human workspace 3 (Baseline.excess Ledger.empty [diagnostic])).run {} =
              .ok (report, after) ∧
            brief diagnostic = .ok shown ∧
            shown.FillsLinesIn report := by
  intro workspace diagnostic
  have faithful : Faithful workspace {} :=
    faithful_of_unread rfl workspace
  have unreadable :
      readLines workspace (({} : SourceReader).pathOf diagnostic.filename) =
        .ok none := by
    decide +kernel
  have noSource : ¬HasSource workspace {} diagnostic := by
    have reads :=
      reads_readLines workspace (({} : SourceReader).pathOf diagnostic.filename)
    rw [unreadable] at reads
    cases reads with
    | unreadable _ noText => exact noText
  have listedOnce :
      ∃ group ∈ Baseline.excess Ledger.empty [diagnostic],
        diagnostic ∈ listed 3 group.diagnostics := by
    decide +kernel
  have written :
      ((human workspace 3 (Baseline.excess Ledger.empty [diagnostic])).run {}).isOk =
        true := by
    decide +kernel
  obtain ⟨group, member, isListed⟩ := listedOnce
  cases ran :
      (human workspace 3 (Baseline.excess Ledger.empty [diagnostic])).run {} with
  | error fault =>
      rw [ran] at written
      cases written
  | ok outcome =>
      obtain ⟨report, after⟩ := outcome
      obtain ⟨shown, isBrief, fills⟩ :=
        ((unreadable_source_falls_back workspace {} faithful).2.1 3 _ _).2 report after
          ran group member diagnostic isListed noSource
      exact ⟨faithful, noSource, report, after, shown, rfl, isBrief, fills⟩

/-- A name with a null character is not looked up, and the reader fails over it. -/
theorem null_name_has_no_fallback :
    let workspace := Workspace.fresh "/w" []
    let diagnostic : Diagnostic := {
      filename := [0]
      rule := "no-var"
      line := some 1
    }
    SourceReader.excerpt? {} workspace diagnostic = .error .nullByte ∧
      (human workspace 3 (Baseline.excess Ledger.empty [diagnostic])).run {} =
        .error (.sourcePath .nullByte) := by
  decide +kernel

end Report

end Tolerance
