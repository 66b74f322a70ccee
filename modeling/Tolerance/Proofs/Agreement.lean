import Mathlib.Algebra.BigOperators.Group.List.Basic
import Mathlib.Algebra.Order.Ring.Int
import Tolerance.Proofs.Fallback
import Tolerance.Proofs.Text.Styled
import Tolerance.Report.Machine

namespace Tolerance

/-!
# Two reports on the same groups

A report for people lists the groups in excess file by file, and a machine report
lists them one after the other.  Both tell the same: read from top to bottom, the
groups under the files are those of the machine report, in its order and with the
same counts, and both sum them up by the same three numbers.
-/

open Outcome Text

/-! ## What is in excess altogether -/

namespace Baseline

open Diagnostic

/-- By how many violations a pair is over its tolerated count, or zero if it is not. -/
def excessOf
    (baseline : Baseline)
    (diagnostics : List Diagnostic)
    (pair : Text × Text) :
    Int :=
  max 0 (occurrences diagnostics pair.1 pair.2 - baseline.count pair.1 pair.2)

/-- A pair that is reported is over its count by the amount of its group. -/
private theorem excessOf_of_mem_excess
    {baseline : Baseline}
    {diagnostics : List Diagnostic}
    {group : Excess}
    (reported : group ∈ baseline.excess diagnostics) :
    baseline.excessOf diagnostics (group.filename, group.rule) = group.amount := by
  obtain ⟨_, _, actual, expected, tooMany⟩ := mem_excess_iff.mp reported
  rw [excessOf, Excess.amount, ← actual, ← expected]
  omega

/-- A pair is over its count exactly if it is reported. -/
private theorem excessOf_pos_iff
    {baseline : Baseline}
    {diagnostics : List Diagnostic}
    {filename rule : Text} :
    0 < baseline.excessOf diagnostics (filename, rule) ↔
      baseline.count filename rule < occurrences diagnostics filename rule := by
  unfold excessOf
  dsimp only
  omega

/-- Pairs that are not over their counts add nothing. -/
private theorem sum_filter_excessOf
    (baseline : Baseline)
    (diagnostics : List Diagnostic)
    (pairs : List (Text × Text)) :
    ((pairs.filter fun pair => 0 < baseline.excessOf diagnostics pair).map
        (baseline.excessOf diagnostics)).sum =
      (pairs.map (baseline.excessOf diagnostics)).sum := by
  induction pairs with
  | nil =>
      rfl
  | cons pair rest inductionHypothesis =>
      have notNegative : 0 ≤ baseline.excessOf diagnostics pair :=
        Int.le_max_left _ _
      rw [List.map_cons, List.sum_cons, ← inductionHypothesis]
      by_cases positive : 0 < baseline.excessOf diagnostics pair
      · simp [positive]
      · have nothing : baseline.excessOf diagnostics pair = 0 :=
          Int.le_antisymm (Int.not_lt.mp positive) notNegative
        simp [nothing]

/-- What is in excess altogether is the sum over all pairs, or over all that are in excess. -/
theorem totalAmount_excess
    {baseline : Baseline}
    (nonnegative : baseline.Nonnegative)
    (diagnostics : List Diagnostic)
    {pairs : List (Text × Text)}
    (distinct : pairs.Nodup)
    (covering :
      ∀ filename rule,
        baseline.count filename rule < occurrences diagnostics filename rule →
        (filename, rule) ∈ pairs) :
    Excess.totalAmount (baseline.excess diagnostics) =
      (pairs.map (baseline.excessOf diagnostics)).sum := by
  let pairsInExcess :=
    (baseline.excess diagnostics).map fun group => (group.filename, group.rule)
  have amounts :
      (baseline.excess diagnostics).map Excess.amount =
        pairsInExcess.map (baseline.excessOf diagnostics) := by
    rw [List.map_map]
    exact List.map_congr_left fun group reported =>
      (excessOf_of_mem_excess reported).symm
  have inExcess :
      pairsInExcess.Perm
        (pairs.filter fun pair => 0 < baseline.excessOf diagnostics pair) := by
    apply (List.perm_ext_iff_of_nodup (excess_pairs_nodup baseline diagnostics)
      (distinct.filter _)).mpr
    rintro ⟨filename, rule⟩
    rw [List.mem_filter, decide_eq_true_eq, excessOf_pos_iff,
      ← reports_excess_iff nonnegative]
    constructor
    · intro member
      obtain ⟨group, reported, same⟩ := List.mem_map.mp member
      have reports : Excess.Reports (baseline.excess diagnostics) filename rule :=
        ⟨group, reported, Prod.mk.inj same⟩
      exact
        ⟨covering filename rule
            ((reports_excess_iff nonnegative diagnostics _ _).mp reports),
          reports⟩
    · rintro ⟨_, group, reported, rfl, rfl⟩
      exact List.mem_map_of_mem reported
  calc
    Excess.totalAmount (baseline.excess diagnostics)
        = ((baseline.excess diagnostics).map Excess.amount).sum := by
      rw [List.sum_eq_foldr, List.foldr_map]
      rfl
    _ = (pairsInExcess.map (baseline.excessOf diagnostics)).sum := by
      rw [amounts]
    _ = ((pairs.filter fun pair => 0 < baseline.excessOf diagnostics pair).map
          (baseline.excessOf diagnostics)).sum :=
      (inExcess.map _).sum_eq
    _ = (pairs.map (baseline.excessOf diagnostics)).sum :=
      sum_filter_excessOf baseline diagnostics pairs

/-- A group that is reported is over its count by at least one violation. -/
theorem one_le_amount_of_mem_excess
    {baseline : Baseline}
    {diagnostics : List Diagnostic}
    {group : Excess}
    (reported : group ∈ baseline.excess diagnostics) :
    1 ≤ group.amount := by
  obtain ⟨_, _, _, _, tooMany⟩ := mem_excess_iff.mp reported
  rw [Excess.amount]
  omega

end Baseline

namespace Report

/-! ## Lines for people -/

/-- A group as a person reads it: its rule, by how much it is over, and both counts. -/
def reading (group : Excess) : Text :=
  "  ! " ++ group.rule.withoutStyles ++ ": " ++ Numeral.ofInt group.amount ++
    " excess " ++ (if group.amount = 1 then "error" else "errors") ++
    " (expected: " ++ Numeral.ofInt group.expected ++
    ", actual: " ++ Numeral.ofInt group.actual ++ ")"

/-- The line that names a group reads as its rule and its counts. -/
theorem withoutStyles_of_groupHeading
    {group : Excess}
    {heading : Text}
    (wrote : groupHeading group = .ok heading) :
    heading.withoutStyles = reading group := by
  unfold groupHeading at wrote
  simp only [bind_eq_ok_iff, number_eq_ok_iff, pure, Except.pure, Except.ok.injEq]
    at wrote
  obtain ⟨_, ⟨-, rfl⟩, _, ⟨-, rfl⟩, _, ⟨-, rfl⟩, rfl⟩ := wrote
  have closing : withoutStyles ")" = ")" :=
    Plain.withoutStyles_eq (by decide)
  have mark : withoutStyles "!" = "!" :=
    Plain.withoutStyles_eq (by decide)
  have lead : ofString "  ! " = ofString "  " ++ (ofString "!" ++ ofString " ") :=
    rfl
  rw [reading]
  -- Text between the styled pieces is plain, and what is plain keeps its place.
  split <;>
    simp (disch := decide) only [List.append_assoc, Plain.withoutStyles_append,
      Style.withoutStyles_apply_append, (plain_ofInt _).withoutStyles_eq, mark, closing,
      lead]

/-! ## The parts of a report -/

/-- Two steps write something exactly if both of them do, with the reader the first one left. -/
theorem run_bind_eq_ok_iff
    {Value Result : Type}
    {first : Writing Value}
    {next : Value → Writing Result}
    {before after : SourceReader}
    {result : Result} :
    (first >>= next).run before = .ok (result, after) ↔
      ∃ value between,
        first.run before = .ok (value, between) ∧
          (next value).run between = .ok (result, after) := by
  rw [StateT.run_bind, bind_eq_ok_iff]
  exact Prod.exists

/-- What needs no reader leaves it as it is. -/
theorem run_lift_eq_ok_iff
    {Value : Type}
    {answer : Except Fault Value}
    {before after : SourceReader}
    {value : Value} :
    (liftM answer : Writing Value).run before = .ok (value, after) ↔
      answer = .ok value ∧ after = before := by
  change (answer >>= fun value => pure (value, before)) = _ ↔ _
  rw [bind_eq_ok_iff]
  constructor
  · rintro ⟨_, same, ended⟩
    cases ended
    exact ⟨same, rfl⟩
  · rintro ⟨same, rfl⟩
    exact ⟨value, same, rfl⟩

/-- What a group is closed with: how its violations can be accepted. -/
def advice : List Text := [
  "    " ++ (Style.coloured .cyan).apply "To suppress, re-run with:",
  "    " ++ Style.emphasis.apply updateEnvironmentHint,
  []]

/-- A group as it stands in a report: the line that names it, and its diagnostics. -/
structure GroupBlock (memory : Nat) (workspace : Workspace) (showCode : Int) where
  group : Excess
  heading : Text
  shown : List Text
  isHeading : groupHeading group = .ok heading
  isShown :
    ∃ before after,
      (groupDiagnostics memory workspace showCode group.diagnostics).run before =
        .ok (shown, after)

/-- A file as it stands in a report: its heading, and its groups. -/
structure FileBlock (memory : Nat) (workspace : Workspace) (showCode : Int) where
  filename : Text
  blocks : List (GroupBlock memory workspace showCode)
  sameFile : ∀ block ∈ blocks, block.group.filename = filename

variable {memory : Nat} {workspace : Workspace} {showCode : Int}

/-- The lines that a group takes up. -/
def GroupBlock.lines (block : GroupBlock memory workspace showCode) : List Text :=
  block.heading :: (block.shown ++ advice)

/-- The lines that a file takes up. -/
def FileBlock.lines (file : FileBlock memory workspace showCode) : List Text :=
  fileHeading file.filename :: file.blocks.flatMap GroupBlock.lines

/-- The groups that are listed under a file, from top to bottom. -/
def FileBlock.groups (file : FileBlock memory workspace showCode) : List Excess :=
  file.blocks.map GroupBlock.group

private theorem exists_block_of_groupLines
    {group : Excess}
    {before after : SourceReader}
    {lines : List Text}
    (wrote :
      (groupLines memory workspace showCode group).run before = .ok (lines, after)) :
    ∃ block : GroupBlock memory workspace showCode,
      block.group = group ∧ lines = block.lines := by
  unfold groupLines at wrote
  obtain ⟨heading, between, wroteHeading, wroteRest⟩ :=
    run_bind_eq_ok_iff.mp wrote
  obtain ⟨isHeading, -⟩ := run_lift_eq_ok_iff.mp wroteHeading
  obtain ⟨shown, later, isShown, ended⟩ := run_bind_eq_ok_iff.mp wroteRest
  cases ended
  exact ⟨⟨group, heading, shown, isHeading, _, _, isShown⟩, rfl, rfl⟩

/-- Groups are written one after the other. -/
private theorem exists_blocks_of_groupsLines
    {groups : List Excess}
    {before after : SourceReader}
    {lines : List Text}
    (wrote :
      (groupsLines memory workspace showCode groups).run before = .ok (lines, after)) :
    ∃ blocks : List (GroupBlock memory workspace showCode),
      blocks.map GroupBlock.group = groups ∧ lines = blocks.flatMap GroupBlock.lines := by
  induction groups generalizing before after lines with
  | nil =>
      cases wrote
      exact ⟨[], rfl, rfl⟩
  | cons group rest inductionHypothesis =>
      rw [groupsLines] at wrote
      obtain ⟨first, between, wroteFirst, wroteRest⟩ :=
        run_bind_eq_ok_iff.mp wrote
      obtain ⟨others, later, wroteOthers, ended⟩ :=
        run_bind_eq_ok_iff.mp wroteRest
      cases ended
      obtain ⟨block, rfl, rfl⟩ := exists_block_of_groupLines wroteFirst
      obtain ⟨blocks, rfl, rfl⟩ := inductionHypothesis wroteOthers
      exact ⟨block :: blocks, rfl, rfl⟩

/-- Files are written one after the other, each with its groups. -/
private theorem exists_blocks_of_filesLines
    {groups : List Excess}
    {filenames : List Text}
    {before after : SourceReader}
    {lines : List Text}
    (wrote :
      (filesLines memory workspace showCode groups filenames).run before =
        .ok (lines, after)) :
    ∃ files : List (FileBlock memory workspace showCode),
      files.map FileBlock.filename = filenames ∧
        files.map FileBlock.groups =
          filenames.map
            (fun filename => groups.filter fun group => group.filename = filename) ∧
        lines = files.flatMap FileBlock.lines := by
  induction filenames generalizing before after lines with
  | nil =>
      cases wrote
      exact ⟨[], rfl, rfl, rfl⟩
  | cons filename rest inductionHypothesis =>
      rw [filesLines] at wrote
      obtain ⟨first, between, wroteFirst, wroteRest⟩ :=
        run_bind_eq_ok_iff.mp wrote
      obtain ⟨others, later, wroteOthers, ended⟩ :=
        run_bind_eq_ok_iff.mp wroteRest
      cases ended
      obtain ⟨blocks, sameGroups, rfl⟩ := exists_blocks_of_groupsLines wroteFirst
      obtain ⟨files, sameFiles, sameParts, rfl⟩ := inductionHypothesis wroteOthers
      have sameFile : ∀ block ∈ blocks, block.group.filename = filename := by
        intro block member
        have listed := List.mem_map_of_mem (f := GroupBlock.group) member
        rw [sameGroups, List.mem_filter, decide_eq_true_eq] at listed
        exact listed.2
      refine ⟨⟨filename, blocks, sameFile⟩ :: files, ?_, ?_, rfl⟩
      · rw [List.map_cons, sameFiles]
      · rw [List.map_cons, List.map_cons, sameParts, FileBlock.groups, sameGroups]

/-- The lines that sum a report up by three numbers. -/
def summary (files rules : Nat) (total : Int) : List Text := [
  [],
  Style.emphasis.apply "Summary:",
  "  - Files with issues: " ++ Numeral.ofNat files,
  "  - Rules with excess errors: " ++ Numeral.ofNat rules,
  "  - Total excess errors: " ++ Numeral.ofInt total,
  [],
  (Style.coloured .cyan).apply "To suppress all current errors, run:",
  "  " ++ Style.emphasis.apply updateHint]

private theorem eq_summary_of_summaryLines
    {groups : List Excess}
    {lines : List Text}
    (wrote : summaryLines groups = .ok lines) :
    lines =
      summary (Excess.filenames groups).length groups.length
        (Excess.totalAmount groups) := by
  unfold summaryLines at wrote
  obtain ⟨total, wroteTotal, ended⟩ := bind_eq_ok_iff.mp wrote
  obtain ⟨-, rfl⟩ := number_eq_ok_iff.mp wroteTotal
  cases ended
  rfl

/-- A report is its title, the files with their groups, and the summary. -/
private theorem exists_blocks_of_human
    {groups : List Excess}
    {before after : SourceReader}
    {report : Text}
    (wrote :
      (human workspace showCode groups memory).run before = .ok (report, after)) :
    ∃ files : List (FileBlock memory workspace showCode),
      files.map FileBlock.filename = Excess.filenames groups ∧
        files.map FileBlock.groups =
          (Excess.filenames groups).map
            (fun filename => groups.filter fun group => group.filename = filename) ∧
        report =
          join "\n"
            ([(Style.boldColoured .red).apply "Found unsuppressed errors:", []] ++
              files.flatMap FileBlock.lines ++
              summary (Excess.filenames groups).length groups.length
                (Excess.totalAmount groups)) := by
  unfold human at wrote
  obtain ⟨lines, between, wroteLines, wroteRest⟩ := run_bind_eq_ok_iff.mp wrote
  obtain ⟨last, later, wroteSummary, ended⟩ := run_bind_eq_ok_iff.mp wroteRest
  obtain ⟨isSummary, -⟩ := run_lift_eq_ok_iff.mp wroteSummary
  cases ended
  obtain ⟨files, sameFiles, sameGroups, rfl⟩ := exists_blocks_of_filesLines wroteLines
  rw [eq_summary_of_summaryLines isSummary]
  exact ⟨files, sameFiles, sameGroups, rfl⟩

/-! ## Objects for other programs -/

/-- An object has a field of a given name and value. -/
def HasField
    (object : Json)
    (name : Text)
    (value : Json) :
    Prop :=
  ∃ fields, object = .object fields ∧ Json.field? name fields = some value

/-- An object tells which rule is in excess in which file, and by which counts. -/
structure Tells (object : Json) (group : Excess) : Prop where
  filename : HasField object "filename" (.string group.filename)
  rule : HasField object "rule" (.string group.rule)
  expected : HasField object "expected" (.integer group.expected)
  actual : HasField object "actual" (.integer group.actual)
  amount : HasField object "excess" (.integer group.amount)

/-- An object sums a report up by three numbers. -/
structure SumsUp (object : Json) (files rules : Nat) (total : Int) : Prop where
  files : HasField object "files" (.integer files)
  rules : HasField object "rules" (.integer rules)
  total : HasField object "total_excess" (.integer total)

private theorem tells_excessToJson (group : Excess) :
    Tells (excessToJson group) group where
  filename := ⟨_, rfl, rfl⟩
  rule := ⟨_, rfl, rfl⟩
  expected := ⟨_, rfl, rfl⟩
  actual := ⟨_, rfl, rfl⟩
  amount := ⟨_, rfl, rfl⟩

/-- A machine report tells of its groups one by one and sums them up. -/
private theorem exists_fields_of_checkToJson
    (groups : List Excess)
    (baselinePath inputSource : Text) :
    ∃ objects sum,
      HasField (checkToJson groups baselinePath inputSource) "excess"
          (.array objects) ∧
        List.Forall₂ Tells objects groups ∧
        HasField (checkToJson groups baselinePath inputSource) "summary" sum ∧
        SumsUp sum (Excess.filenames groups).length groups.length
          (Excess.totalAmount groups) := by
  refine
    ⟨groups.map excessToJson, _, ⟨_, rfl, rfl⟩, ?_, ⟨_, rfl, rfl⟩,
      ⟨⟨_, rfl, rfl⟩, ⟨_, rfl, rfl⟩, ⟨_, rfl, rfl⟩⟩⟩
  rw [List.forall₂_map_left_iff]
  exact List.forall₂_same.mpr fun group _ => tells_excessToJson group

/-! ## The agreement -/

/--
A report for people on the groups in excess is written exactly if its counts can
be and each diagnostic in it can be shown; the counts can be unless there are
more diagnostics than a number with the most digits says.  Under its title it has
each file once, and under the heading of a file its groups, each with the line
that names it.  From top to bottom these are the groups that the machine report
lists, in its order and with the same rule and counts, and every group is over
its count by one at least.  Both reports give the same three numbers: of files,
of groups, and of violations in excess, which is the sum over all pairs of file
and rule.
-/
theorem reports_tell_the_same
    {workspace : Workspace}
    {reader : SourceReader}
    (faithful : reader.Faithful workspace)
    {baseline : Baseline}
    (nonnegative : baseline.Nonnegative)
    (diagnostics : List Diagnostic)
    (showCode : Int)
    (baselinePath inputSource : Text)
    (memory : Nat) :
    let groups := baseline.excess diagnostics
    let filenames := (groups.map Excess.filename).eraseDups
    let total := Excess.totalAmount groups
    let payload := checkToJson groups baselinePath inputSource
    ((∃ outcome,
        (human workspace showCode groups memory).run reader = .ok outcome) ↔
        CountableGroups groups ∧
          ∀ group ∈ groups,
            ShowableGroup memory workspace reader showCode group.diagnostics) ∧
      (diagnostics.length < Numeral.bound → CountableGroups groups) ∧
      (∀ report after,
        (human workspace showCode groups memory).run reader = .ok (report, after) →
        ∃ files : List (FileBlock memory workspace showCode),
          report =
              join "\n"
                ([(Style.boldColoured .red).apply "Found unsuppressed errors:", []] ++
                  files.flatMap FileBlock.lines ++
                  summary filenames.length groups.length total) ∧
            files.map FileBlock.filename = filenames ∧
            files.flatMap FileBlock.groups = groups ∧
            ∀ file ∈ files,
              ∀ block ∈ file.blocks,
                block.heading.withoutStyles = reading block.group) ∧
      (∃ objects sum,
        HasField payload "excess" (.array objects) ∧
          List.Forall₂ Tells objects groups ∧
          HasField payload "summary" sum ∧
          SumsUp sum filenames.length groups.length total) ∧
      (∀ group ∈ groups, 1 ≤ group.amount) ∧
      ∀ pairs : List (Text × Text),
        pairs.Nodup →
        (∀ filename rule,
          baseline.count filename rule <
              Diagnostic.occurrences diagnostics filename rule →
            (filename, rule) ∈ pairs) →
        total = (pairs.map (baseline.excessOf diagnostics)).sum := by
  intro groups filenames total payload
  have sameFilenames : Excess.filenames groups = filenames :=
    Excess.filenames_eq_eraseDups groups
  refine
    ⟨(writesIff_human showCode groups reader
        (SourceReader.Continues.refl faithful)).exists_eq_ok_iff,
      countableGroups_excess nonnegative, fun report after wrote => ?_, ?_,
      fun group => Baseline.one_le_amount_of_mem_excess,
      fun pairs distinct covering =>
        Baseline.totalAmount_excess nonnegative diagnostics distinct covering⟩
  · obtain ⟨files, sameFiles, sameGroups, isReport⟩ := exists_blocks_of_human wrote
    rw [sameFilenames] at sameFiles sameGroups isReport
    refine ⟨files, isReport, sameFiles, ?_, fun file _ block _ =>
      withoutStyles_of_groupHeading block.isHeading⟩
    rw [List.flatMap_def, sameGroups, ← List.flatMap_def]
    exact Baseline.flatMap_filter_excess baseline diagnostics
  · rw [← sameFilenames]
    exact exists_fields_of_checkToJson groups baselinePath inputSource

/-- Of files whose violations are interleaved each is in the report once. -/
theorem interleaved_files_are_told_alike :
    let workspace := Workspace.fresh "/w" []
    let baseline : Baseline := Ledger.empty.set "b.ts" "no-var" 1
    let first : Diagnostic := { filename := "b.ts", rule := "no-var" }
    let between : Diagnostic := { filename := "a.ts", rule := "eqeqeq" }
    let groups := baseline.excess [first, between, first]
    SourceReader.Faithful workspace {} ∧
      baseline.Nonnegative ∧
        ∃ report after,
          (human workspace 3 groups).run {} = .ok (report, after) ∧
            ∃ files : List (FileBlock usualMemory workspace 3),
              report =
                  join "\n"
                    ([(Style.boldColoured .red).apply "Found unsuppressed errors:",
                        []] ++
                      files.flatMap FileBlock.lines ++ summary 2 2 2) ∧
                files.map FileBlock.filename = ["b.ts", "a.ts"] ∧
                files.flatMap FileBlock.groups = groups := by
  intro workspace baseline first between groups
  have faithful : SourceReader.Faithful workspace {} :=
    SourceReader.faithful_of_unread rfl workspace
  have nonnegative : baseline.Nonnegative := by decide
  have written : ((human workspace 3 groups).run {}).isOk = true := by
    decide +kernel
  have filenames :
      (groups.map Excess.filename).eraseDups =
        [ofString "b.ts", ofString "a.ts"] := by
    decide +kernel
  have two : groups.length = 2 := by decide +kernel
  have total : Excess.totalAmount groups = 2 := by decide +kernel
  cases ran : (human workspace 3 groups).run {} with
  | error fault =>
      rw [ran] at written
      cases written
  | ok outcome =>
      obtain ⟨report, after⟩ := outcome
      obtain ⟨files, isReport, sameFiles, sameGroups, _⟩ :=
        (reports_tell_the_same faithful nonnegative [first, between, first] 3 [] []
          usualMemory).2.2.1 report after ran
      rw [filenames] at sameFiles
      rw [filenames, two, total] at isReport
      exact
        ⟨faithful, nonnegative, report, after, rfl, files, isReport, sameFiles,
          sameGroups⟩

/-- A source that can be read does not help a column that no text is as long as. -/
theorem huge_column_is_not_reported :
    let workspace := (Workspace.fresh "/w" []).withFile "a.ts" [0x78]
    let baseline : Baseline := Ledger.empty
    let diagnostic : Diagnostic := {
      filename := "a.ts"
      rule := "no-var"
      message := "m"
      line := some 1
      column := some 9223372036854775808
    }
    baseline.Nonnegative ∧
      (SourceReader.excerpt? {} workspace diagnostic).isOk = true ∧
      (human workspace 3 (baseline.excess [diagnostic])).run {} =
        .error .columnTooLarge := by
  decide +kernel

end Report

end Tolerance
