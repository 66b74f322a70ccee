import Tolerance.Proofs.FirstAppearance
import Tolerance.Proofs.Json.Names
import Tolerance.Proofs.Linter.Output

namespace Tolerance

/-!
# The two shapes agree

The same findings can be reported in the current shape, one after the other, or
in the former one, file by file.  What is read of them differs in order and in
the places within files only, so that every baseline and every report that is
made from them is the same.
-/

open Diagnostic

namespace Diagnostic

/-- A diagnostic without its place in the file. -/
def unplaced (diagnostic : Diagnostic) : Diagnostic :=
  { diagnostic with line := none, column := none }

theorem allIn_map_unplaced
    (diagnostics : List Diagnostic)
    (filename : Text) :
    allIn (diagnostics.map unplaced) filename =
      (allIn diagnostics filename).map unplaced := by
  rw [allIn, allIn, List.filter_map]
  rfl

/-- Places do not count for which pairs were seen. -/
theorem pairsSeen_map_unplaced (diagnostics : List Diagnostic) :
    pairsSeen (diagnostics.map unplaced) = pairsSeen diagnostics := by
  simp [pairsSeen, allIn_map_unplaced, Function.comp_def, unplaced]

/-- Places do not count for how often something was seen. -/
theorem sameOccurrences_map_unplaced (diagnostics : List Diagnostic) :
    SameOccurrences (diagnostics.map unplaced) diagnostics := by
  intro filename rule
  simp only [occurrences, allAbout, List.filter_map, List.length_map]
  rfl

/--
Two observations agree when one holds the diagnostics of the other file by file,
apart from their places.
-/
theorem agree_of_byFile
    {left right : List Diagnostic}
    (rearranged : left.map unplaced = byFile (right.map unplaced)) :
    pairsSeen left = pairsSeen right ∧ SameOccurrences left right := by
  have reordered : (left.map unplaced).Perm (right.map unplaced) := by
    rw [rearranged]
    exact byFile_perm _
  constructor
  · rw [← pairsSeen_map_unplaced left, rearranged, pairsSeen_byFile,
      pairsSeen_map_unplaced]
  · intro filename rule
    calc
      occurrences left filename rule
          = occurrences (left.map unplaced) filename rule :=
        (sameOccurrences_map_unplaced left filename rule).symm
      _ = occurrences (right.map unplaced) filename rule :=
        sameOccurrences_of_perm reordered filename rule
      _ = occurrences right filename rule :=
        sameOccurrences_map_unplaced right filename rule

end Diagnostic

namespace Linter

/-- A record that a linter reports about a file. -/
structure Finding where
  filename : Text
  record : Record

namespace Finding

/--
A finding that both shapes can report: its file has a name, one that the current
shape does not use for its records, and its rule is not named in the way that
only the former shape knows.
-/
structure FitsBothShapes (finding : Finding) : Prop where
  named : finding.filename ≠ []
  notReserved : finding.filename ≠ "diagnostics"
  noRuleId : textField? "rule_id" finding.record = none

/-- The record of a finding in the current shape, which names the file. -/
def currentRecord (finding : Finding) : Record :=
  Json.setField "filename" (.string finding.filename) finding.record

/-- What both shapes tell of a finding. -/
def withoutPlace (finding : Finding) : Diagnostic :=
  diagnosticOf
    finding.filename
    ((filledField? "code" finding.record).getD Diagnostic.unknown)
    (none, none)
    finding.record

/-- The current shape tells of a finding what both shapes do, and a place. -/
theorem unplaced_currentDiagnostic
    {finding : Finding}
    (fits : finding.FitsBothShapes) :
    (currentDiagnostic finding.currentRecord).unplaced =
      finding.withoutPlace := by
  have filename :
      filledField? "filename" finding.currentRecord = some finding.filename := by
    simp [filledField?, textField?, currentRecord, Json.field?_setField,
      Json.text?, Option.filter, fits.named]
  have sameField
      (name : Text)
      (other : ("filename" : Text) ≠ name) :
      Json.field? name finding.currentRecord =
        Json.field? name finding.record := by
    rw [currentRecord, Json.field?_setField, if_neg other]
  have sameText
      (name : Text)
      (other : ("filename" : Text) ≠ name) :
      textField? name finding.currentRecord =
        textField? name finding.record := by
    rw [textField?, sameField name other, textField?]
  have code :
      filledField? "code" finding.currentRecord =
        filledField? "code" finding.record := by
    rw [filledField?, sameText "code" (by decide), filledField?]
  have severity := sameField "severity" (by decide)
  have message := sameText "message" (by decide)
  have help := sameText "help" (by decide)
  have url := sameText "url" (by decide)
  simp only [currentDiagnostic, filename, code, diagnosticOf, unplaced,
    withoutPlace, severity, message, help, url, Option.getD_some]

/-- The former shape tells of a finding what both shapes do, and a place. -/
theorem unplaced_formerDiagnostic
    {finding : Finding}
    (fits : finding.FitsBothShapes) :
    (formerDiagnostic finding.filename finding.record).unplaced =
      finding.withoutPlace := by
  have noRuleId : filledField? "rule_id" finding.record = none := by
    rw [filledField?, fits.noRuleId]
    rfl
  simp only [formerDiagnostic, noRuleId, Option.none_or, diagnosticOf, unplaced,
    withoutPlace]

end Finding

/-- The findings as an output of the current shape. -/
def currentPayload (findings : List Finding) : Json :=
  .object [
    ("diagnostics",
      .array (findings.map fun finding => .object finding.currentRecord))]

/--
The files of findings in order of first appearance, each with its records in
their order.
-/
def recordsByFile (findings : List Finding) : List (Text × List Record) :=
  (findings.map Finding.filename).eraseDups.map fun filename =>
    (filename,
      (findings.filter fun finding => finding.filename = filename).map
        Finding.record)

/-- The findings as an output of the former shape. -/
def formerPayload (findings : List Finding) : Json :=
  .object ((recordsByFile findings).map listRecords)

theorem readDecoded_currentPayload (findings : List Finding) :
    readDecoded (currentPayload findings) =
      .ok
        (.current,
          findings.map fun finding =>
            currentDiagnostic finding.currentRecord) := by
  have held :
      Json.field? "diagnostics"
          [("diagnostics",
            .array (findings.map fun finding =>
              Json.object finding.currentRecord))] =
        some (.array ((findings.map Finding.currentRecord).map .object)) := by
    simp [Json.field?, Function.comp_def]
  rw [currentPayload, readDecoded_current held, List.map_map]
  rfl

/-- Findings about files of other names are not taken for the current shape. -/
theorem readDecoded_formerPayload
    {findings : List Finding}
    (fit : ∀ finding ∈ findings, finding.FitsBothShapes) :
    readDecoded (formerPayload findings) =
      .ok
        (.former,
          (recordsByFile findings).flatMap fun file =>
            file.2.map (formerDiagnostic file.1)) := by
  apply readDecoded_former
  simp only [Json.field?, Option.map_eq_none_iff, List.find?_eq_none,
    decide_eq_true_eq]
  intro value member same
  obtain ⟨file, fileMember, rfl⟩ := List.mem_map.mp member
  obtain ⟨filename, nameMember, rfl⟩ := List.mem_map.mp fileMember
  rw [List.mem_eraseDups] at nameMember
  obtain ⟨finding, findingMember, rfl⟩ := List.mem_map.mp nameMember
  exact (fit finding findingMember).notReserved same

/-- What the former shape tells is what both shapes do, file by file. -/
theorem unplaced_former_eq_byFile
    {findings : List Finding}
    (fit : ∀ finding ∈ findings, finding.FitsBothShapes) :
    ((recordsByFile findings).flatMap fun file =>
          file.2.map (formerDiagnostic file.1)).map unplaced =
      byFile (findings.map Finding.withoutPlace) := by
  have filenames :
      (findings.map Finding.withoutPlace).map Diagnostic.filename =
        findings.map Finding.filename := by
    rw [List.map_map]
    rfl
  rw [byFile, filenames, recordsByFile, List.flatMap_map, List.map_flatMap]
  apply List.flatMap_congr
  intro filename _
  rw [allIn, List.filter_map, List.map_map, List.map_map]
  apply List.map_congr_left
  intro finding member
  obtain ⟨findingMember, same⟩ := List.mem_filter.mp member
  obtain rfl := of_decide_eq_true same
  exact Finding.unplaced_formerDiagnostic (fit finding findingMember)

/--
Findings that fit both shapes are read in either of them.  The former shape gives
the diagnostics of the current one in another order and with other places at
most.  The baseline that is made from them, what any baseline becomes by them and
what is reported of them, in its order, are the same.
-/
theorem shapes_agree
    (findings : List Finding)
    (fit : ∀ finding ∈ findings, finding.FitsBothShapes) :
    ∃ current former,
      readDecoded (currentPayload findings) = .ok (.current, current) ∧
        readDecoded (formerPayload findings) = .ok (.former, former) ∧
        (former.map unplaced).Perm (current.map unplaced) ∧
        Baseline.observed former = Baseline.observed current ∧
        ∀ baseline : Baseline,
          baseline.absorb former = baseline.absorb current ∧
            baseline.tighten former = baseline.tighten current ∧
            (baseline.excess former).map Excess.tally =
              (baseline.excess current).map Excess.tally := by
  have readCurrent := readDecoded_currentPayload findings
  have readFormer := readDecoded_formerPayload fit
  generalize isCurrent :
    findings.map (fun finding => currentDiagnostic finding.currentRecord) =
      current at readCurrent
  generalize isFormer :
    ((recordsByFile findings).flatMap fun file =>
      file.2.map (formerDiagnostic file.1)) = former at readFormer
  have rearranged : former.map unplaced = byFile (current.map unplaced) := by
    rw [← isFormer, ← isCurrent, unplaced_former_eq_byFile fit, List.map_map]
    apply congrArg byFile
    apply List.map_congr_left
    intro finding member
    exact (Finding.unplaced_currentDiagnostic (fit finding member)).symm
  obtain ⟨samePairs, same⟩ := agree_of_byFile rearranged
  refine
    ⟨current, former, readCurrent, readFormer, ?_, Baseline.observed_congr same,
      ?_⟩
  · rw [rearranged]
    exact byFile_perm _
  · intro baseline
    exact
      ⟨baseline.absorb_congr same, baseline.tighten_congr same,
        baseline.map_tally_excess_congr samePairs same⟩

/--
Findings about two files that take turns, one without a rule and one with an
offset for a place, are absorbed alike.
-/
theorem interleaved_findings_agree :
    let first : Finding := {
      filename := "b.ts"
      record := [
        ("code", .string "no-var"),
        ("labels",
          .array [.object [("span", .object [("start", .integer 7)])]])]
    }
    let second : Finding := { filename := "a.ts", record := [("code", .null)] }
    let third : Finding := {
      filename := "b.ts"
      record := [("filename", .integer 3), ("rule_id", .boolean true)]
    }
    let findings := [first, second, third]
    (∀ finding ∈ findings, finding.FitsBothShapes) ∧
      ∃ current former,
        readDecoded (currentPayload findings) = .ok (.current, current) ∧
          readDecoded (formerPayload findings) = .ok (.former, former) ∧
          former ≠ current ∧
          Baseline.absorb Ledger.empty former =
            Baseline.absorb Ledger.empty current := by
  intro first second third findings
  have fit : ∀ finding ∈ findings, finding.FitsBothShapes := by
    simp only [findings, List.forall_mem_cons, List.not_mem_nil,
      IsEmpty.forall_iff, implies_true, and_true]
    exact
      ⟨⟨by decide, by decide, rfl⟩, ⟨by decide, by decide, rfl⟩,
        ⟨by decide, by decide, rfl⟩⟩
  obtain ⟨current, former, readCurrent, readFormer, _, _, alike⟩ :=
    shapes_agree findings fit
  refine
    ⟨fit, current, former, readCurrent, readFormer, ?_, (alike Ledger.empty).1⟩
  intro same
  rw [same] at readFormer
  have lines :
      (readDecoded (formerPayload findings)).toOption.map
          (fun read => read.2.map Diagnostic.line) ≠
        (readDecoded (currentPayload findings)).toOption.map
          fun read => read.2.map Diagnostic.line := by
    decide +kernel
  rw [readFormer, readCurrent] at lines
  exact lines rfl

end Linter

end Tolerance
