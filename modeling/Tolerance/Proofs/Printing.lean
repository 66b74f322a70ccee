import Tolerance.Proofs.Report
import Tolerance.Proofs.Session

namespace Tolerance

/-!
# What a check prints

Standard output takes what can be encoded, without styles.  A machine report is
printed as it was written, because it is plain; for people only the word that
nothing is in excess goes there.  Printing changes no file.
-/

open Outcome

namespace CommandLine

/-- A run ends because something cannot be put into words or be printed. -/
inductive Ending.Unprinted : Ending → Prop where
  | unprintable (fault : Utf8.EncodeFault) :
      Unprinted (.crash (.unprintable fault))
  | numeral (fault : Numeral.Fault) : Unprinted (.crash (.numeral fault))
  | report (fault : Report.Fault) : Unprinted (.crash (.report fault))

theorem Ending.Unprinted.abrupt
    {ending : Ending}
    (unprinted : ending.Unprinted) :
    ending.Abrupt := by
  rintro code rfl
  cases unprinted

variable {before : Session}

/-- Either all of a text is printed, or nothing of it. -/
theorem guarantees_print
    (text : Text) :
    Guarantees (print text) before
      (fun _ after =>
        after.workspace = before.workspace ∧
          after.stdout = before.stdout ++ text.withoutStyles)
      (fun ending after => ending.Unprinted ∧ after = before) := by
  unfold print
  dsimp only
  split
  · exact ⟨.unprintable _, rfl⟩
  · exact ⟨rfl, rfl⟩

/-- Plain text is printed as it is. -/
theorem run_print_of_plain
    {text : Text}
    (plain : text.Plain) :
    (print text).run before =
      .ok () { before with stdout := before.stdout ++ text } := by
  have encodable : Utf8.faultAt 0 text = none :=
    Utf8.faultAt_eq_none_iff.mpr fun point member =>
      CodePoint.isSurrogate_of_isPlain (plain point member)
  unfold print
  dsimp only
  rw [plain.withoutStyles_eq, encodable]
  rfl

/-- What a check prints on standard output about the groups in excess. -/
def Announced
    (plan : Plan)
    (source : Text)
    (groups : List Excess)
    (printed : Text) :
    Prop :=
  match plan.format with
  | .human =>
      printed =
        if groups.isEmpty then
          Text.ofString "All errors are suppressed\n"
        else
          []
  | .json =>
      ∃ report,
        Report.machine
            (Report.checkToJson groups plan.store.toText source) =
          .ok report ∧
        printed = report ++ "\n"

/-- The groups in excess are announced, or they cannot be put into words. -/
theorem guarantees_reportExcess
    (plan : Plan)
    (source : Text)
    (groups : List Excess) :
    Guarantees (reportExcess plan source groups) before
      (fun _ after =>
        after.workspace = before.workspace ∧
          ∃ printed,
            Announced plan source groups printed ∧
              after.stdout = before.stdout ++ printed)
      (fun ending after =>
        ending.Unprinted ∧ after.workspace = before.workspace) := by
  unfold reportExcess Announced
  cases plan.format with
  | json =>
      dsimp only
      cases wrote :
          Report.machine
            (Report.checkToJson groups plan.store.toText source) with
      | error fault =>
          exact ⟨.numeral fault, rfl⟩
      | ok report =>
          have plain : Text.Plain (report ++ "\n") :=
            (Report.machine_of_reportable (Report.reportable_checkToJson _ _ _)
              wrote).1.plain.append (by decide)
          refine Guarantees.imp (guarantees_print _) ?_ ?_
          · rintro _ after ⟨sameWorkspace, printed⟩
            rw [plain.withoutStyles_eq] at printed
            exact ⟨sameWorkspace, _, ⟨report, rfl, rfl⟩, printed⟩
          · rintro ending _ ⟨unprinted, rfl⟩
            exact ⟨unprinted, rfl⟩
  | human =>
      dsimp only
      split
      · have shown :
            (Report.success ++ "\n").withoutStyles =
              Text.ofString "All errors are suppressed\n" := by
          decide
        refine Guarantees.imp (guarantees_print _) ?_ ?_
        · rintro _ after ⟨sameWorkspace, printed⟩
          rw [shown] at printed
          exact ⟨sameWorkspace, _, rfl, printed⟩
        · rintro ending _ ⟨unprinted, rfl⟩
          exact ⟨unprinted, rfl⟩
      · refine Guarantees.get_bind ?_
        cases
            (Report.human before.workspace plan.showCode groups
              plan.machine.memory).run {} with
        | error fault =>
            exact ⟨.report fault, rfl⟩
        | ok written =>
            exact ⟨rfl, [], rfl, (List.append_nil _).symm⟩

end CommandLine

end Tolerance
