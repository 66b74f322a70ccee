import Mathlib.Tactic.MkIffOfInductiveProp
import Tolerance.Proofs.Occurrences
import Tolerance.Proofs.Outcome
import Tolerance.Proofs.Text.Numeral
import Tolerance.Report.Human

namespace Tolerance

/-!
# What can stand in a report

A number in a report has no more digits than are written, and a pointer stands
no further right than there is memory for.  Each part of a report is written
exactly if this is so of the numbers and the pointer in it.
-/

open Outcome

namespace Text

variable {separator : Text} {front back : List Text}

theorem join_cons
    {first : Text}
    (someBack : back ≠ []) :
    join separator (first :: back) = first ++ separator ++ join separator back := by
  cases back with
  | nil => exact (someBack rfl).elim
  | cons second later => rfl

/-- Two joined lists have the separator between them. -/
theorem join_append
    (someFront : front ≠ [])
    (someBack : back ≠ []) :
    join separator (front ++ back) =
      join separator front ++ separator ++ join separator back := by
  induction front with
  | nil =>
      exact (someFront rfl).elim
  | cons first rest inductionHypothesis =>
      cases rest with
      | nil =>
          exact join_cons someBack
      | cons second later =>
          have someRest := List.cons_ne_nil second later
          rw [List.cons_append, join_cons (by simp), inductionHypothesis someRest,
            join_cons someRest]
          simp only [List.append_assoc]

/-- A text takes up whole lines inside another one. -/
def FillsLinesIn (lines whole : Text) : Prop :=
  ∃ front back, whole = front ++ "\n" ++ lines ++ "\n" ++ back

/-- Of texts that are joined line by line each one but the first and the last fills lines. -/
theorem fillsLinesIn_join
    {lines : Text}
    {between : List Text}
    (someFront : front ≠ [])
    (someBack : back ≠ [])
    (member : lines ∈ between) :
    lines.FillsLinesIn (join "\n" (front ++ between ++ back)) := by
  obtain ⟨earlier, later, rfl⟩ := List.append_of_mem member
  have regrouped :
      front ++ (earlier ++ lines :: later) ++ back =
        (front ++ earlier) ++ (lines :: (later ++ back)) := by
    simp
  rw [regrouped, join_append (by simp [someFront]) (by simp),
    join_cons (by simp [someBack])]
  refine ⟨join "\n" (front ++ earlier), join "\n" (later ++ back), ?_⟩
  simp only [List.append_assoc]

end Text

namespace Report

/-! ## Numbers and places -/

/-- A number with no more digits than are written. -/
def Writable (number : Int) : Prop :=
  number.natAbs < Numeral.bound

instance (number : Int) : Decidable (Writable number) :=
  inferInstanceAs (Decidable (number.natAbs < Numeral.bound))

private theorem writable_iff
    {number : Int} :
    Writable number ↔ ∃ written, Numeral.write number = .ok written := by
  simp only [Numeral.write_eq_ok_iff, exists_and_left, exists_eq, and_true]
  exact Iff.rfl

private theorem givenIff_write
    (value : Int) :
    GivenIff (Writable value) (fun _ => True) (Numeral.write value) := by
  rw [writable_iff]
  cases Numeral.write value with
  | ok text => exact .value text ⟨text, rfl⟩ trivial
  | error fault => exact .failure fault (by simp)

theorem givenIff_number
    (value : Int) :
    GivenIff (Writable value) (fun _ => True) (number value) := by
  unfold number
  exact (givenIff_write value).mapError _

/-- A number is written with all its digits. -/
theorem number_eq_ok_iff
    {value : Int}
    {written : Text} :
    number value = .ok written ↔
      Writable value ∧ written = Numeral.ofInt value := by
  have same :
      number value = .ok written ↔ Numeral.write value = .ok written := by
    unfold number
    cases Numeral.write value <;> simp [Except.mapError]
  rw [same, Numeral.write_eq_ok_iff, Writable]

/-- The line and the column of a diagnostic can be written. -/
def Locatable (diagnostic : Diagnostic) : Prop :=
  ∀ line,
    diagnostic.line = some line →
      Writable line ∧ Writable (diagnostic.column.getD 0)

instance (diagnostic : Diagnostic) : Decidable (Locatable diagnostic) :=
  inferInstanceAs
    (Decidable
      (∀ line ∈ diagnostic.line,
        Writable line ∧ Writable (diagnostic.column.getD 0)))

theorem givenIff_location
    (diagnostic : Diagnostic) :
    GivenIff (Locatable diagnostic) (fun _ => True) (location diagnostic) := by
  refine GivenIff.mapError ?_ _
  unfold Diagnostic.location Locatable
  cases diagnostic.line with
  | none =>
      exact .value _ (by simp) trivial
  | some line =>
      refine GivenIff.imp
        ((givenIff_write line).bind fun _ _ =>
          (givenIff_write (diagnostic.column.getD 0)).map fun _ _ => trivial)
        ?_ fun _ => id
      simp

theorem givenIff_brief
    (diagnostic : Diagnostic) :
    GivenIff (Locatable diagnostic) (fun shown => brief diagnostic = .ok shown)
      (brief diagnostic) := by
  have given :
      GivenIff (Locatable diagnostic ∧ True) (fun _ => True) (brief diagnostic) := by
    refine (givenIff_location diagnostic).bind fun place _ => ?_
    dsimp only
    split
    · split
      · exact .pure trivial
      · exact .pure trivial
    · exact .pure trivial
  exact given.self.imp (and_iff_left trivial) fun _ => id

theorem givenIff_briefAll
    (diagnostics : List Diagnostic) :
    GivenIff (∀ diagnostic ∈ diagnostics, Locatable diagnostic)
      (fun lines =>
        ∀ diagnostic ∈ diagnostics, ∃ shown ∈ lines, brief diagnostic = .ok shown)
      (briefAll diagnostics) := by
  induction diagnostics with
  | nil =>
      exact .value _ (by simp) (by simp)
  | cons diagnostic rest inductionHypothesis =>
      refine GivenIff.imp ?_ List.forall_mem_cons.symm fun _ => id
      exact (givenIff_brief diagnostic).bind fun shown isBrief =>
        inductionHypothesis.map fun others named =>
          List.forall_mem_cons.mpr
            ⟨⟨shown, List.mem_cons_self, isBrief⟩, fun other member =>
              have ⟨line, inOthers, isLine⟩ := named other member
              ⟨line, List.mem_cons_of_mem _ inOthers, isLine⟩⟩

/-! ## Excerpts -/

private theorem givenIff_numberedLine
    (line : Int)
    (text : Text) :
    GivenIff (Writable line) (fun _ => True) (numberedLine line text) :=
  (givenIff_number line).map fun _ _ => trivial

private theorem givenIff_numberedLines
    (first : Int)
    (texts : List Text) :
    GivenIff
      (∀ line, first ≤ line → line < first + texts.length → Writable line)
      (fun _ => True) (numberedLines first texts) := by
  induction texts generalizing first with
  | nil =>
      refine .value _ (fun line notBefore before => ?_) trivial
      simp only [List.length_nil, Int.natCast_zero] at before
      omega
  | cons text rest inductionHypothesis =>
      refine GivenIff.imp
        ((givenIff_numberedLine first text).bind fun _ _ =>
          (inductionHypothesis (first + 1)).map fun _ _ => trivial)
        ?_ fun _ => id
      rw [List.length_cons]
      constructor
      · rintro ⟨firstWritable, restWritable⟩ line notBefore before
        rcases Int.lt_or_eq_of_le notBefore with later | rfl
        · exact restWritable line (by omega) (by omega)
        · exact firstWritable
      · intro writable
        exact
          ⟨writable first (by omega) (by omega),
            fun line notBefore before => writable line (by omega) (by omega)⟩

/-- A text can have all the blanks in front of a pointer, and there is memory for them. -/
def Pointable (memory : Nat) (column : Int) : Prop :=
  marginWidth + (column - 1).toNat < min textLengthBound memory

instance (memory : Nat) (column : Int) : Decidable (Pointable memory column) :=
  inferInstanceAs
    (Decidable (marginWidth + (column - 1).toNat < min textLengthBound memory))

private theorem givenIff_pointerIndent
    (memory : Nat)
    (column : Int) :
    GivenIff (Pointable memory column) (fun _ => True)
      (pointerIndent memory column) := by
  unfold pointerIndent Pointable
  dsimp only
  split
  · exact .failure _ (by omega)
  split
  · exact .failure _ (by omega)
  · exact .value _ (by omega) trivial

private theorem givenIff_pointerLine
    (memory : Nat)
    (column : Int)
    (message : Text) :
    GivenIff (Pointable memory column) (fun _ => True)
      (pointerLine memory column message) :=
  (givenIff_pointerIndent memory column).map fun _ _ => trivial

/-- The numbers of an excerpt's lines can be written, and so can its pointer. -/
structure PrintableExcerpt (memory : Nat) (found : Excerpt) : Prop where
  numbers :
    ∀ line,
      found.firstLine ≤ line →
      line ≤ found.line + found.after.length →
      Writable line
  pointer : Pointable memory found.column

private theorem givenIff_excerptLines
    (memory : Nat)
    (found : Excerpt)
    (diagnostic : Diagnostic) :
    GivenIff (Locatable diagnostic ∧ PrintableExcerpt memory found) (fun _ => True)
      (excerptLines memory found diagnostic) := by
  refine GivenIff.imp
    ((givenIff_location diagnostic).bind fun _ _ =>
      (givenIff_numberedLines found.firstLine found.before).bind fun _ _ =>
        (givenIff_numberedLine found.line found.target).bind fun _ _ =>
          (givenIff_pointerLine memory found.column diagnostic.message).bind fun _ _ =>
            (givenIff_numberedLines (found.line + 1) found.after).map fun _ _ => trivial)
    ?_ fun _ => id
  have first : found.firstLine = found.line - found.before.length := rfl
  refine and_congr_right fun _ => ⟨?_, ?_⟩
  · rintro ⟨before, target, pointer, after⟩
    refine ⟨fun line notBefore notAfter => ?_, pointer⟩
    rcases Int.lt_trichotomy line found.line with earlier | rfl | later
    · exact before line notBefore (by omega)
    · exact target
    · exact after line (by omega) (by omega)
  · rintro ⟨numbers, pointer⟩
    exact
      ⟨fun line notBefore before => numbers line notBefore (by omega),
        numbers _ (by omega) (by omega), pointer,
        fun line notBefore before => numbers line (by omega) (by omega)⟩

theorem givenIff_excerpt
    (memory : Nat)
    (found : Excerpt)
    (diagnostic : Diagnostic) :
    GivenIff (Locatable diagnostic ∧ PrintableExcerpt memory found) (fun _ => True)
      (excerpt found diagnostic memory) :=
  (givenIff_excerptLines memory found diagnostic).map fun _ _ => trivial

/-! ## Counts -/

/-- The counts in the heading of a group can be written. -/
@[mk_iff]
structure Countable (group : Excess) : Prop where
  amount : Writable group.amount
  expected : Writable group.expected
  actual : Writable group.actual

theorem givenIff_groupHeading
    (group : Excess) :
    GivenIff (Countable group) (fun _ => True) (groupHeading group) := by
  refine GivenIff.imp
    ((givenIff_number group.amount).bind fun _ _ =>
      (givenIff_number group.expected).bind fun _ _ =>
        (givenIff_number group.actual).map fun _ _ => trivial)
    (countable_iff group).symm fun _ => id

/-- The groups of a report can be counted one by one and altogether. -/
structure CountableGroups (groups : List Excess) : Prop where
  each : ∀ group ∈ groups, Countable group
  total : Writable (Excess.totalAmount groups)

theorem givenIff_summaryLines
    (groups : List Excess) :
    GivenIff (Writable (Excess.totalAmount groups)) (· ≠ [])
      (summaryLines groups) :=
  (givenIff_number _).map fun _ _ => List.cons_ne_nil _ _

/-- Groups in excess of a baseline are no larger than what was seen, so they can be counted. -/
theorem countableGroups_excess
    {baseline : Baseline}
    {diagnostics : List Diagnostic}
    (nonnegative : baseline.Nonnegative)
    (few : diagnostics.length < Numeral.bound) :
    CountableGroups (baseline.excess diagnostics) := by
  have writable
      {number : Int}
      (notNegative : 0 ≤ number)
      (atMost : number ≤ diagnostics.length) :
      Writable number := by
    unfold Writable
    omega
  constructor
  · intro group reported
    obtain ⟨_, _, actual, expected, tooMany⟩ := Baseline.mem_excess_iff.mp reported
    have tolerated := nonnegative.count group.filename group.rule
    have seen : Diagnostic.occurrences diagnostics group.filename group.rule ≤
        diagnostics.length :=
      List.length_filter_le _ _
    exact
      ⟨writable (by rw [Excess.amount]; omega) (by rw [Excess.amount]; omega),
        writable (by omega) (by omega), writable (by omega) (by omega)⟩
  · have bounds := Baseline.totalAmount_excess_bounds nonnegative diagnostics
    exact writable bounds.1 bounds.2

end Report

end Tolerance
