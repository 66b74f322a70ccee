import Tolerance.Proofs.Excerpt
import Tolerance.Proofs.Text.Styled

namespace Tolerance

/-!
# Where the pointer stands

A line of an excerpt stands behind a margin: its number, at least four wide, and
a bar.  The pointer is indented as if no number had more than four digits.  So it
stands under the reported column up to line 9999, and behind that it stands too
far left by each digit more.
-/

namespace Text

theorem plain_replicate
    (count : Nat)
    {point : CodePoint}
    (plain : point.isPlain = true) :
    Plain (List.replicate count point) := by
  intro other member
  rw [List.eq_of_mem_replicate member]
  exact plain

/-- A text that is filled up with blanks has its width, unless it is wider itself. -/
theorem length_padLeft
    (width : Nat)
    (text : Text) :
    (text.padLeft width).length = max width text.length := by
  rw [padLeft, List.length_append, List.length_replicate]
  omega

end Text

namespace Report

open Text

/-- A margin without its styles. -/
theorem withoutStyles_margin_append
    (line : Int)
    (text : Text) :
    (margin line ++ text).withoutStyles =
      (Numeral.ofInt line).padLeft 4 ++ " | " ++ text.withoutStyles := by
  have blank : CodePoint.isPlain 0x20 = true := by decide
  have digits : Plain ((Numeral.ofInt line).padLeft 4) :=
    (plain_replicate _ blank).append (plain_ofInt line)
  have between : Plain " | " := by decide
  rw [margin, bar, List.append_assoc, Style.withoutStyles_apply_append,
    Style.withoutStyles_apply_append, digits.withoutStyles_eq,
    between.withoutStyles_eq, List.append_assoc]

/-- The blanks in front of a pointer leave room for a margin of seven and the column. -/
theorem eq_of_pointerLine_eq_ok
    {memory : Nat}
    {column : Int}
    {message shown : Text}
    (wrote : pointerLine memory column message = .ok shown) :
    shown =
      List.replicate (marginWidth + (column - 1).toNat) 0x20 ++
        (Style.coloured .magenta).apply
          (List.replicate (pointerWidth message) 0x2d) := by
  unfold pointerLine pointerIndent at wrote
  dsimp only at wrote
  split at wrote
  · cases wrote
  split at wrote
  · cases wrote
  · cases wrote
    rfl

/-- A pointer line without its styles is blanks and dashes. -/
theorem withoutStyles_of_pointerLine
    {memory : Nat}
    {column : Int}
    {message shown : Text}
    (wrote : pointerLine memory column message = .ok shown) :
    shown.withoutStyles =
      List.replicate (marginWidth + (column - 1).toNat) 0x20 ++
        List.replicate (pointerWidth message) 0x2d := by
  have blanks (count : Nat) : Plain (List.replicate count 0x20) :=
    plain_replicate count (by decide)
  have dashes (count : Nat) : Plain (List.replicate count 0x2d) :=
    plain_replicate count (by decide)
  have nothing : withoutStyles [] = [] := rfl
  have pointer :=
    Style.withoutStyles_apply_append (Style.coloured .magenta)
      (List.replicate (pointerWidth message) 0x2d) []
  rw [(dashes _).withoutStyles_eq, nothing, List.append_nil, List.append_nil]
    at pointer
  rw [eq_of_pointerLine_eq_ok wrote, (blanks _).withoutStyles_append, pointer]

/-- A line's number is no wider than the margin allows for below 10000. -/
private theorem length_ofInt_le_four_iff
    {line : Int}
    (positive : 1 ≤ line) :
    (Numeral.ofInt line).length ≤ 4 ↔ line < 10000 := by
  obtain ⟨number, rfl⟩ : ∃ number : Nat, line = number :=
    ⟨line.toNat, by omega⟩
  have four : Nat.pow 10 4 = 10000 := by decide
  have digits :
      (Numeral.ofNat number).length ≤ 4 ↔ number < Nat.pow 10 4 :=
    Numeral.length_ofNat_le_iff (by decide)
  rw [four] at digits
  exact digits.trans (by omega)

/--
An excerpt is shown exactly if its place and its numbers can be written and there
is memory for the blanks in front of the pointer.  Without the styles the pointer
is then the line right behind the diagnosed one, and it is blanks and then
dashes.  The first dash stands too far left of the reported column by as many
places as the line's number has digits beyond the fourth, so it stands under the
column exactly if the number has no more than four digits.
-/
theorem pointer_is_under_column_iff
    (found : Excerpt)
    (diagnostic : Diagnostic)
    (positive : 1 ≤ found.line)
    (memory : Nat) :
    ((∃ shown, excerpt found diagnostic memory = .ok shown) ↔
        Locatable diagnostic ∧ PrintableExcerpt memory found) ∧
      ∀ shown,
        excerpt found diagnostic memory = .ok shown →
        ∃ above below margin indent width,
          shown.withoutStyles =
              join "\n"
                (above ++
                  [margin ++ found.target.withoutStyles,
                    List.replicate indent 0x20 ++ List.replicate width 0x2d] ++
                  below) ∧
            above.length = found.before.length + 2 ∧
            margin = (Numeral.ofInt found.line).padLeft 4 ++ " | " ∧
            0 < width ∧
            margin.length + (found.column - 1).toNat =
              indent + ((Numeral.ofInt found.line).length - 4) ∧
            (indent = margin.length + (found.column - 1).toNat ↔
              found.line < 10000) := by
  refine
    ⟨(givenIff_excerpt memory found diagnostic).exists_eq_ok_iff, fun shown wrote => ?_⟩
  obtain
    ⟨place, above, target, pointer, below, _, numberedAbove, numbered, pointed, _,
      rfl⟩ := exists_parts_of_excerpt_eq_ok wrote
  obtain ⟨-, rfl⟩ := numberedLine_eq_ok_iff.mp numbered
  have width : 0 < pointerWidth diagnostic.message :=
    Nat.lt_of_lt_of_le Nat.zero_lt_one (Nat.le_max_left _ _)
  have marginLength :
      ((Numeral.ofInt found.line).padLeft 4 ++ " | ").length =
        max 4 (Numeral.ofInt found.line).length + 3 := by
    rw [List.length_append, length_padLeft]
    rfl
  have short := length_ofInt_le_four_iff positive
  refine
    ⟨(opening diagnostic place ++ above).map withoutStyles,
      (below ++ closing diagnostic).map withoutStyles, _,
      marginWidth + (found.column - 1).toNat, _, ?_, ?_, rfl, width, ?_, ?_⟩
  · rw [withoutStyles_join, ← withoutStyles_margin_append,
      ← withoutStyles_of_pointerLine pointed]
    simp only [List.map_append, List.map_cons, List.map_nil, List.append_assoc]
  · rw [List.length_map, List.length_append, length_of_numberedLines numberedAbove,
      Nat.add_comm]
    rfl
  · rw [marginLength, marginWidth]
    omega
  · rw [marginLength, marginWidth]
    omega

/-- The last line whose pointer stands under the column. -/
theorem pointer_is_under_column_of_line_9999 :
    let found : Excerpt := { line := 9999, column := 5, target := "let x" }
    let diagnostic : Diagnostic := {
      filename := "a.ts"
      rule := "no-let"
      line := some 9999
      column := some 5
    }
    1 ≤ found.line ∧
      ∃ shown,
        excerpt found diagnostic = .ok shown ∧
          ∃ above below margin width,
            shown.withoutStyles =
                join "\n"
                  (above ++
                    [margin ++ found.target.withoutStyles,
                      List.replicate (margin.length + 4) 0x20 ++
                        List.replicate width 0x2d] ++
                    below) ∧
              margin = padLeft 4 "9999" ++ " | " ∧
              0 < width := by
  intro found diagnostic
  have positive : 1 ≤ found.line := by decide
  obtain ⟨canBeShown, pointed⟩ :=
    pointer_is_under_column_iff found diagnostic positive usualMemory
  have located : Locatable diagnostic := by decide +kernel
  have printable : PrintableExcerpt usualMemory found := by
    refine ⟨fun line notBefore notAfter => ?_, by decide +kernel⟩
    obtain rfl : line = 9999 := Int.le_antisymm notAfter notBefore
    decide +kernel
  obtain ⟨shown, wrote⟩ := canBeShown.mpr ⟨located, printable⟩
  obtain
    ⟨above, below, margin, indent, width, unstyled, _, isMargin, someDash, _,
      underColumn⟩ := pointed shown wrote
  obtain rfl := underColumn.mpr (by decide)
  have digits : Numeral.ofInt 9999 = ofString "9999" := by decide +kernel
  exact
    ⟨positive, shown, wrote, above, below, margin, width, unstyled,
      isMargin.trans (by rw [digits]), someDash⟩

/-- From the first number of five digits on the pointer stands left of the column. -/
theorem pointer_is_too_far_left_at_line_10000 :
    let found : Excerpt := { line := 10000, column := 1, target := "x" }
    let diagnostic : Diagnostic := {
      filename := "a.ts"
      rule := "no-var"
      message := "m"
      line := some 10000
      column := some 1
    }
    let margin : Text := "10000 | "
    let lines : List Text := [
      "  x no-var: m",
      "     ,-[a.ts:10000:1]",
      margin ++ found.target,
      List.replicate 7 0x20 ++ [0x2d],
      "     `----"]
    (excerpt found diagnostic).toOption.map withoutStyles =
        some (join "\n" lines) ∧
      7 ≠ margin.length + (found.column - 1).toNat := by
  decide +kernel

end Report

end Tolerance
