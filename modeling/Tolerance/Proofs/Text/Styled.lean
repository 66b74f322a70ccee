import Tolerance.Proofs.Json.Plain

namespace Tolerance

/-!
# Styles taken out

Taking the styles out of a text that is followed by another one is the same as
taking them out of both, unless a control sequence at the end of the first could
go on in the second.  So a styled piece of text leaves the text itself, and a
text that is joined line by line can be freed of its styles line by line.
-/

namespace Text

/-! ## Where control sequences end -/

/-- A code point that may stand behind the escape in a control sequence. -/
def continuesSequence (point : CodePoint) : Bool :=
  point == 0x5b || isSequenceParameter point || isSequenceEnd point

/-- No control sequence in front of a text goes on in it. -/
def StartsApart (text : Text) : Prop :=
  ∀ point ∈ text.head?, continuesSequence point = false

theorem startsApart_cons_iff
    {point : CodePoint}
    {rest : Text} :
    StartsApart (point :: rest) ↔ continuesSequence point = false := by
  simp [StartsApart]

/-- The end of a control sequence is looked for behind its parameters. -/
private theorem sequenceLength?_bracket (rest : Text) :
    sequenceLength? (0x5b :: rest) =
      match rest.dropWhile isSequenceParameter with
      | point :: _ =>
          if isSequenceEnd point then
            some ((rest.takeWhile isSequenceParameter).length + 2)
          else
            none
      | [] => none := by
  have behind :
      rest.drop (rest.takeWhile isSequenceParameter).length =
        rest.dropWhile isSequenceParameter := by
    have whole :=
      List.takeWhile_append_dropWhile (p := isSequenceParameter) (l := rest)
    conv_lhs =>
      arg 2
      rw [← whole]
    exact List.drop_left
  cases last : rest.dropWhile isSequenceParameter <;>
    simp only [sequenceLength?, behind, last]

private theorem sequenceLength?_of_ne
    {point : CodePoint}
    (noBracket : point ≠ 0x5b)
    (rest : Text) :
    sequenceLength? (point :: rest) = none := by
  unfold sequenceLength?
  split
  · next same => exact (noBracket (List.cons.inj same).1).elim
  · rfl

/-- A control sequence does not reach beyond the end of its text. -/
theorem le_length_of_sequenceLength?
    {text : Text}
    {length : Nat}
    (found : sequenceLength? text = some length) :
    length ≤ text.length := by
  rcases text with _ | ⟨point, rest⟩
  · cases found
  by_cases bracket : point = 0x5b
  · subst bracket
    have total :=
      congrArg List.length
        (List.takeWhile_append_dropWhile (p := isSequenceParameter) (l := rest))
    rw [sequenceLength?_bracket] at found
    rw [List.length_append] at total
    split at found
    · next last later behind =>
        split at found
        · cases found
          rw [behind, List.length_cons] at total
          rw [List.length_cons]
          omega
        · cases found
    · cases found
  · rw [sequenceLength?_of_ne bracket] at found
    cases found

/-- What follows a text does not turn its end into a control sequence. -/
theorem sequenceLength?_append
    (left : Text)
    {right : Text}
    (apart : right.StartsApart) :
    sequenceLength? (left ++ right) = sequenceLength? left := by
  rcases right with _ | ⟨next, later⟩
  · rw [List.append_nil]
  have notContinued := startsApart_cons_iff.mp apart
  simp only [continuesSequence, Bool.or_eq_false_iff, beq_eq_false_iff_ne]
    at notContinued
  obtain ⟨⟨noBracket, noParameter⟩, noEnd⟩ := notContinued
  rcases left with _ | ⟨point, rest⟩
  · exact sequenceLength?_of_ne noBracket later
  rw [List.cons_append]
  by_cases bracket : point = 0x5b
  · subst bracket
    rw [sequenceLength?_bracket, sequenceLength?_bracket, List.dropWhile_append,
      List.takeWhile_append]
    cases behind : rest.dropWhile isSequenceParameter with
    | nil => simp [noParameter, noEnd]
    | cons last more =>
        have shorter :
            (rest.takeWhile isSequenceParameter).length ≠ rest.length := by
          intro same
          have total :=
            congrArg List.length
              (List.takeWhile_append_dropWhile (p := isSequenceParameter)
                (l := rest))
          rw [List.length_append, behind, List.length_cons] at total
          omega
        simp [shorter]
  · rw [sequenceLength?_of_ne bracket, sequenceLength?_of_ne bracket]

/-! ## Texts one after the other -/

/-- Code points are dropped first, and the styles are taken out of the rest. -/
private theorem withoutSequences_eq
    (skip : Nat)
    (text : Text) :
    withoutSequences skip text = withoutStyles (text.drop skip) := by
  induction text generalizing skip with
  | nil => simp [withoutStyles, withoutSequences]
  | cons point rest inductionHypothesis =>
      cases skip with
      | zero => rfl
      | succ skip => exact inductionHypothesis skip

/--
Styles are taken out of two texts one by one if no control sequence goes on from
one to the other.  The induction is on the first text, of which some code points
may belong to a control sequence that is being dropped.
-/
private theorem withoutSequences_append
    (left : Text)
    {right : Text}
    {skip : Nat}
    (apart : right.StartsApart)
    (within : skip ≤ left.length) :
    withoutSequences skip (left ++ right) =
      withoutSequences skip left ++ right.withoutStyles := by
  induction left generalizing skip with
  | nil =>
      cases Nat.le_zero.mp within
      simp [withoutStyles, withoutSequences]
  | cons point rest inductionHypothesis =>
      rw [List.cons_append]
      cases skip with
      | succ skip =>
          exact inductionHypothesis (Nat.le_of_succ_le_succ within)
      | zero =>
          rw [withoutSequences, withoutSequences, sequenceLength?_append rest apart]
          split
          · split
            · next found =>
                exact inductionHypothesis (le_length_of_sequenceLength? found)
            · rw [inductionHypothesis (Nat.zero_le _), List.cons_append]
          · rw [inductionHypothesis (Nat.zero_le _), List.cons_append]

/-- Styles are taken out of two texts one by one if no control sequence joins them. -/
theorem withoutStyles_append
    (left : Text)
    {right : Text}
    (apart : right.StartsApart) :
    (left ++ right).withoutStyles = left.withoutStyles ++ right.withoutStyles :=
  withoutSequences_append left apart (Nat.zero_le _)

/-- Styles are taken out line by line. -/
theorem withoutStyles_join (lines : List Text) :
    (join "\n" lines).withoutStyles = join "\n" (lines.map withoutStyles) := by
  induction lines with
  | nil => rfl
  | cons first rest inductionHypothesis =>
      cases rest with
      | nil => rfl
      | cons second later =>
          have lineFeed : Plain "\n" := by decide
          have apart : StartsApart ("\n" ++ join "\n" (second :: later)) :=
            startsApart_cons_iff.mpr (by decide)
          calc
            (join "\n" (first :: second :: later)).withoutStyles
                = (first ++ ("\n" ++ join "\n" (second :: later))).withoutStyles := by
              rw [← List.append_assoc]
              rfl
            _ = first.withoutStyles ++
                  ("\n" ++ join "\n" ((second :: later).map withoutStyles)) := by
              rw [withoutStyles_append first apart, lineFeed.withoutStyles_append,
                inductionHypothesis]
            _ = join "\n" ((first :: second :: later).map withoutStyles) := by
              rw [← List.append_assoc]
              rfl

/-- The digits of a number are plain, and so is its sign. -/
theorem plain_ofInt (number : Int) : Plain (Numeral.ofInt number) :=
  (Json.admits_ofInt .indented number).plain

end Text

namespace Style

open Text

/-- A control sequence is taken out. -/
private theorem withoutStyles_sequence_append
    {parameter : Text}
    (allowed : parameter.all isSequenceParameter = true)
    (rest : Text) :
    (sequence parameter ++ rest).withoutStyles = rest.withoutStyles := by
  have allowed := List.all_eq_true.mp allowed
  have noParameter : isSequenceParameter ('m' : Char) = false := by decide
  have isEnd : isSequenceEnd ('m' : Char) = true := by decide
  have parameters :
      (parameter ++ (('m' : Char) : CodePoint) :: rest).takeWhile
          isSequenceParameter =
        parameter := by
    simp [List.takeWhile_append_of_pos allowed, noParameter]
  have behind :
      (parameter ++ (('m' : Char) : CodePoint) :: rest).dropWhile
          isSequenceParameter =
        (('m' : Char) : CodePoint) :: rest := by
    simp [List.dropWhile_append_of_pos allowed, noParameter]
  have shape :
      sequence parameter ++ rest =
        0x1b :: 0x5b :: (parameter ++ (('m' : Char) : CodePoint) :: rest) := by
    simp [sequence, ofString]
  rw [shape, withoutStyles, withoutSequences, if_pos rfl,
    sequenceLength?_bracket, behind, parameters]
  simp [isEnd, withoutSequences_eq]

/-- No control sequence goes on in the next one. -/
private theorem startsApart_sequence (parameter rest : Text) :
    StartsApart (sequence parameter ++ rest) := by
  intro point isFirst
  have escape : point = 0x1b := (Option.mem_some.mp isFirst).symm
  rw [escape]
  decide

/-- A styled piece of text leaves the text itself. -/
theorem withoutStyles_apply_append
    (style : Style)
    (text rest : Text) :
    (style.apply text ++ rest).withoutStyles =
      text.withoutStyles ++ rest.withoutStyles := by
  have off : (ofString "0").all isSequenceParameter = true := by
    decide
  have boldOn : (ofString "1").all isSequenceParameter = true := by
    decide
  have dimOn : (ofString "2").all isSequenceParameter = true := by
    decide
  have colourOn (colour : Colour) :
      colour.code.all isSequenceParameter = true := by
    cases colour <;> decide
  have inside :
      (text ++ (sequence "0" ++ rest)).withoutStyles =
        text.withoutStyles ++ rest.withoutStyles := by
    rw [withoutStyles_append text (startsApart_sequence _ rest),
      withoutStyles_sequence_append off]
  obtain ⟨colour, bold, dim⟩ := style
  rw [← inside]
  cases colour <;> cases bold <;> cases dim <;>
    simp [apply, withoutStyles_sequence_append boldOn,
      withoutStyles_sequence_append dimOn,
      fun colour => withoutStyles_sequence_append (colourOn colour)]

end Style

end Tolerance
