import Mathlib.Data.List.TakeWhile
import Tolerance.Text.Blank
import Tolerance.Text.Line

namespace Tolerance.Text

/-!
# Line endings made equal

Making the line endings equal changes a text only where there is a carriage
return.  What is taken from the front of a text by a test that no line ending
passes, or that all of them pass, is the same whichever way its lines end.
-/

/-- Where there is no carriage return, a text goes on as it does behind it. -/
theorem unifyLineEndings_cons
    {point : CodePoint}
    (notReturn : point ≠ 0x0d)
    (text : Text) :
    unifyLineEndings (point :: text) = point :: text.unifyLineEndings := by
  rw [unifyLineEndings]
  · intro _ isReturn
    exact (notReturn isReturn).elim
  · exact notReturn

/-- A carriage return becomes a line feed, with the line feed behind it if there is one. -/
theorem exists_unifyLineEndings_return (text : Text) :
    ∃ later, unifyLineEndings (0x0d :: text) = 0x0a :: later := by
  by_cases feed : ∃ rest, text = 0x0a :: rest
  · obtain ⟨rest, rfl⟩ := feed
    exact ⟨_, unifyLineEndings.eq_2 rest⟩
  · exact
      ⟨_, unifyLineEndings.eq_3 text fun rest same => feed ⟨rest, same⟩⟩

/-- What begins with no line feed then began so before. -/
theorem exists_eq_cons_of_unifyLineEndings
    {text later : Text}
    {point : CodePoint}
    (notFeed : point ≠ 0x0a)
    (unified : text.unifyLineEndings = point :: later) :
    ∃ rest, text = point :: rest ∧ later = unifyLineEndings rest := by
  rcases text with _ | ⟨first, rest⟩
  · cases unified
  by_cases isReturn : first = 0x0d
  · subst isReturn
    obtain ⟨other, unifiedReturn⟩ := exists_unifyLineEndings_return rest
    rw [unifiedReturn] at unified
    exact (notFeed (List.cons.inj unified).1.symm).elim
  · rw [unifyLineEndings_cons isReturn] at unified
    cases unified
    exact ⟨rest, rfl, rfl⟩

theorem unifyLineEndings_append
    {left : Text}
    (noReturn : 0x0d ∉ left)
    (right : Text) :
    (left ++ right).unifyLineEndings = left ++ right.unifyLineEndings := by
  induction left with
  | nil =>
      rfl
  | cons point later inductionHypothesis =>
      have notReturn := List.ne_of_not_mem_cons noReturn
      have laterNoReturn := List.not_mem_of_not_mem_cons noReturn
      rw [List.cons_append, unifyLineEndings_cons notReturn.symm,
        inductionHypothesis laterNoReturn, List.cons_append]

/-- What begins with a text without line feeds then began with it before. -/
theorem exists_eq_append_of_unifyLineEndings
    {left text later : Text}
    (noFeed : 0x0a ∉ left)
    (unified : text.unifyLineEndings = left ++ later) :
    ∃ rest, text = left ++ rest ∧ later = unifyLineEndings rest := by
  induction left generalizing text with
  | nil =>
      exact ⟨text, rfl, unified.symm⟩
  | cons point left inductionHypothesis =>
      have notFeed := List.ne_of_not_mem_cons noFeed
      obtain ⟨others, rfl, same⟩ :=
        exists_eq_cons_of_unifyLineEndings notFeed.symm unified
      obtain ⟨rest, rfl, sameLater⟩ :=
        inductionHypothesis (List.not_mem_of_not_mem_cons noFeed) same.symm
      exact ⟨rest, rfl, sameLater⟩

theorem unifyLineEndings_eq_nil_iff
    {text : Text} :
    text.unifyLineEndings = [] ↔ text = [] := by
  constructor
  · intro unified
    rcases text with _ | ⟨point, rest⟩
    · rfl
    by_cases isReturn : point = 0x0d
    · subst isReturn
      obtain ⟨later, unifiedReturn⟩ := exists_unifyLineEndings_return rest
      rw [unifiedReturn] at unified
      cases unified
    · rw [unifyLineEndings_cons isReturn] at unified
      cases unified
  · rintro rfl
    rfl

/-- A text without carriage returns has its line endings equal already. -/
theorem unifyLineEndings_eq_self
    {text : Text}
    (noReturn : 0x0d ∉ text) :
    text.unifyLineEndings = text := by
  simpa [unifyLineEndings] using unifyLineEndings_append noReturn []

theorem length_unifyLineEndings_le (text : Text) :
    text.unifyLineEndings.length ≤ text.length := by
  induction text using unifyLineEndings.induct with
  | case1 => exact Nat.le_refl _
  | case2 rest inductionHypothesis =>
      simp only [unifyLineEndings, List.length_cons]
      omega
  | case3 rest _ inductionHypothesis =>
      rw [unifyLineEndings.eq_3 rest ‹_›]
      simpa using inductionHypothesis
  | case4 point rest _ notReturn inductionHypothesis =>
      rw [unifyLineEndings_cons notReturn]
      simpa using inductionHypothesis

/-- What the front of a text is freed of may be line endings of either kind. -/
theorem dropWhile_unifyLineEndings
    {passes : CodePoint → Bool}
    (alike : passes 0x0d = passes 0x0a)
    (text : Text) :
    text.unifyLineEndings.dropWhile passes =
      unifyLineEndings (text.dropWhile passes) := by
  induction text using unifyLineEndings.induct with
  | case1 => rfl
  | case2 rest inductionHypothesis =>
      cases feed : passes 0x0a with
      | true => simp [unifyLineEndings, alike, feed, inductionHypothesis]
      | false => simp [unifyLineEndings, alike, feed]
  | case3 rest notFeed inductionHypothesis =>
      have unified := unifyLineEndings.eq_3 rest notFeed
      cases feed : passes 0x0a with
      | true => simp [unified, alike, feed, inductionHypothesis]
      | false => simp [unified, alike, feed]
  | case4 point rest _ notReturn inductionHypothesis =>
      have unified := unifyLineEndings_cons notReturn rest
      cases passed : passes point with
      | true => simp [unified, passed, inductionHypothesis]
      | false => simp [unified, passed]

/-- A text of blanks only is one whichever way its lines end. -/
theorem isBlank_unifyLineEndings (text : Text) :
    text.unifyLineEndings.isBlank = text.isBlank := by
  have isBlank_iff (text : Text) :
      text.isBlank = true ↔ text.dropWhile CodePoint.isBlank = [] := by
    rw [isBlank, List.all_eq_true, List.dropWhile_eq_nil_iff]
  rw [Bool.eq_iff_iff, isBlank_iff, isBlank_iff,
    dropWhile_unifyLineEndings (by decide), unifyLineEndings_eq_nil_iff]

/-- What is taken from the front of a text holds no line ending. -/
theorem takeWhile_unifyLineEndings
    {passes : CodePoint → Bool}
    (noReturn : passes 0x0d = false)
    (noFeed : passes 0x0a = false)
    (text : Text) :
    text.unifyLineEndings.takeWhile passes = text.takeWhile passes := by
  induction text using unifyLineEndings.induct with
  | case1 => rfl
  | case2 rest inductionHypothesis =>
      simp [unifyLineEndings, noReturn, noFeed]
  | case3 rest notFeed inductionHypothesis =>
      simp [unifyLineEndings.eq_3 rest notFeed, noReturn, noFeed]
  | case4 point rest _ notReturn inductionHypothesis =>
      simp [unifyLineEndings_cons notReturn, List.takeWhile_cons,
        inductionHypothesis]

private theorem dropBeginning?_nil (text : Text) :
    text.dropBeginning? [] = some text := by
  cases text <;> rfl

/-- A beginning without line endings is dropped whichever way the lines end. -/
theorem dropBeginning?_unifyLineEndings
    {beginning : Text}
    (noReturn : 0x0d ∉ beginning)
    (noFeed : 0x0a ∉ beginning)
    (text : Text) :
    text.unifyLineEndings.dropBeginning? beginning =
      (text.dropBeginning? beginning).map unifyLineEndings := by
  induction beginning generalizing text with
  | nil =>
      simp only [dropBeginning?_nil, Option.map_some]
  | cons expected beginning inductionHypothesis =>
      have notReturn := List.ne_of_not_mem_cons noReturn
      have notFeed := List.ne_of_not_mem_cons noFeed
      have laterNoReturn := List.not_mem_of_not_mem_cons noReturn
      have laterNoFeed := List.not_mem_of_not_mem_cons noFeed
      rcases text with _ | ⟨point, rest⟩
      · rfl
      by_cases isReturn : point = 0x0d
      · subst isReturn
        obtain ⟨later, unified⟩ := exists_unifyLineEndings_return rest
        simp [unified, dropBeginning?, notReturn, notFeed]
      · rw [unifyLineEndings_cons isReturn, dropBeginning?, dropBeginning?,
          inductionHypothesis laterNoReturn laterNoFeed]
        split <;> rfl

end Tolerance.Text
