import Tolerance.Json.Reader
import Tolerance.Json.Writer
import Tolerance.Proofs.Text.Numeral

namespace Tolerance

/-!
# Written words and numbers are read back

A word is read back whatever follows it.  A number needs something behind it
that does not belong to a number: no digit, no point and no letter of an
exponent.
-/

namespace CodePoint

/-- A digit differs from all that are none. -/
theorem ne_of_isDigit
    {digit point : CodePoint}
    (isDigit : digit.isDigit = true)
    (noDigit : point.isDigit = false) :
    digit ≠ point := by
  intro same
  rw [same, noDigit] at isDigit
  cases isDigit

end CodePoint

namespace Text

/-- What follows a beginning is left when the beginning is dropped. -/
theorem dropBeginning?_append (beginning rest : Text) :
    (beginning ++ rest).dropBeginning? beginning = some rest := by
  induction beginning with
  | nil =>
      cases rest <;> rfl
  | cons point beginning inductionHypothesis =>
      simpa [dropBeginning?] using inductionHypothesis

/-- A text does not begin with what begins with another code point. -/
theorem dropBeginning?_of_head
    {beginning : Text}
    {point : CodePoint}
    (different : beginning.head?.any (· ≠ point) = true)
    (text : Text) :
    dropBeginning? (point :: text) beginning = none := by
  cases beginning with
  | nil =>
      cases different
  | cons expected beginning =>
      refine if_neg fun same => ?_
      simp [same] at different

end Text

namespace Json

open Text

theorem readScalar_null (rest : Text) :
    readScalar ("null" ++ rest) = .ok (.null, rest) := by
  rw [readScalar, dropBeginning?_append]

theorem readScalar_boolean (value : Bool) (rest : Text) :
    readScalar ((if value then "true" else "false" : Text) ++ rest) =
      .ok (.boolean value, rest) := by
  unfold readScalar
  cases value with
  | true =>
      have noNull : dropBeginning? ("true" ++ rest) "null" = none := rfl
      rw [if_pos rfl, noNull, dropBeginning?_append]
  | false =>
      have noNull : dropBeginning? ("false" ++ rest) "null" = none := rfl
      have noTrue : dropBeginning? ("false" ++ rest) "true" = none := rfl
      rw [if_neg (by decide), noNull, noTrue, dropBeginning?_append]

/-- A text that does not go on with a part of a number. -/
def EndsNumber (text : Text) : Prop :=
  ∀ point ∈ text.head?,
    point.isDigit = false ∧ point ≠ 0x2e ∧ point ≠ 0x65 ∧ point ≠ 0x45

/-- Digits end where a number ends. -/
theorem digitsOf_append
    {digits rest : Text}
    (allDigits : ∀ point ∈ digits, point.isDigit = true)
    (ended : EndsNumber rest) :
    digitsOf (digits ++ rest) = (digits, rest) := by
  have noneFollow : rest.takeWhile CodePoint.isDigit = [] := by
    cases rest with
    | nil =>
        rfl
    | cons point later =>
        have notDigit := (ended point rfl).1
        simp [notDigit]
  have allFollow : rest.dropWhile CodePoint.isDigit = rest := by
    cases rest with
    | nil =>
        rfl
    | cons point later =>
        have notDigit := (ended point rfl).1
        simp [notDigit]
  rw [digitsOf, List.takeWhile_append_of_pos allDigits,
    List.dropWhile_append_of_pos allDigits, noneFollow, allFollow,
    List.append_nil]

/-- Nothing behind a number is a fraction. -/
theorem fractionOf_of_endsNumber
    {rest : Text}
    (ended : EndsNumber rest) :
    fractionOf rest = ([], rest) := by
  unfold fractionOf
  split
  · next later =>
      exact ((ended 0x2e rfl).2.1 rfl).elim
  · rfl

/-- Nothing behind a number is an exponent. -/
theorem exponentOf_of_endsNumber
    {rest : Text}
    (ended : EndsNumber rest) :
    exponentOf rest = ([], rest) := by
  cases rest with
  | nil =>
      rfl
  | cons point later =>
      obtain ⟨_, _, notSmall, notCapital⟩ := ended point rfl
      simp [exponentOf, notSmall, notCapital]

/-- The digits of a number are its whole part. -/
theorem wholePartOf_ofNat
    (number : Nat)
    {rest : Text}
    (ended : EndsNumber rest) :
    wholePartOf (Numeral.ofNat number ++ rest) =
      (Numeral.ofNat number, rest) := by
  obtain ⟨first, later, shape, onlyZero⟩ :=
    Numeral.exists_ofNat_eq_cons number
  have digits := digitsOf_append (Numeral.isDigit_of_mem_ofNat number) ended
  by_cases zero : first = 0x30
  · rw [onlyZero zero]
    rfl
  · rw [← digits, shape, List.cons_append]
    unfold wholePartOf
    split
    · next same =>
        exact (zero (List.cons.inj same).1).elim
    · rfl

/-- The digits of a number stand for the number, if there are not too many. -/
theorem ofDigits_ofNat
    {number : Nat}
    (small : number < Numeral.bound) :
    Numeral.ofDigits (digitValues (Numeral.ofNat number)) = .ok number := by
  have short := Numeral.length_ofNat_le small
  rw [Numeral.ofDigits, if_pos (by simpa [digitValues] using short)]
  exact congrArg Except.ok (Numeral.valueOfDigits_ofNat number)

/-- A written number starts with a digit, behind a minus if it is negative. -/
theorem exists_ofInt_eq
    (number : Int) :
    ∃ digit later,
      digit.isDigit = true ∧
        (Numeral.ofInt number = digit :: later ∨
          Numeral.ofInt number = 0x2d :: digit :: later) := by
  cases number with
  | ofNat number =>
      obtain ⟨first, later, shape, _⟩ := Numeral.exists_ofNat_eq_cons number
      refine
        ⟨first, later, Numeral.isDigit_of_mem_ofNat number first ?_,
          Or.inl shape⟩
      simp [shape]
  | negSucc number =>
      obtain ⟨first, later, shape, _⟩ :=
        Numeral.exists_ofNat_eq_cons (number + 1)
      refine
        ⟨first, later, Numeral.isDigit_of_mem_ofNat (number + 1) first ?_,
          Or.inr (congrArg (List.cons 0x2d) shape)⟩
      simp [shape]

theorem head?_ofInt_append
    (number : Int)
    (rest : Text) :
    ∀ point ∈ (Numeral.ofInt number ++ rest).head?,
      point.isDigit = true ∨ point = 0x2d := by
  obtain ⟨digit, later, isDigit, unsigned | negative⟩ :=
    exists_ofInt_eq number
  · rw [unsigned]
    rintro _ ⟨⟩
    exact Or.inl isDigit
  · rw [negative]
    rintro _ ⟨⟩
    exact Or.inr rfl

/-- A written number is read back. -/
theorem readNumber_ofInt
    {number : Int}
    (small : number.natAbs < Numeral.bound)
    {rest : Text}
    (ended : EndsNumber rest) :
    readNumber (Numeral.ofInt number ++ rest) =
      .ok (.integer number, rest) := by
  have notEmpty (digits : Nat) : (Numeral.ofNat digits).isEmpty = false := by
    obtain ⟨first, later, shape, _⟩ := Numeral.exists_ofNat_eq_cons digits
    rw [shape]
    rfl
  cases number with
  | ofNat number =>
      have small : number < Numeral.bound := small
      have unsigned (later : Text) :
          Numeral.ofNat number ++ rest ≠ 0x2d :: later := by
        intro same
        obtain ⟨first, others, shape, _⟩ := Numeral.exists_ofNat_eq_cons number
        have isDigit :=
          Numeral.isDigit_of_mem_ofNat number first (by simp [shape])
        rw [shape] at same
        exact
          CodePoint.ne_of_isDigit isDigit (by decide) (List.cons.inj same).1
      unfold readNumber
      split
      next negative digits sign =>
      have noMinus :
          (negative, digits) = (false, Numeral.ofNat number ++ rest) := by
        rw [← sign]
        split
        · next later same =>
            exact (unsigned later same).elim
        · rfl
      cases noMinus
      simp only [wholePartOf_ofNat number ended, notEmpty,
        fractionOf_of_endsNumber ended, exponentOf_of_endsNumber ended,
        ofDigits_ofNat small]
      rfl
  | negSucc number =>
      have small : number + 1 < Numeral.bound := small
      unfold readNumber
      simp only [Numeral.ofInt, List.cons_append,
        wholePartOf_ofNat (number + 1) ended, notEmpty,
        fractionOf_of_endsNumber ended, exponentOf_of_endsNumber ended,
        ofDigits_ofNat small]
      rfl

/-- A written number begins with none of the words. -/
theorem readScalar_ofInt
    {number : Int}
    (small : number.natAbs < Numeral.bound)
    {rest : Text}
    (ended : EndsNumber rest) :
    readScalar (Numeral.ofInt number ++ rest) =
      .ok (.integer number, rest) := by
  have read := readNumber_ofInt small ended
  obtain ⟨digit, later, isDigit, shape⟩ := exists_ofInt_eq number
  have noWord
      {word : Text}
      (letters : word.head?.any (! ·.isDigit) = true) :
      word.head?.any (· ≠ digit) = true := by
    cases word with
    | nil =>
        cases letters
    | cons letter word =>
        have noDigit : letter.isDigit = false := by simpa using letters
        exact decide_eq_true (CodePoint.ne_of_isDigit isDigit noDigit).symm
  unfold readScalar
  rcases shape with unsigned | negative
  · rw [unsigned, List.cons_append] at read ⊢
    rw [dropBeginning?_of_head (noWord (by decide)),
      dropBeginning?_of_head (noWord (by decide)),
      dropBeginning?_of_head (noWord (by decide)),
      dropBeginning?_of_head (noWord (by decide)),
      dropBeginning?_of_head (noWord (by decide)),
      dropBeginning?_of_head (noWord (by decide))]
    exact read
  · rw [negative, List.cons_append, List.cons_append] at read ⊢
    have notInfinity :
        dropBeginning? (0x2d :: digit :: (later ++ rest)) "-Infinity" =
          none := by
      change dropBeginning? (digit :: (later ++ rest)) "Infinity" = none
      exact dropBeginning?_of_head (noWord (by decide)) _
    rw [dropBeginning?_of_head (by decide), dropBeginning?_of_head (by decide),
      dropBeginning?_of_head (by decide), dropBeginning?_of_head (by decide),
      dropBeginning?_of_head (by decide), notInfinity]
    exact read

end Json

end Tolerance
