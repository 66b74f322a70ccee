import Mathlib.Data.List.TakeWhile
import Tolerance.Proofs.Text.Utf8
import Tolerance.Text.Numeral

namespace Tolerance

/-!
# Texts of digits

Digits of any script are no blanks, no signs and no letters, so a text of them is
read as it stands.  It is a numeral exactly if each of them is a decimal digit
and there are no more than the limit of them.
-/

namespace CodePoint

variable {point : CodePoint}

/-- A decimal digit of some script. -/
def isDecimal (point : CodePoint) : Bool :=
  point.decimalValue?.isSome

theorem isDigitOfAnyKind_of_isDecimal
    (decimal : point.isDecimal = true) :
    point.isDigitOfAnyKind = true := by
  unfold isDecimal at decimal
  rw [isDigitOfAnyKind, decimal, Bool.true_or]

/-- The numbers of the code points with the property White_Space. -/
private def whiteSpaces : List Nat :=
  List.range' 0x09 5 ++ [0x20, 0x85, 0xa0, 0x1680] ++ List.range' 0x2000 11 ++
    [0x2028, 0x2029, 0x202f, 0x205f, 0x3000]

/-- The numbers of the small letters with a capital among `A` to `Z`. -/
private def smallLetters : List Nat :=
  List.range' 0x61 26 ++ [0x131, 0x17f]

/-- No digit is white space. -/
theorem isWhiteSpace_of_isDigitOfAnyKind
    (digit : point.isDigitOfAnyKind = true) :
    point.isWhiteSpace = false := by
  have noDigits : ∀ number ∈ whiteSpaces, (ofNat number).isDigitOfAnyKind = false := by
    decide +kernel
  rw [Bool.eq_false_iff]
  intro white
  have listed : point.val ∈ whiteSpaces := by
    simp only [isWhiteSpace, Bool.or_eq_true, decide_eq_true_eq, beq_iff_eq] at white
    simp only [whiteSpaces, List.mem_append, List.mem_range'_1, List.mem_cons,
      List.not_mem_nil, or_false]
    omega
  have noDigit := noDigits point.val listed
  rw [ofNat_val, digit] at noDigit
  cases noDigit

private theorem toUpperAscii_of_not_mem
    (notListed : point.val ∉ smallLetters) :
    point.toUpperAscii = point := by
  simp only [smallLetters, List.mem_append, List.mem_range'_1, List.mem_cons,
    List.not_mem_nil, or_false, not_or] at notListed
  unfold toUpperAscii
  rw [if_neg (by omega), if_neg (by omega), if_neg (by omega)]

/-- A letter that is raised is no digit, and neither is its capital. -/
private theorem toUpperAscii_cases (point : CodePoint) :
    point.toUpperAscii = point ∨
      point.isDigitOfAnyKind = false ∧
        point.toUpperAscii.isDigitOfAnyKind = false := by
  have noDigits :
      ∀ number ∈ smallLetters,
        (ofNat number).isDigitOfAnyKind = false ∧
          (ofNat number).toUpperAscii.isDigitOfAnyKind = false := by
    decide +kernel
  by_cases listed : point.val ∈ smallLetters
  · have noDigit := noDigits point.val listed
    rw [ofNat_val] at noDigit
    exact Or.inr noDigit
  · exact Or.inl (toUpperAscii_of_not_mem listed)

/-- Raising a letter gives a digit only of a digit. -/
theorem isDigitOfAnyKind_toUpperAscii :
    point.toUpperAscii.isDigitOfAnyKind = point.isDigitOfAnyKind := by
  rcases toUpperAscii_cases point with same | ⟨noDigit, stillNone⟩
  · rw [same]
  · rw [noDigit, stillNone]

/-- Raising a digit leaves it as it is. -/
theorem toUpperAscii_of_isDigitOfAnyKind
    (digit : point.isDigitOfAnyKind = true) :
    point.toUpperAscii = point := by
  rcases toUpperAscii_cases point with same | ⟨noDigit, _⟩
  · exact same
  · rw [digit] at noDigit
    cases noDigit

/-- A capital has no other capital. -/
theorem toUpperAscii_toUpperAscii (point : CodePoint) :
    point.toUpperAscii.toUpperAscii = point.toUpperAscii := by
  have raisedOnce :
      ∀ number ∈ smallLetters,
        (ofNat number).toUpperAscii.toUpperAscii = (ofNat number).toUpperAscii := by
    decide +kernel
  by_cases listed : point.val ∈ smallLetters
  · have raised := raisedOnce point.val listed
    rwa [ofNat_val] at raised
  · rw [toUpperAscii_of_not_mem listed, toUpperAscii_of_not_mem listed]

end CodePoint

namespace Text

open CodePoint

variable {text : Text}

theorem toUpperAscii_toUpperAscii (text : Text) :
    text.toUpperAscii.toUpperAscii = text.toUpperAscii := by
  unfold toUpperAscii
  rw [List.map_map]
  exact List.map_congr_left fun point _ => CodePoint.toUpperAscii_toUpperAscii point

/-- A text of digits of any kind. -/
def OnlyDigits (text : Text) : Prop :=
  text ≠ [] ∧ ∀ point ∈ text, point.isDigitOfAnyKind = true

/-- A number written in decimal digits of any script. -/
def IsDecimal (text : Text) : Prop :=
  text ≠ [] ∧ ∀ point ∈ text, point.isDecimal = true

instance (text : Text) : Decidable text.OnlyDigits :=
  inferInstanceAs (Decidable (_ ∧ _))

instance (text : Text) : Decidable text.IsDecimal :=
  inferInstanceAs (Decidable (_ ∧ _))

theorem IsDecimal.onlyDigits
    (decimal : text.IsDecimal) :
    text.OnlyDigits :=
  ⟨decimal.1, fun point member => isDigitOfAnyKind_of_isDecimal (decimal.2 point member)⟩

/-- A text with nothing of a class in it is not trimmed. -/
theorem trim_eq_self
    {inClass : CodePoint → Bool}
    (outside : ∀ point ∈ text, inClass point = false) :
    text.trim inClass = text := by
  have kept
      {part : Text}
      (within : ∀ point ∈ part, inClass point = false) :
      part.dropWhile inClass = part := by
    cases part with
    | nil => rfl
    | cons point rest =>
        exact List.dropWhile_cons_of_neg (by simp [within point List.mem_cons_self])
  rw [trim, kept outside,
    kept fun point member => outside point (List.mem_reverse.mp member),
    List.reverse_reverse]

namespace OnlyDigits

/-- Raising letters makes a text of digits of nothing else. -/
theorem toUpperAscii_iff : text.toUpperAscii.OnlyDigits ↔ text.OnlyDigits := by
  unfold OnlyDigits toUpperAscii
  rw [List.forall_mem_map]
  simp only [isDigitOfAnyKind_toUpperAscii, ne_eq, List.map_eq_nil_iff]

/-- There are no letters in a text of digits. -/
theorem toUpperAscii_eq
    (digits : text.OnlyDigits) :
    text.toUpperAscii = text :=
  (List.map_congr_left fun point member =>
    toUpperAscii_of_isDigitOfAnyKind (digits.2 point member)).trans (List.map_id' text)

/-- A text of digits has no white space around it. -/
theorem trim_eq
    (digits : text.OnlyDigits) :
    text.trim CodePoint.isWhiteSpace = text :=
  trim_eq_self fun point member =>
    isWhiteSpace_of_isDigitOfAnyKind (digits.2 point member)

/-- A code point that is no digit is not in a text of digits. -/
theorem not_mem
    {point : CodePoint}
    (digits : text.OnlyDigits)
    (noDigit : point.isDigitOfAnyKind = false) :
    point ∉ text := by
  intro member
  rw [digits.2 point member] at noDigit
  cases noDigit

end OnlyDigits

end Text

namespace Numeral

open CodePoint

variable {text : Text}

/-- Where there are no underscores a run of digits goes on to the first other code point. -/
theorem digitRun_eq
    (apart : 0x5f ∉ text) :
    digitRun text =
      ((text.takeWhile isDecimal).filterMap decimalValue?, text.dropWhile isDecimal) := by
  induction text with
  | nil => rfl
  | cons point rest inductionHypothesis =>
      obtain ⟨notUnderscore, restApart⟩ := List.ne_and_not_mem_of_not_mem_cons apart
      rw [digitRun.eq_3 point rest fun _ _ underscore _ => notUnderscore underscore.symm,
        inductionHypothesis restApart]
      cases value : point.decimalValue? with
      | none => simp [isDecimal, value]
      | some digit => simp [isDecimal, value]

/-- Every decimal digit has a value. -/
theorem length_filterMap_takeWhile (text : Text) :
    ((text.takeWhile isDecimal).filterMap decimalValue?).length =
      (text.takeWhile isDecimal).length :=
  List.filterMap_length_eq_length.mpr fun point member =>
    show point.isDecimal = true from List.mem_takeWhile_imp member

/-- The digits of a text are counted before it matters what follows them. -/
private theorem readUnsigned_of_onlyDigits
    (digits : text.OnlyDigits) :
    readUnsigned text =
      if digitLimit < (text.takeWhile isDecimal).length then
        .error (.tooLong (text.takeWhile isDecimal).length)
      else if text.dropWhile isDecimal = [] then
        .ok (valueOfDigits ((text.takeWhile isDecimal).filterMap decimalValue?))
      else
        .error .malformed := by
  have apart : 0x5f ∉ text := digits.not_mem (by decide +kernel)
  have headApart : text.head? ≠ some 0x5f := fun isHead =>
    apart (List.mem_of_mem_head? isHead)
  have restApart : (text.dropWhile isDecimal).head? ≠ some 0x5f := fun isHead =>
    apart ((List.dropWhile_sublist _).subset (List.mem_of_mem_head? isHead))
  unfold readUnsigned
  rw [digitRun_eq apart]
  have count := length_filterMap_takeWhile text
  have parts := List.takeWhile_append_dropWhile (p := isDecimal) (l := text)
  simp only [count, headApart, restApart, decide_false, Bool.or_false]
  cases run : text.takeWhile isDecimal with
  | nil =>
      rw [run, List.nil_append] at parts
      rw [parts]
      simp [digits.1]
  | cons first others =>
      have someRun :
          ((first :: others).filterMap decimalValue?).isEmpty = false := by
        rw [run] at count
        rw [List.isEmpty_eq_false_iff, ← List.length_pos_iff, count]
        exact Nat.succ_pos _
      rw [someRun]
      cases text.dropWhile isDecimal <;> simp

/-- A text of digits has no sign. -/
private theorem read_of_onlyDigits
    (digits : text.OnlyDigits) :
    read text = (readUnsigned text).map Int.ofNat := by
  have noSign
      {sign : CodePoint}
      {rest : Text}
      (noDigit : sign.isDigitOfAnyKind = false)
      (isText : text = sign :: rest) :
      False :=
    digits.not_mem noDigit (isText ▸ List.mem_cons_self)
  unfold read
  rw [digits.trim_eq]
  split
  · exact (noSign (by decide +kernel) rfl).elim
  · exact (noSign (by decide +kernel) rfl).elim
  · rfl

/-- A number in decimal digits is read, unless there are too many of them. -/
theorem read_of_isDecimal
    (decimal : text.IsDecimal)
    (short : text.length ≤ digitLimit) :
    read text = .ok (valueOfDigits (text.filterMap decimalValue?)) := by
  have allTaken : text.takeWhile isDecimal = text :=
    List.takeWhile_eq_self_iff.mpr decimal.2
  have nothingLeft : text.dropWhile isDecimal = [] :=
    List.dropWhile_eq_nil_iff.mpr decimal.2
  rw [read_of_onlyDigits decimal.onlyDigits, readUnsigned_of_onlyDigits decimal.onlyDigits,
    allTaken, if_neg (by omega), if_pos nothingLeft]
  rfl

/-- Too many decimal digits are refused, whatever follows them. -/
theorem read_of_long_run
    (digits : text.OnlyDigits)
    (long : digitLimit < (text.takeWhile isDecimal).length) :
    read text = .error (.tooLong (text.takeWhile isDecimal).length) := by
  rw [read_of_onlyDigits digits, readUnsigned_of_onlyDigits digits, if_pos long]
  rfl

/-- A digit that is no decimal digit is refused. -/
theorem read_of_not_isDecimal
    (digits : text.OnlyDigits)
    (short : (text.takeWhile isDecimal).length ≤ digitLimit)
    (notDecimal : ¬text.IsDecimal) :
    read text = .error .malformed := by
  have someLeft : text.dropWhile isDecimal ≠ [] := fun nothingLeft =>
    notDecimal ⟨digits.1, List.dropWhile_eq_nil_iff.mp nothingLeft⟩
  rw [read_of_onlyDigits digits, readUnsigned_of_onlyDigits digits, if_neg (by omega),
    if_neg someLeft]
  rfl

end Numeral

end Tolerance
