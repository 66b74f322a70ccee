import Mathlib.Data.List.Chain
import Tolerance.Json.Reader
import Tolerance.Json.Writer
import Tolerance.Proofs.Text.Numeral
import Tolerance.Proofs.Text.Utf8

namespace Tolerance

/-!
# Written strings are read back

Every code point has one written form: itself, a letter behind a backslash, one
escape of four hexadecimal digits, or two of them for a code point beyond
0xFFFF.  A written string is read back as it was, unless half a surrogate pair
stands right before the other half: the two escapes would be read as one code
point.
-/

namespace Text

/-- No high surrogate stands right before a low one. -/
def SurrogatesApart (text : Text) : Prop :=
  text.IsChain fun first second =>
    ¬(first.isHighSurrogate = true ∧ second.isLowSurrogate = true)

instance (text : Text) : Decidable text.SurrogatesApart :=
  inferInstanceAs (Decidable (List.IsChain _ text))

end Text

namespace Json

open CodePoint Text

/-- The forms in which a code point can stand in a written string. -/
inductive PointForm (point : CodePoint) : Text → Prop where
  | plain
      (notQuote : point ≠ 0x22)
      (notBackslash : point ≠ 0x5c)
      (printable : 0x20 ≤ point.val ∧ point.val < 0x7f) :
      PointForm point [point]
  | letter
      (letter : CodePoint)
      (notUnicode : letter ≠ 0x75)
      (printable : 0x20 ≤ letter.val ∧ letter.val < 0x7f)
      (meaning : simpleEscape? letter = some point) :
      PointForm point [0x5c, letter]
  | unit
      (small : point.val < 0x10000) :
      PointForm point (unicodeEscape point.val)
  | pair
      (high low : Nat)
      (highBounds : 0xd800 ≤ high ∧ high < 0xdc00)
      (lowBounds : 0xdc00 ≤ low ∧ low < 0xe000)
      (joined :
        CodePoint.ofNat
            (0x10000 + (high - 0xd800) * 0x400 + (low - 0xdc00)) =
          point) :
      PointForm point (unicodeEscape high ++ unicodeEscape low)

/-- Every code point is written in one of the forms. -/
theorem pointForm_writePoint (point : CodePoint) :
    PointForm point (writePoint point) := by
  unfold writePoint
  split
  · next same =>
      exact same ▸ .letter 0x22 (by decide) (by decide) rfl
  split
  · next same =>
      exact same ▸ .letter 0x5c (by decide) (by decide) rfl
  split
  · next same =>
      exact same ▸ .letter 0x6e (by decide) (by decide) rfl
  split
  · next same =>
      exact same ▸ .letter 0x72 (by decide) (by decide) rfl
  split
  · next same =>
      exact same ▸ .letter 0x74 (by decide) (by decide) rfl
  split
  · next same =>
      exact same ▸ .letter 0x62 (by decide) (by decide) rfl
  split
  · next same =>
      exact same ▸ .letter 0x66 (by decide) (by decide) rfl
  split
  · next notQuote notBackslash _ _ _ _ _ printable =>
      exact .plain notQuote notBackslash printable
  split
  · next small =>
      exact .unit small
  · next large =>
      have bound := point.isLt
      exact
        .pair _ _ (by omega) (by omega) (CodePoint.ofNat_eq (by omega))

/-- Four hexadecimal digits are read as their number if something follows them. -/
theorem fourDigits?_hexadecimal
    {number : Nat}
    (bound : number < 0x10000)
    {behind : Text}
    (something : behind ≠ []) :
    fourDigits? (hexadecimal 4 number ++ behind) = some number := by
  obtain ⟨next, later, rfl⟩ := List.exists_cons_of_ne_nil something
  rw [hexadecimal_four bound]
  simp only [List.cons_append, List.nil_append, fourDigits?,
    hexDigitValue?_ofDigit _ (show number / 0x1000 < 16 by omega),
    hexDigitValue?_ofDigit _ (show number / 0x100 % 0x10 < 16 by omega),
    hexDigitValue?_ofDigit _ (show number / 0x10 % 0x10 < 16 by omega),
    hexDigitValue?_ofDigit _ (show number % 0x10 < 16 by omega),
    Option.bind_eq_bind, Option.bind_some, Option.some.injEq]
  omega

theorem length_unicodeEscape
    {number : Nat}
    (bound : number < 0x10000) :
    (unicodeEscape number).length = 6 := by
  simp only [unicodeEscape, List.length_cons, length_hexadecimal_four bound]

theorem drop_hexadecimal
    {number : Nat}
    (bound : number < 0x10000)
    (behind : Text) :
    (hexadecimal 4 number ++ behind).drop 4 = behind := by
  rw [List.drop_append_of_le_length (length_hexadecimal_four bound).ge,
    List.drop_of_length_le (length_hexadecimal_four bound).le,
    List.nil_append]

/-- An escape that would complete a surrogate pair does not stand at the front. -/
def NoLowEscape (text : Text) : Prop :=
  ∀ digits,
    text = 0x5c :: 0x75 :: digits →
    ∃ number,
      fourDigits? digits = some number ∧
        (CodePoint.ofNat number).isLowSurrogate = false

/--
Behind a high surrogate the rest of a written string does not complete a pair.
-/
theorem noLowEscape_of_surrogatesApart
    {point : CodePoint}
    {later : Text}
    (apart : SurrogatesApart (point :: later))
    (high : point.isHighSurrogate = true)
    (behind : Text) :
    NoLowEscape (later.flatMap writePoint ++ 0x22 :: behind) := by
  intro digits shape
  cases later with
  | nil =>
      cases shape
  | cons next others =>
      have notLow : next.isLowSurrogate = false := by
        have neighbours := (List.isChain_cons_cons.mp apart).1
        simpa [high] using neighbours
      rw [List.flatMap_cons, List.append_assoc] at shape
      have form := pointForm_writePoint next
      generalize writePoint next = written at shape form
      cases form with
      | plain _ notBackslash _ =>
          exact (notBackslash (List.cons.inj shape).1).elim
      | letter letter notUnicode _ _ =>
          have afterSlash := (List.cons.inj shape).2
          exact (notUnicode (List.cons.inj afterSlash).1).elim
      | unit small =>
          have sameDigits := (List.cons.inj (List.cons.inj shape).2).2
          rw [← sameDigits]
          refine ⟨next.val, fourDigits?_hexadecimal small (by simp), ?_⟩
          rw [CodePoint.ofNat_val]
          exact notLow
      | pair high low highBounds lowBounds _ =>
          simp only [unicodeEscape, List.cons_append] at shape
          have sameDigits := (List.cons.inj (List.cons.inj shape).2).2
          rw [← sameDigits, List.append_assoc]
          refine
            ⟨high, fourDigits?_hexadecimal (by omega) (by simp), ?_⟩
          have value : (CodePoint.ofNat high).val = high := by
            rw [CodePoint.ofNat, dif_pos (by omega)]
          simp only [isLowSurrogate, value, Bool.and_eq_false_iff,
            decide_eq_false_iff_not]
          omega

/--
A single escape is read as its code point if no escape behind it completes a
pair.
-/
theorem readUnicodeEscape_unit
    {point : CodePoint}
    (small : point.val < 0x10000)
    (letter : Text)
    {behind : Text}
    (something : behind ≠ [])
    (alone : point.isHighSurrogate = true → NoLowEscape behind) :
    readUnicodeEscape letter (hexadecimal 4 point.val ++ behind) =
      .ok (point, 4) := by
  unfold readUnicodeEscape
  rw [fourDigits?_hexadecimal small something]
  simp only [CodePoint.ofNat_val, drop_hexadecimal small]
  split
  · next high =>
      split
      · next digits =>
          obtain ⟨number, read, notLow⟩ := alone high digits rfl
          simp [read, notLow]
      · rfl
  · rfl

/-- Two escapes that make a surrogate pair are read as one code point. -/
theorem readUnicodeEscape_pair
    {high low : Nat}
    (highBounds : 0xd800 ≤ high ∧ high < 0xdc00)
    (lowBounds : 0xdc00 ≤ low ∧ low < 0xe000)
    (letter : Text)
    {behind : Text}
    (something : behind ≠ []) :
    readUnicodeEscape letter
        (hexadecimal 4 high ++ (unicodeEscape low ++ behind)) =
      .ok
        (CodePoint.ofNat (0x10000 + (high - 0xd800) * 0x400 + (low - 0xdc00)),
          10) := by
  have valHigh : (CodePoint.ofNat high).val = high := by
    rw [CodePoint.ofNat, dif_pos (by omega)]
  have valLow : (CodePoint.ofNat low).val = low := by
    rw [CodePoint.ofNat, dif_pos (by omega)]
  have isHigh : (CodePoint.ofNat high).isHighSurrogate = true := by
    simp only [isHighSurrogate, valHigh, Bool.and_eq_true, decide_eq_true_eq]
    exact highBounds
  have isLow : (CodePoint.ofNat low).isLowSurrogate = true := by
    simp only [isLowSurrogate, valLow, Bool.and_eq_true, decide_eq_true_eq]
    exact lowBounds
  unfold readUnicodeEscape
  rw [fourDigits?_hexadecimal (by omega) (by simp [unicodeEscape])]
  simp only [isHigh, ↓reduceIte, drop_hexadecimal (show high < 0x10000 by omega),
    unicodeEscape, List.cons_append,
    fourDigits?_hexadecimal (show low < 0x10000 by omega) something, isLow,
    joinSurrogates, valHigh, valLow]

private theorem readEscape_unit
    {point : CodePoint}
    (small : point.val < 0x10000)
    (opening slash : Text)
    {behind : Text}
    (something : behind ≠ [])
    (alone : point.isHighSurrogate = true → NoLowEscape behind) :
    readEscape opening slash
        (0x75 :: hexadecimal 4 point.val ++ behind) =
      .ok (point, (0x75 :: hexadecimal 4 point.val).length) := by
  simp only [List.cons_append, readEscape, ↓reduceIte,
    readUnicodeEscape_unit small _ something alone, List.length_cons,
    length_hexadecimal_four small]

private theorem readEscape_pair
    {high low : Nat}
    (highBounds : 0xd800 ≤ high ∧ high < 0xdc00)
    (lowBounds : 0xdc00 ≤ low ∧ low < 0xe000)
    (opening slash : Text)
    {behind : Text}
    (something : behind ≠ []) :
    readEscape opening slash
        (0x75 :: hexadecimal 4 high ++ unicodeEscape low ++ behind) =
      .ok
        (CodePoint.ofNat (0x10000 + (high - 0xd800) * 0x400 + (low - 0xdc00)),
          (0x75 :: hexadecimal 4 high ++ unicodeEscape low).length) := by
  simp only [List.cons_append, List.append_assoc, readEscape, ↓reduceIte,
    readUnicodeEscape_pair highBounds lowBounds _ something,
    List.length_cons, List.length_append,
    length_hexadecimal_four (show high < 0x10000 by omega),
    length_unicodeEscape (show low < 0x10000 by omega)]

/-- The code points of an escape that was read are passed over. -/
theorem readString_skip
    (opening passed rest : Text) :
    readString opening passed.length (passed ++ rest) =
      readString opening 0 rest := by
  induction passed with
  | nil =>
      rfl
  | cons point later inductionHypothesis =>
      simpa [readString] using inductionHypothesis

/-- A string goes on behind the escape of one of its code points. -/
private theorem readString_escape
    {opening passed rest : Text}
    {point : CodePoint}
    (escaped :
      readEscape opening (0x5c :: (passed ++ rest)) (passed ++ rest) =
        .ok (point, passed.length))
    {content after : Text}
    (read : readString opening 0 rest = .ok (content, after)) :
    readString opening 0 (0x5c :: (passed ++ rest)) =
      .ok (point :: content, after) := by
  rw [readString, if_neg (by decide), if_pos rfl, escaped]
  simp only [readString_skip, read]

private theorem readString_writePoint
    {point : CodePoint}
    {later behind : Text}
    (apart : SurrogatesApart (point :: later))
    {opening content after : Text}
    (read :
      readString opening 0 (later.flatMap writePoint ++ 0x22 :: behind) =
        .ok (content, after)) :
    readString opening 0
        (writePoint point ++
          (later.flatMap writePoint ++ 0x22 :: behind)) =
      .ok (point :: content, after) := by
  have something : later.flatMap writePoint ++ 0x22 :: behind ≠ [] := by
    simp
  have form := pointForm_writePoint point
  generalize writePoint point = written at form
  have alone :
      point.isHighSurrogate = true →
        NoLowEscape (later.flatMap writePoint ++ 0x22 :: behind) :=
    fun high => noLowEscape_of_surrogatesApart apart high behind
  generalize later.flatMap writePoint ++ 0x22 :: behind = rest at *
  cases form with
  | plain notQuote notBackslash printable =>
      rw [List.singleton_append, readString, if_neg notQuote,
        if_neg notBackslash, if_neg (by omega), read]
  | letter letter notUnicode _ meaning =>
      have escaped :
          readEscape opening (0x5c :: ([letter] ++ rest)) ([letter] ++ rest) =
            .ok (point, [letter].length) := by
        simp [readEscape, notUnicode, meaning]
      exact readString_escape escaped read
  | unit small =>
      exact
        readString_escape
          (readEscape_unit small opening _ something alone) read
  | pair high low highBounds lowBounds joined =>
      rw [← joined]
      exact
        readString_escape
          (readEscape_pair highBounds lowBounds opening _ something) read

/-- A written string is read back. -/
theorem readString_flatMap_writePoint
    {text : Text}
    (apart : text.SurrogatesApart)
    (opening behind : Text) :
    readString opening 0 (text.flatMap writePoint ++ 0x22 :: behind) =
      .ok (text, behind) := by
  induction text with
  | nil =>
      rfl
  | cons point later inductionHypothesis =>
      rw [List.flatMap_cons, List.append_assoc]
      exact readString_writePoint apart
        (inductionHypothesis (List.IsChain.of_cons apart))

end Json

end Tolerance
