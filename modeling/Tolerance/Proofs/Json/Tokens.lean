import Tolerance.Proofs.Json.Escape
import Tolerance.Proofs.Json.Limits
import Tolerance.Proofs.Text.Line

namespace Tolerance.Json

/-!
# Tokens and line endings

No token of a JSON text holds a line ending: a string must not, and a number or
a word ends before it.  So a token is the same token whether the lines of the
text end as they do or in line feeds.
-/

open Text

variable {α β : Type} {text : Text}

/-- Two stops of one kind; only faults may differ, in what is wrong and where. -/
inductive Stop.SameKind : Stop → Stop → Prop where
  | faults (fault : Fault) (rest : Text) (other : Fault) (otherRest : Text) :
      SameKind (.fault fault rest) (.fault other otherRest)
  | same (stop : Stop) : SameKind stop stop

/--
What is read of a text, and what is read of it with its line endings made equal:
the same part, and what follows differs in line endings at most, or nothing for
reasons of one kind.
-/
inductive Alike : Reading α → Reading α → Prop where
  | both (part : α) (after : Text) :
      Alike (.ok (part, after)) (.ok (part, after.unifyLineEndings))
  | neither (stop other : Stop) (sameKind : stop.SameKind other) :
      Alike (.error stop) (.error other)

/-- A text that is malformed stays so. -/
theorem Alike.faults
    (fault : Fault)
    (rest : Text)
    (other : Fault)
    (otherRest : Text) :
    Alike (α := α) (.error (.fault fault rest))
      (.error (.fault other otherRest)) :=
  .neither _ _ (.faults fault rest other otherRest)

@[elab_as_elim]
theorem Alike.elim
    {reading unified : Reading α}
    {motive : Reading α → Reading α → Prop}
    (alike : Alike reading unified)
    (both :
      ∀ part after,
        motive (.ok (part, after)) (.ok (part, unifyLineEndings after)))
    (neither :
      ∀ stop other, stop.SameKind other → motive (.error stop) (.error other)) :
    motive reading unified := by
  cases alike with
  | both part after => exact both part after
  | neither stop other sameKind => exact neither stop other sameKind

theorem skipBlanks_unifyLineEndings (text : Text) :
    skipBlanks text.unifyLineEndings = unifyLineEndings (skipBlanks text) :=
  dropWhile_unifyLineEndings rfl text

/-- The same token stands behind blanks whichever way the lines end. -/
theorem skipBlanks_unifyLineEndings_eq_cons
    {point : CodePoint}
    {after : Text}
    (notReturn : point ≠ 0x0d)
    (behind : skipBlanks text = point :: after) :
    skipBlanks text.unifyLineEndings = point :: unifyLineEndings after := by
  rw [skipBlanks_unifyLineEndings, behind, unifyLineEndings_cons notReturn]

theorem noToken_unifyLineEndings
    {point : CodePoint}
    (notFeed : point ≠ 0x0a)
    (absent : ¬∃ after, skipBlanks text = point :: after) :
    ¬∃ after, skipBlanks text.unifyLineEndings = point :: after := by
  rintro ⟨after, behind⟩
  rw [skipBlanks_unifyLineEndings] at behind
  obtain ⟨later, same, _⟩ := exists_eq_cons_of_unifyLineEndings notFeed behind
  exact absent ⟨later, same⟩

/-! ## Words and numbers -/

/-- A part of a number is taken from a text whichever way its lines end. -/
structure TakesPart (take : Text → Text × Text) (text : Text) : Prop where
  parts : (take text).1 ++ (take text).2 = text
  noReturn : 0x0d ∉ (take text).1
  unified :
    take text.unifyLineEndings =
      ((take text).1, unifyLineEndings (take text).2)

theorem TakesPart.congr
    {take other : Text → Text × Text}
    (takes : TakesPart other text)
    (same : take text = other text)
    (sameToo : take text.unifyLineEndings = other text.unifyLineEndings) :
    TakesPart take text where
  parts := by rw [same, takes.parts]
  noReturn := by rw [same]; exact takes.noReturn
  unified := by rw [sameToo, same, takes.unified]

/-- Where the part is not there, nothing is taken. -/
theorem takesPart_nothing (text : Text) :
    TakesPart (fun text => ([], text)) text where
  parts := rfl
  noReturn := List.not_mem_nil
  unified := rfl

theorem takesPart_digitsOf (text : Text) : TakesPart digitsOf text where
  parts := List.takeWhile_append_dropWhile
  noReturn := fun member => absurd (List.mem_takeWhile_imp member) (by decide)
  unified := by
    rw [digitsOf, takeWhile_unifyLineEndings rfl rfl,
      dropWhile_unifyLineEndings rfl]
    rfl

/-- A part that begins with a certain sign is taken only where the sign is. -/
theorem takesPart_of_absent
    {take other : Text → Text × Text}
    {sign : CodePoint}
    (notFeed : sign ≠ 0x0a)
    (takes : TakesPart other text)
    (absent : ¬∃ rest, text = sign :: rest)
    (unsigned :
      ∀ text, (¬∃ rest, text = sign :: rest) → take text = other text) :
    TakesPart take text := by
  refine takes.congr (unsigned text absent) (unsigned _ ?_)
  rintro ⟨later, unified⟩
  obtain ⟨rest, same, _⟩ := exists_eq_cons_of_unifyLineEndings notFeed unified
  exact absent ⟨rest, same⟩

theorem takesPart_wholePartOf (text : Text) : TakesPart wholePartOf text := by
  by_cases zero : ∃ rest, text = 0x30 :: rest
  · obtain ⟨rest, rfl⟩ := zero
    exact {
      parts := rfl
      noReturn := show 0x0d ∉ [0x30] by decide
      unified := by
        rw [unifyLineEndings_cons (by decide)]
        rfl
    }
  · refine takesPart_of_absent (by decide) (takesPart_digitsOf text) zero ?_
    intro other notZero
    unfold wholePartOf
    split
    · exact (notZero ⟨_, rfl⟩).elim
    · rfl

theorem takesPart_fractionOf (text : Text) : TakesPart fractionOf text := by
  by_cases dot : ∃ rest, text = 0x2e :: rest
  · obtain ⟨rest, rfl⟩ := dot
    have digits := takesPart_digitsOf rest
    have unified := unifyLineEndings_cons (show 0x2e ≠ 0x0d by decide) rest
    by_cases empty : (digitsOf rest).1.isEmpty = true
    · refine (takesPart_nothing _).congr ?_ ?_
      · simp only [fractionOf, empty, if_pos]
      · simp only [fractionOf, unified, digits.unified, empty, if_pos]
    · have some :
          fractionOf (0x2e :: rest) =
            (0x2e :: (digitsOf rest).1, (digitsOf rest).2) := by
        simp only [fractionOf, empty, Bool.false_eq_true, if_false]
      exact {
        parts := by rw [some, List.cons_append, digits.parts]
        noReturn := by
          rw [some]
          exact List.not_mem_cons_of_ne_of_not_mem (by decide) digits.noReturn
        unified := by
          rw [some, unified]
          simp only [fractionOf, digits.unified, empty, Bool.false_eq_true,
            if_false]
      }
  · refine takesPart_of_absent (by decide) (takesPart_nothing text) dot ?_
    intro other noDot
    unfold fractionOf
    split
    · exact (noDot ⟨_, rfl⟩).elim
    · rfl

/-- The sign of an exponent, if it has one. -/
def exponentSignOf (text : Text) : Text × Text :=
  match text with
  | point :: later =>
      if point = 0x2b ∨ point = 0x2d then ([point], later) else ([], text)
  | [] => ([], text)

theorem takesPart_exponentSignOf (text : Text) :
    TakesPart exponentSignOf text := by
  rcases text with _ | ⟨point, later⟩
  · exact (takesPart_nothing []).congr rfl rfl
  by_cases sign : point = 0x2b ∨ point = 0x2d
  · have notReturn : point ≠ 0x0d := by
      rcases sign with rfl | rfl <;> decide
    exact {
      parts := by simp [exponentSignOf, sign]
      noReturn := by simpa [exponentSignOf, sign] using notReturn.symm
      unified := by
        rw [unifyLineEndings_cons notReturn]
        simp [exponentSignOf, sign]
    }
  · refine (takesPart_nothing _).congr (if_neg sign) ?_
    by_cases isReturn : point = 0x0d
    · subst isReturn
      obtain ⟨other, unified⟩ := exists_unifyLineEndings_return later
      rw [unified]
      rfl
    · rw [unifyLineEndings_cons isReturn]
      exact if_neg sign

theorem exponentOf_cons (letter : CodePoint) (rest : Text) :
    exponentOf (letter :: rest) =
      if letter = 0x65 ∨ letter = 0x45 then
        let digits := digitsOf (exponentSignOf rest).2
        if digits.1.isEmpty then
          ([], letter :: rest)
        else
          (letter :: (exponentSignOf rest).1 ++ digits.1, digits.2)
      else
        ([], letter :: rest) := by
  cases rest <;> rfl

theorem takesPart_exponentOf (text : Text) : TakesPart exponentOf text := by
  rcases text with _ | ⟨letter, rest⟩
  · exact (takesPart_nothing []).congr rfl rfl
  by_cases marks : letter = 0x65 ∨ letter = 0x45
  · have notReturn : letter ≠ 0x0d := by
      rcases marks with rfl | rfl <;> decide
    have sign := takesPart_exponentSignOf rest
    have digits := takesPart_digitsOf (exponentSignOf rest).2
    have unified := unifyLineEndings_cons notReturn rest
    by_cases empty : (digitsOf (exponentSignOf rest).2).1.isEmpty = true
    · refine (takesPart_nothing _).congr ?_ ?_
      · simp only [exponentOf_cons, marks, empty, if_pos]
      · simp only [unified, exponentOf_cons, marks, sign.unified,
          digits.unified, empty, if_pos]
    · have some :
          exponentOf (letter :: rest) =
            (letter :: (exponentSignOf rest).1 ++
                (digitsOf (exponentSignOf rest).2).1,
              (digitsOf (exponentSignOf rest).2).2) := by
        simp only [exponentOf_cons, marks, empty, if_pos, Bool.false_eq_true,
          if_false]
      exact {
        parts := by
          rw [some, List.cons_append, List.cons_append, List.append_assoc,
            digits.parts, sign.parts]
        noReturn := by
          rw [some]
          refine List.not_mem_cons_of_ne_of_not_mem notReturn.symm ?_
          exact List.not_mem_append sign.noReturn digits.noReturn
        unified := by
          rw [some, unified]
          simp only [exponentOf_cons, marks, sign.unified, digits.unified,
            empty, if_pos, Bool.false_eq_true, if_false]
      }
  · refine (takesPart_nothing _).congr ?_ ?_
    · rw [exponentOf_cons, if_neg marks]
    by_cases isReturn : letter = 0x0d
    · subst isReturn
      obtain ⟨other, unified⟩ := exists_unifyLineEndings_return rest
      rw [unified, exponentOf_cons]
      rfl
    · rw [unifyLineEndings_cons isReturn, exponentOf_cons, if_neg marks]

/-- Read a number behind its sign; `text` is where it starts. -/
def readUnsigned (negative : Bool) (text unsigned : Text) : Reading Json :=
  let whole := wholePartOf unsigned
  if whole.1.isEmpty then
    .error (.fault .expectingValue text)
  else
    let fraction := fractionOf whole.2
    let exponent := exponentOf fraction.2
    if fraction.1.isEmpty && exponent.1.isEmpty then
      match Numeral.ofDigits (digitValues whole.1) with
      | .ok number =>
          .ok
            (.integer (if negative then -(number : Int) else number), exponent.2)
      | .error fault => .error (.numeral fault)
    else
      .ok
        (.real (text.take (text.length - exponent.2.length)), exponent.2)

theorem readNumber_minus (rest : Text) :
    readNumber (0x2d :: rest) = readUnsigned true (0x2d :: rest) rest :=
  rfl

theorem readNumber_eq
    (notMinus : ¬∃ rest, text = 0x2d :: rest) :
    readNumber text = readUnsigned false text text := by
  unfold readNumber
  split
  next negative unsigned signed =>
  split at signed
  · exact (notMinus ⟨_, rfl⟩).elim
  · cases signed
    rfl

/-- What is taken of a text by its length is its beginning. -/
private theorem take_length_sub (token after : Text) :
    (token ++ after).take ((token ++ after).length - after.length) = token := by
  simp

private theorem alike_readUnsigned
    (negative : Bool)
    {sign : Text}
    (noReturn : 0x0d ∉ sign)
    (unsigned : Text) :
    Alike (readUnsigned negative (sign ++ unsigned) unsigned)
      (readUnsigned negative (sign ++ unsigned).unifyLineEndings
        unsigned.unifyLineEndings) := by
  have whole := takesPart_wholePartOf unsigned
  have fraction := takesPart_fractionOf (wholePartOf unsigned).2
  have exponent :=
    takesPart_exponentOf (fractionOf (wholePartOf unsigned).2).2
  have shape :
      sign ++ unsigned =
        sign ++ (wholePartOf unsigned).1 ++
            (fractionOf (wholePartOf unsigned).2).1 ++
              (exponentOf (fractionOf (wholePartOf unsigned).2).2).1 ++
          (exponentOf (fractionOf (wholePartOf unsigned).2).2).2 := by
    simp only [List.append_assoc, exponent.parts, fraction.parts, whole.parts]
  have tokenNoReturn :
      0x0d ∉
        sign ++ (wholePartOf unsigned).1 ++
            (fractionOf (wholePartOf unsigned).2).1 ++
              (exponentOf (fractionOf (wholePartOf unsigned).2).2).1 := by
    simp [noReturn, whole.noReturn, fraction.noReturn, exponent.noReturn]
  unfold readUnsigned
  simp only [whole.unified, fraction.unified, exponent.unified]
  split
  · exact .faults _ _ _ _
  split
  · split
    · exact .both _ _
    · exact .neither _ _ (.same _)
  · rw [shape, unifyLineEndings_append tokenNoReturn, take_length_sub,
      take_length_sub]
    exact .both _ _

/-- A number is the same number whichever way the lines end behind it. -/
theorem alike_readNumber (text : Text) :
    Alike (readNumber text) (readNumber text.unifyLineEndings) := by
  by_cases minus : ∃ rest, text = 0x2d :: rest
  · obtain ⟨rest, rfl⟩ := minus
    have unified := unifyLineEndings_cons (show 0x2d ≠ 0x0d by decide) rest
    have alike :=
      alike_readUnsigned true (show 0x0d ∉ [0x2d] by decide) rest
    rw [List.singleton_append, unified] at alike
    rw [unified, readNumber_minus, readNumber_minus]
    exact alike
  · have alike := alike_readUnsigned false List.not_mem_nil text
    rw [List.nil_append] at alike
    rw [readNumber_eq minus, readNumber_eq]
    · exact alike
    · rintro ⟨later, unified⟩
      obtain ⟨rest, same, _⟩ :=
        exists_eq_cons_of_unifyLineEndings (by decide) unified
      exact minus ⟨rest, same⟩

theorem alike_readScalar (text : Text) :
    Alike (readScalar text) (readScalar text.unifyLineEndings) := by
  unfold readScalar
  simp (disch := decide +kernel) only [dropBeginning?_unifyLineEndings]
  iterate 6
    split
    · next dropped =>
        rw [dropped]
        exact .both _ _
    rename_i dropped
    rw [dropped]
    dsimp only [Option.map_none]
  exact alike_readNumber text

/-! ## Strings -/

/-- A line ending is no digit. -/
private theorem noEnding_of_hexDigitValue?
    {point : CodePoint}
    {value : Nat}
    (digit : point.hexDigitValue? = some value) :
    point ≠ 0x0d ∧ point ≠ 0x0a := by
  constructor <;>
    · rintro rfl
      cases digit

/-- Four digits stand together in a line, and something follows them. -/
theorem exists_of_fourDigits?
    {number : Nat}
    (read : fourDigits? text = some number) :
    ∃ digits behind,
      text = digits ++ behind ∧
        digits.length = 4 ∧
          behind ≠ [] ∧ 0x0d ∉ digits ∧ 0x0a ∉ digits := by
  unfold fourDigits? at read
  split at read
  · next first second third fourth next rest =>
      simp only [Option.bind_eq_bind, Option.bind_eq_some_iff] at read
      obtain ⟨_, high, _, upper, _, lower, _, low, _⟩ := read
      have noEndings :=
        And.intro (noEnding_of_hexDigitValue? high)
          (And.intro (noEnding_of_hexDigitValue? upper)
            (And.intro (noEnding_of_hexDigitValue? lower)
              (noEnding_of_hexDigitValue? low)))
      refine
        ⟨[first, second, third, fourth], next :: rest, rfl, rfl,
          List.cons_ne_nil _ _, ?_, ?_⟩
      · simpa [eq_comm] using
          And.intro noEndings.1.1
            (And.intro noEndings.2.1.1
              (And.intro noEndings.2.2.1.1 noEndings.2.2.2.1))
      · simpa [eq_comm] using
          And.intro noEndings.1.2
            (And.intro noEndings.2.1.2
              (And.intro noEndings.2.2.1.2 noEndings.2.2.2.2))
  · cases read

/-- What follows four digits does not matter, if there is something. -/
theorem fourDigits?_append_congr
    {digits behind other : Text}
    (four : digits.length = 4)
    (something : behind ≠ [])
    (somethingElse : other ≠ []) :
    fourDigits? (digits ++ behind) = fourDigits? (digits ++ other) := by
  obtain ⟨first, second, third, fourth, rfl⟩ :=
    List.length_eq_four.mp four
  obtain ⟨_, _, rfl⟩ := List.exists_cons_of_ne_nil something
  obtain ⟨_, _, rfl⟩ := List.exists_cons_of_ne_nil somethingElse
  rfl

theorem fourDigits?_unifyLineEndings (text : Text) :
    fourDigits? text.unifyLineEndings = fourDigits? text := by
  apply Option.ext
  intro number
  constructor
  · intro read
    obtain ⟨digits, behind, unified, four, something, _, noFeed⟩ :=
      exists_of_fourDigits? read
    obtain ⟨rest, rfl, rfl⟩ :=
      exists_eq_append_of_unifyLineEndings noFeed unified
    rw [unified] at read
    rw [← read]
    exact
      fourDigits?_append_congr four (mt unifyLineEndings_eq_nil_iff.mpr something)
        something
  · intro read
    obtain ⟨digits, behind, rfl, four, something, noReturn, _⟩ :=
      exists_of_fourDigits? read
    rw [unifyLineEndings_append noReturn, ← read]
    exact
      fourDigits?_append_congr four (mt unifyLineEndings_eq_nil_iff.mp something)
        something

/--
What an escape is read as, and what it is with the line endings made equal: the
same code point from the same code points, or nothing.
-/
inductive AlikeEscapes (text : Text) :
    Except Stop (CodePoint × Nat) → Except Stop (CodePoint × Nat) → Prop where
  | both
      (point : CodePoint)
      (passed behind : Text)
      (shape : text = passed ++ behind)
      (noReturn : 0x0d ∉ passed) :
      AlikeEscapes text (.ok (point, passed.length)) (.ok (point, passed.length))
  | faults (fault : Fault) (rest : Text) (other : Fault) (otherRest : Text) :
      AlikeEscapes text (.error (.fault fault rest))
        (.error (.fault other otherRest))

theorem alike_readUnicodeEscape (letter other text : Text) :
    AlikeEscapes text (readUnicodeEscape letter text)
      (readUnicodeEscape other text.unifyLineEndings) := by
  cases read : fourDigits? text with
  | none =>
      simp only [readUnicodeEscape, fourDigits?_unifyLineEndings, read]
      exact .faults _ _ _ _
  | some number =>
      obtain ⟨digits, behind, rfl, four, something, noReturn, _⟩ :=
        exists_of_fourDigits? read
      have readToo :=
        (fourDigits?_unifyLineEndings (digits ++ behind)).trans read
      rw [unifyLineEndings_append noReturn] at readToo ⊢
      simp only [readUnicodeEscape, read, readToo, List.drop_left' four]
      have alone (point : CodePoint) :
          AlikeEscapes (digits ++ behind) (.ok (point, 4)) (.ok (point, 4)) :=
        four ▸ .both point digits behind rfl noReturn
      by_cases escape : ∃ second, behind = [0x5c, 0x75] ++ second
      · obtain ⟨second, rfl⟩ := escape
        rw [unifyLineEndings_append (by decide)]
        simp only [List.cons_append, List.nil_append,
          fourDigits?_unifyLineEndings]
        split
        · split
          · exact .faults _ _ _ _
          next low readLow =>
          split
          · obtain ⟨lowDigits, later, rfl, fourLow, _, noReturnLow, _⟩ :=
              exists_of_fourDigits? readLow
            have ten :
                (digits ++ [0x5c, 0x75] ++ lowDigits).length = 10 := by
              simp [four, fourLow]
            rw [← ten]
            refine .both _ _ later ?_ ?_
            · simp
            · simp [noReturn, noReturnLow]
          · exact alone _
        · exact alone _
      · split
        · split
          · exact (escape ⟨_, rfl⟩).elim
          split
          · next unified =>
              obtain ⟨rest, rfl, _⟩ :=
                exists_eq_append_of_unifyLineEndings
                  (show 0x0a ∉ [0x5c, 0x75] by decide) unified
              exact (escape ⟨rest, rfl⟩).elim
          · exact alone _
        · exact alone _

/-- An escape is read alike behind its backslash. -/
theorem alike_readEscape (opening slash other otherSlash text : Text) :
    AlikeEscapes text (readEscape opening slash text)
      (readEscape other otherSlash text.unifyLineEndings) := by
  rcases text with _ | ⟨letter, rest⟩
  · exact .faults _ _ _ _
  by_cases isReturn : letter = 0x0d
  · subst isReturn
    obtain ⟨later, unified⟩ := exists_unifyLineEndings_return rest
    rw [unified]
    exact .faults _ _ _ _
  rw [unifyLineEndings_cons isReturn]
  by_cases unicode : letter = 0x75
  · subst unicode
    have alike :=
      alike_readUnicodeEscape (0x75 :: rest)
        (0x75 :: unifyLineEndings rest) rest
    simp only [readEscape, if_pos]
    generalize readUnicodeEscape (0x75 :: rest) rest = reading at alike ⊢
    generalize readUnicodeEscape _ (unifyLineEndings rest) = unified at alike ⊢
    cases alike with
    | both point passed behind shape noReturn =>
        subst shape
        have notInFront : 0x0d ∉ 0x75 :: passed :=
          List.not_mem_cons_of_ne_of_not_mem (by decide) noReturn
        exact .both point (0x75 :: passed) behind rfl notInFront
    | faults fault later other otherLater =>
        exact .faults _ _ _ _
  · simp only [readEscape, if_neg unicode]
    split
    · exact .both _ [letter] rest rfl (by simpa [eq_comm] using isReturn)
    · exact .faults _ _ _ _

/-- A string is read alike behind its opening quote. -/
theorem alike_readString (opening other text : Text) :
    Alike (readString opening 0 text)
      (readString other 0 text.unifyLineEndings) := by
  -- An escape is passed over as a whole, so the induction is on the length.
  induction size : text.length using Nat.strong_induction_on generalizing text with
  | _ size inductionHypothesis =>
  subst size
  rcases text with _ | ⟨point, rest⟩
  · exact .faults _ _ _ _
  by_cases isReturn : point = 0x0d
  · subst isReturn
    obtain ⟨later, unified⟩ := exists_unifyLineEndings_return rest
    rw [unified]
    exact .faults _ _ _ _
  rw [unifyLineEndings_cons isReturn, readString, readString]
  split
  · exact .both _ _
  split
  · have alike :=
      alike_readEscape opening (point :: rest) other
        (point :: unifyLineEndings rest) rest
    generalize readEscape opening (point :: rest) rest = reading at alike ⊢
    generalize readEscape other _ (unifyLineEndings rest) = unified at alike ⊢
    cases alike with
    | both escaped passed behind shape noReturn =>
        subst shape
        dsimp only
        rw [unifyLineEndings_append noReturn, readString_skip, readString_skip]
        have shorter :
            behind.length < (point :: (passed ++ behind)).length := by
          rw [List.length_cons, List.length_append]
          omega
        have later := inductionHypothesis _ shorter behind rfl
        exact later.elim (fun _ _ => .both _ _) fun _ _ => .neither _ _
    | faults fault later other otherLater =>
        exact .faults _ _ _ _
  split
  · exact .faults _ _ _ _
  · have later := inductionHypothesis _ (Nat.lt_succ_self _) rest rfl
    exact later.elim (fun _ _ => .both _ _) fun _ _ => .neither _ _

end Tolerance.Json
