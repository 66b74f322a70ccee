import Tolerance.Log
import Tolerance.Proofs.OrderedMap
import Tolerance.Proofs.Text.Digits

namespace Tolerance.Log

/-!
# The threshold that the environment sets

A threshold is written in decimal digits or as the name of a level, and anything
else sets none.  But a text of digits is always taken for a number, and the run
fails if it is none: if there are digits in it that stand in no numeral, or more
digits than are read.
-/

variable {written : Text}

/-- The levels by their names. -/
def levels : OrderedMap Level where
  entries := levelNames
  keysDistinct := by decide +kernel

/-- A level is found under each of its names, in capital or small letters, and only there. -/
theorem levelOfName?_eq_some_iff
    {level : Level} :
    levelOfName? written = some level ↔
      (written.toUpperAscii, level) ∈ levelNames :=
  show levels.get? written.toUpperAscii = some level ↔ _ from
    OrderedMap.get?_eq_some_iff

theorem levelOfName?_toUpperAscii :
    levelOfName? written.toUpperAscii = levelOfName? written := by
  rw [levelOfName?, Text.toUpperAscii_toUpperAscii, levelOfName?]

/-- No level has a name of digits. -/
theorem not_onlyDigits_of_listed
    {level : Level}
    (listed : (written.toUpperAscii, level) ∈ levelNames) :
    ¬written.OnlyDigits := by
  have letters :
      ∀ entry ∈ levelNames, entry.1.all CodePoint.isDigitOfAnyKind = false := by
    decide +kernel
  intro digits
  have noDigits := letters _ listed
  rw [List.all_eq_true.mpr (Text.OnlyDigits.toUpperAscii_iff.mpr digits).2] at noDigits
  cases noDigits

/-- What a written threshold comes to. -/
inductive Sets (written : Text) : Except LevelFault (Option Level) → Prop where
  | number
      (decimal : written.IsDecimal)
      (short : written.length ≤ Numeral.digitLimit) :
      Sets written
        (.ok
          (some (Numeral.valueOfDigits (written.filterMap CodePoint.decimalValue?))))
  | name (level : Level)
      (listed : (written.toUpperAscii, level) ∈ levelNames) :
      Sets written (.ok (some level))
  | nothing
      (notDigits : ¬written.OnlyDigits)
      (unknown : ∀ level, (written.toUpperAscii, level) ∉ levelNames) :
      Sets written (.ok none)
  | tooLong
      (digits : written.OnlyDigits)
      (long :
        Numeral.digitLimit < (written.takeWhile CodePoint.isDecimal).length) :
      Sets written
        (.error (.tooLong (written.takeWhile CodePoint.isDecimal).length))
  | notDecimal
      (digits : written.OnlyDigits)
      (short :
        (written.takeWhile CodePoint.isDecimal).length ≤ Numeral.digitLimit)
      (notAll : ¬written.IsDecimal) :
      Sets written (.error (.notDecimal written))

variable {outcome : Except LevelFault (Option Level)}

/-- A threshold fails to be set by digits that are too many or no decimal digits. -/
theorem Sets.fails_iff
    (sets : Sets written outcome) :
    (∃ fault, outcome = .error fault) ↔
      written.OnlyDigits ∧
        (¬written.IsDecimal ∨ Numeral.digitLimit < written.length) := by
  cases sets with
  | number decimal short =>
      have notLong : ¬Numeral.digitLimit < written.length := by omega
      simp [decimal, notLong]
  | name level listed =>
      simp [not_onlyDigits_of_listed listed]
  | nothing notDigits unknown =>
      simp [notDigits]
  | tooLong digits long =>
      have longer : Numeral.digitLimit < written.length :=
        Nat.lt_of_lt_of_le long (List.takeWhile_sublist _).length_le
      simp [digits, longer]
  | notDecimal digits short notAll =>
      simp [digits, notAll]

/-- What a text without blanks around it sets. -/
def levelIn (written : Text) : Except LevelFault (Option Level) :=
  if written.OnlyDigits then
    match Numeral.read written with
    | .ok level => .ok (some level)
    | .error .malformed => .error (.notDecimal written)
    | .error (.tooLong digits) => .error (.tooLong digits)
  else
    .ok (levelOfName? written)

/-- Letters are raised before a text is looked at, which changes nothing in digits. -/
theorem levelInEnvironment_eq (environment : Environment) :
    levelInEnvironment environment =
      levelIn (environment.value levelVariable).trimBlanks := by
  unfold levelInEnvironment levelIn
  generalize (environment.value levelVariable).trimBlanks = written
  have asked :
      (!written.toUpperAscii.isEmpty &&
          written.toUpperAscii.all CodePoint.isDigitOfAnyKind) = true ↔
        written.OnlyDigits := by
    rw [← Text.OnlyDigits.toUpperAscii_iff, Text.OnlyDigits]
    simp
  dsimp only
  by_cases digits : written.OnlyDigits
  · rw [if_pos (asked.mpr digits), digits.toUpperAscii_eq]
    exact (if_pos digits).symm
  · rw [if_neg (mt asked.mp digits), if_neg digits, levelOfName?_toUpperAscii]

private theorem sets_levelIn (written : Text) : Sets written (levelIn written) := by
  unfold levelIn
  by_cases digits : written.OnlyDigits
  · rw [if_pos digits]
    rcases Nat.lt_or_ge Numeral.digitLimit
        (written.takeWhile CodePoint.isDecimal).length with long | short
    · rw [Numeral.read_of_long_run digits long]
      exact .tooLong digits long
    · by_cases decimal : written.IsDecimal
      · rw [List.takeWhile_eq_self_iff.mpr decimal.2] at short
        rw [Numeral.read_of_isDecimal decimal short]
        exact .number decimal short
      · rw [Numeral.read_of_not_isDecimal digits short decimal]
        exact .notDecimal digits short decimal
  · rw [if_neg digits]
    cases found : levelOfName? written with
    | some level =>
        exact .name level (levelOfName?_eq_some_iff.mp found)
    | none =>
        refine .nothing digits fun level listed => ?_
        rw [levelOfName?_eq_some_iff.mpr listed] at found
        cases found

/-- These outcomes are told apart by the text alone. -/
theorem levelIn_eq_iff :
    levelIn written = outcome ↔ Sets written outcome := by
  constructor
  · rintro rfl
    exact sets_levelIn written
  · intro sets
    unfold levelIn
    cases sets with
    | number decimal short =>
        rw [if_pos decimal.onlyDigits, Numeral.read_of_isDecimal decimal short]
    | name level listed =>
        rw [if_neg (not_onlyDigits_of_listed listed),
          levelOfName?_eq_some_iff.mpr listed]
    | nothing notDigits unknown =>
        have notFound : levelOfName? written = none :=
          Option.eq_none_iff_forall_ne_some.mpr fun level found =>
            unknown level (levelOfName?_eq_some_iff.mp found)
        rw [if_neg notDigits, notFound]
    | tooLong digits long =>
        rw [if_pos digits, Numeral.read_of_long_run digits long]
    | notDecimal digits short notAll =>
        rw [if_pos digits, Numeral.read_of_not_isDecimal digits short notAll]

/-- A run without a threshold of its own fails exactly if the environment's does. -/
theorem threshold_none_fails_iff
    {environment : Environment} :
    (∃ fault, threshold none environment = .error fault) ↔
      ∃ fault, levelInEnvironment environment = .error fault := by
  unfold threshold
  cases found : levelInEnvironment environment with
  | error fault => simp [bind, Except.bind]
  | ok level? =>
      cases level? with
      | none => simp [bind, Except.bind, pure, Except.pure]
      | some level =>
          by_cases isZero : level = 0 <;>
            simp [isZero, bind, Except.bind, pure, Except.pure]

/--
Whatever the environment holds, the variable sets the number that it is in
decimal digits, or the level that it names, or nothing, and the run has a
threshold.  The one exception are digits that are no decimal digits or that are
too many: with them both fail.
-/
theorem unusable_digits_alone_fail (environment : Environment) :
    let written := (environment.value levelVariable).trimBlanks
    (∀ outcome, levelInEnvironment environment = outcome ↔ Sets written outcome) ∧
      ((∃ fault, levelInEnvironment environment = .error fault) ↔
        written.OnlyDigits ∧
          (¬written.IsDecimal ∨ Numeral.digitLimit < written.length)) ∧
      ((∃ fault, threshold none environment = .error fault) ↔
        written.OnlyDigits ∧
          (¬written.IsDecimal ∨ Numeral.digitLimit < written.length)) := by
  intro written
  have exactly :
      ∀ outcome, levelInEnvironment environment = outcome ↔ Sets written outcome := by
    intro outcome
    rw [levelInEnvironment_eq]
    exact levelIn_eq_iff
  have fails := ((exactly _).mp rfl).fails_iff
  exact ⟨exactly, fails, threshold_none_fails_iff.trans fails⟩

/-- A raised two is a digit and no decimal digit: it should set nothing, and fails. -/
theorem superscript_two_fails :
    let environment : Environment := OrderedMap.empty.insert levelVariable "²"
    levelInEnvironment environment = .error (.notDecimal "²") ∧
      threshold none environment = .error (.notDecimal "²") := by
  decide +kernel

end Tolerance.Log
