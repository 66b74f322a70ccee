import Tolerance.Toml

namespace Tolerance

/-!
# Numbers and moments in TOML

A number or a moment is the longest front of the text that has its form.
Underscores may stand between digits.  A date has to be one of the calendar.
-/

namespace Toml

/-- Digits behind a first one, without the underscores between them, and what follows. -/
def moreDigits (isDigit : CodePoint → Bool) : Text → Text × Text
  | [] => ([], [])
  | 0x5f :: point :: rest =>
      if isDigit point then
        let (digits, after) := moreDigits isDigit rest
        (point :: digits, after)
      else
        ([], 0x5f :: point :: rest)
  | point :: rest =>
      if isDigit point then
        let (digits, after) := moreDigits isDigit rest
        (point :: digits, after)
      else
        ([], point :: rest)

/-- Digits without the underscores between them, and what follows. -/
def digitGroup (isDigit : CodePoint → Bool) (text : Text) : Text × Text :=
  match text with
  | point :: rest =>
      if isDigit point then
        let (digits, after) := moreDigits isDigit rest
        (point :: digits, after)
      else
        ([], text)
  | [] => ([], [])

/-- The digits below a base of at most ten. -/
def isDigitBelow (base : Nat) (point : CodePoint) : Bool :=
  decide (0x30 ≤ point.val ∧ point.val < 0x30 + base)

/-- The number that digits of a base stand for. -/
def valueInBase (base : Nat) (digits : Text) : Nat :=
  digits.foldl (fun value digit => value * base + digit.hexDigitValue?.getD 0) 0

/-- Read a number of base 16, 8 or 2 behind its zero, if there is one. -/
def readBased? (text : Text) : Option (Toml × Text) :=
  let based (base : Nat) (isDigit : CodePoint → Bool) (rest : Text) : Option (Toml × Text) :=
    let (digits, after) := digitGroup isDigit rest
    if digits.isEmpty then none else some (.integer (valueInBase base digits), after)
  match text with
  | 0x78 :: rest => based 16 (fun point => point.hexDigitValue?.isSome) rest
  | 0x6f :: rest => based 8 (isDigitBelow 8) rest
  | 0x62 :: rest => based 2 (isDigitBelow 2) rest
  | _ => none

/-- The sign in front of a number, and what follows. -/
def readSign (text : Text) : Option CodePoint × Text :=
  match text with
  | point :: rest =>
      if point = 0x2b ∨ point = 0x2d then (some point, rest) else (none, text)
  | [] => (none, [])

/-- The digits of a whole part: a single zero, or digits that begin with another one. -/
def wholePart (text : Text) : Text × Text :=
  match text with
  | 0x30 :: rest => ([0x30], rest)
  | _ => digitGroup CodePoint.isDigit text

/-- The text behind a fraction, if there is one. -/
def skipFraction? (text : Text) : Option Text :=
  match text with
  | 0x2e :: rest =>
      let (digits, after) := digitGroup CodePoint.isDigit rest
      if digits.isEmpty then none else some after
  | _ => none

/-- The text behind an exponent, if there is one. -/
def skipExponent? (text : Text) : Option Text :=
  match text with
  | letter :: rest =>
      if letter = 0x65 ∨ letter = 0x45 then
        let (digits, after) := digitGroup CodePoint.isDigit (readSign rest).2
        if digits.isEmpty then none else some after
      else
        none
  | [] => none

/-- Read a number of base ten. -/
def readDecimal (text : Text) : Reading Toml :=
  let (sign, unsigned) := readSign text
  let (digits, afterWhole) := wholePart unsigned
  if digits.isEmpty then
    .error (.fault .invalidValue text)
  else
    let afterFraction := (skipFraction? afterWhole).getD afterWhole
    match skipExponent? afterFraction, skipFraction? afterWhole with
    | some after, _ => .ok (.real, after)
    | none, some after => .ok (.real, after)
    | none, none =>
        match Numeral.ofDigits (digits.map fun digit => digit.val - 0x30) with
        | .error fault => .error (.numeral fault)
        | .ok number =>
            .ok (.integer (if sign = some 0x2d then -(number : Int) else number), afterWhole)

/-- Read one of the words for infinity and for no number, with or without a sign. -/
def readRealWord? (text : Text) : Option Text :=
  let unsigned := (readSign text).2
  (unsigned.dropBeginning? "inf").or (unsigned.dropBeginning? "nan")

/-- Read a number. -/
def readNumber (text : Text) : Reading Toml :=
  let based? :=
    match text with
    | 0x30 :: rest => readBased? rest
    | _ => none
  match based? with
  | some reading => .ok reading
  | none =>
      match readDecimal text with
      | .ok reading => .ok reading
      | .error stop =>
          match readRealWord? text with
          | some after => .ok (.real, after)
          | none => .error stop

/-- The number of exactly so many digits at the front, and what follows. -/
def fixedDigits? (count : Nat) (text : Text) : Option (Nat × Text) :=
  let digits := text.take count
  if digits.length = count ∧ digits.all CodePoint.isDigit then
    some (Numeral.valueOfDigits (digits.map fun digit => digit.val - 0x30), text.drop count)
  else
    none

/-- A number of two digits between limits, and what follows. -/
def twoDigits? (low high : Nat) (text : Text) : Option (Nat × Text) := do
  let (number, after) ← fixedDigits? 2 text
  if low ≤ number ∧ number ≤ high then some (number, after) else none

/-- The text behind an expected code point. -/
def expect? (point : CodePoint) (text : Text) : Option Text :=
  text.dropBeginning? [point]

/-- The text behind the fraction of a second, if there is one. -/
def skipSecondFraction (text : Text) : Text :=
  match text with
  | 0x2e :: rest =>
      let digits := rest.takeWhile CodePoint.isDigit
      if digits.isEmpty then text else rest.drop digits.length
  | _ => text

/-- The text behind a time of day, if there is one. -/
def skipTime? (text : Text) : Option Text := do
  let (_, text) ← twoDigits? 0 23 text
  let text ← expect? 0x3a text
  let (_, text) ← twoDigits? 0 59 text
  let text ← expect? 0x3a text
  let (_, text) ← twoDigits? 0 59 text
  return skipSecondFraction text

/-- The text behind an offset from universal time, if there is one. -/
def skipOffset (text : Text) : Text :=
  let numeric? : Option Text := do
    let (sign, text) := readSign text
    let _ ← sign
    let (_, text) ← twoDigits? 0 23 text
    let text ← expect? 0x3a text
    let (_, text) ← twoDigits? 0 59 text
    return text
  match text with
  | letter :: rest =>
      if letter = 0x5a ∨ letter = 0x7a then rest else numeric?.getD text
  | [] => []

/-- The text behind the time of a moment, if there is one. -/
def skipTimeOfMoment (text : Text) : Text :=
  match text with
  | separator :: rest =>
      if separator = 0x54 ∨ separator = 0x74 ∨ separator = 0x20 then
        match skipTime? rest with
        | some after => skipOffset after
        | none => text
      else
        text
  | [] => []

/-- Whether a year has a 29th of February. -/
def isLeapYear (year : Nat) : Bool :=
  year % 4 == 0 && (year % 100 != 0 || year % 400 == 0)

/-- The number of days in a month. -/
def daysInMonth (year month : Nat) : Nat :=
  if month = 2 then
    if isLeapYear year then 29 else 28
  else if month = 4 ∨ month = 6 ∨ month = 9 ∨ month = 11 then
    30
  else
    31

/-- Year, month and day at the front of a text, and what follows. -/
def readDate? (text : Text) : Option ((Nat × Nat × Nat) × Text) := do
  let (year, text) ← fixedDigits? 4 text
  let text ← expect? 0x2d text
  let (month, text) ← twoDigits? 1 12 text
  let text ← expect? 0x2d text
  let (day, text) ← twoDigits? 1 31 text
  return ((year, month, day), text)

/-- Read a date, a time or both, if there is one; it has to be one of the calendar. -/
def readMoment? (text : Text) : Option (Reading Toml) :=
  match readDate? text with
  | some ((year, month, day), after) =>
      if 1 ≤ year ∧ day ≤ daysInMonth year month then
        some (.ok (.moment, skipTimeOfMoment after))
      else
        some (.error (.fault .invalidMoment text))
  | none => (skipTime? text).map fun after => .ok (.moment, after)

/-- Read a value that is neither a string nor written between brackets or braces. -/
def readScalar (text : Text) : Reading Toml :=
  match text.dropBeginning? "true" with
  | some after => .ok (.boolean true, after)
  | none =>
      match text.dropBeginning? "false" with
      | some after => .ok (.boolean false, after)
      | none =>
          match readMoment? text with
          | some reading => reading
          | none => readNumber text

end Toml

end Tolerance
