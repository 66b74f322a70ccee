import Tolerance.Toml

namespace Tolerance

/-!
# Strings in TOML

A string stands between double quotes, with escapes, or between single quotes,
as it is.  Three quotes open a string that may run over several lines; a line
feed right behind them does not belong to it, and up to two quotes right before
the closing ones do.
-/

namespace Toml

/-- A control character other than a tab; none may stand in a comment or a one-line string. -/
def isControl (point : CodePoint) : Bool :=
  decide (point.val < 0x20 ∧ point.val ≠ 0x09) || point == 0x7f

/-- A control character that may not stand in a string of several lines. -/
def isControlInLines (point : CodePoint) : Bool :=
  isControl point && point != 0x0a

/-- A blank within a line. -/
def isBlank (point : CodePoint) : Bool :=
  point == 0x20 || point == 0x09

/-- A blank or a line feed. -/
def isBlankOrNewline (point : CodePoint) : Bool :=
  isBlank point || point == 0x0a

/-- What stands before the first occurrence of a delimiter, and what behind it. -/
def splitAtDelimiter? (delimiter : Text) : Text → Option (Text × Text)
  | [] => none
  | point :: rest =>
      match Text.dropBeginning? (point :: rest) delimiter with
      | some after => some ([], after)
      | none =>
          (splitAtDelimiter? delimiter rest).map fun (content, after) =>
            (point :: content, after)

/-- Read a string without escapes, behind its opening delimiter. -/
def readLiteral
    (delimiter : Text)
    (isIllegal : CodePoint → Bool)
    (text : Text) :
    Reading Text :=
  match splitAtDelimiter? delimiter text with
  | none => .error (.fault (.expectedDelimiter delimiter) [])
  | some (content, after) =>
      match content.find? isIllegal with
      | some point =>
          .error (.fault (.invalidCharacter point)
            (text.drop (content.takeWhile fun other => !isIllegal other).length))
      | none => .ok (content, after)

/-- The code point that an escape of one letter stands for. -/
def simpleEscape? (letter : CodePoint) : Option CodePoint :=
  if letter = 0x62 then
    some 0x08
  else if letter = 0x74 then
    some 0x09
  else if letter = 0x6e then
    some 0x0a
  else if letter = 0x66 then
    some 0x0c
  else if letter = 0x72 then
    some 0x0d
  else if letter = 0x22 ∨ letter = 0x5c then
    some letter
  else
    none

/-- The number of some hexadecimal digits. -/
def hexadecimal? (digits : Text) : Option Nat :=
  digits.foldl
    (fun number? digit => do return (← number?) * 16 + (← digit.hexDigitValue?))
    (some 0)

/-- Read the digits of a numeric escape: the code point and the count of code points read. -/
def readNumericEscape (length : Nat) (text : Text) : Except Stop (Text × Nat) :=
  let digits := text.take length
  match hexadecimal? digits with
  | none => .error (.fault .invalidHexValue text)
  | some number =>
      if digits.length < length then
        .error (.fault .invalidHexValue text)
      else if (number < 0xd800 ∨ 0xdfff < number) ∧ number < 0x110000 then
        .ok ([CodePoint.ofNat number], length + 1)
      else
        .error (.fault .notAScalarValue (text.drop length))

/--
Read a line break that a backslash hides, with all blanks behind it: the count
of code points read.  Only blanks may stand before the line break.
-/
def readHiddenBreak (text : Text) : Except Stop (Text × Nat) :=
  let blanks := text.takeWhile isBlank
  match text.drop blanks.length with
  | [] => .ok ([], blanks.length)
  | 0x0a :: rest =>
      .ok ([], blanks.length + 1 + (rest.takeWhile isBlankOrNewline).length)
  | other => .error (.fault .unescapedBackslash other)

/--
Read an escape behind its backslash: what it stands for and the count of code
points read.
-/
def readEscape (multiline : Bool) (text : Text) : Except Stop (Text × Nat) :=
  match text with
  | [] => .error (.fault .unescapedBackslash [])
  | letter :: rest =>
      if multiline && isBlankOrNewline letter then
        readHiddenBreak text
      else if letter = 0x75 then
        readNumericEscape 4 rest
      else if letter = 0x55 then
        readNumericEscape 8 rest
      else
        match simpleEscape? letter with
        | some point => .ok ([point], 1)
        | none => .error (.fault .unescapedBackslash rest)

/-- What a code point in a string with escapes means. -/
inductive BasicStep where
  | close (after : Text)
  | escape
  | illegal
  | keep

/-- Tell what a code point in a string with escapes means, by what follows it. -/
def basicStep (multiline : Bool) (point : CodePoint) (rest : Text) : BasicStep :=
  if point = 0x22 then
    if multiline then
      match rest with
      | 0x22 :: 0x22 :: after => .close after
      | _ => .keep
    else
      .close rest
  else if point = 0x5c then
    .escape
  else if (if multiline then isControlInLines point else isControl point) then
    .illegal
  else
    .keep

/--
Read a string with escapes, behind its opening quotes.  The second argument
counts the code points at the front that belong to an escape read before.
-/
def readBasic (multiline : Bool) : Nat → Text → Reading Text
  | _, [] => .error (.fault .unterminatedString [])
  | skip + 1, _ :: rest => readBasic multiline skip rest
  | 0, point :: rest =>
      match basicStep multiline point rest with
      | .close after => .ok ([], after)
      | .illegal => .error (.fault (.illegalCharacter point) (point :: rest))
      | .keep =>
          match readBasic multiline 0 rest with
          | .ok (content, after) => .ok (point :: content, after)
          | .error stop => .error stop
      | .escape =>
          match readEscape multiline rest with
          | .error stop => .error stop
          | .ok (escaped, count) =>
              match readBasic multiline count rest with
              | .ok (content, after) => .ok (escaped ++ content, after)
              | .error stop => .error stop

/-- Take up to two more quotes into a string of several lines. -/
def takeClosingQuotes (quote : CodePoint) (content text : Text) : Text × Text :=
  match text with
  | first :: rest =>
      if first = quote then
        match rest with
        | second :: after =>
            if second = quote then
              (content ++ [quote, quote], after)
            else
              (content ++ [quote], rest)
        | [] => (content ++ [quote], rest)
      else
        (content, text)
  | [] => (content, text)

/-- The text without a line feed at its front. -/
def skipFirstBreak (text : Text) : Text :=
  match text with
  | 0x0a :: rest => rest
  | _ => text

/-- Read a string of one line, behind the given opening quote. -/
def readOneLine (quote : CodePoint) (text : Text) : Reading Text :=
  if quote = 0x22 then
    readBasic false 0 text
  else
    readLiteral [quote] isControl text

/-- Read a string of several lines up to its closing quotes, behind three of the given quotes. -/
def readLines (quote : CodePoint) (text : Text) : Reading Text :=
  if quote = 0x22 then
    readBasic true 0 (skipFirstBreak text)
  else
    readLiteral [quote, quote, quote] isControlInLines (skipFirstBreak text)

/-- Read a string that may run over several lines, behind its first quote. -/
def readString (quote : CodePoint) (text : Text) : Reading Text :=
  match Text.dropBeginning? text [quote, quote] with
  | some inside =>
      match readLines quote inside with
      | .ok (content, after) => .ok (takeClosingQuotes quote content after)
      | .error stop => .error stop
  | none => readOneLine quote text

end Toml

end Tolerance
