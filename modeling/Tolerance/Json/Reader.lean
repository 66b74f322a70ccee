import Tolerance.Json
import Tolerance.Text.Line

namespace Tolerance

/-!
# Reading JSON

The reader accepts one value with blanks around it, and beyond the standard the
three words `NaN`, `Infinity` and `-Infinity` as numbers and a lone half of a
surrogate pair as an escape.  A refusal names what was wrong and where.  Of two
fields with one name the later value counts, at the place of the first.  What is
nested too deep is not read, so that a hostile file cannot exhaust the stack; how
deep that is depends on how much of the stack the caller has left.
-/

namespace Json

/-- What can be wrong with a JSON text. -/
inductive Fault where
  | expectingValue
  | extraData
  | unterminatedString
  | invalidControlCharacter
  | invalidEscape
  | invalidUnicodeEscape
  | expectingFieldName
  | expectingColon
  | expectingComma
  | byteOrderMark
  deriving Repr, DecidableEq

/-- A value that other values are nested in. -/
inductive Container where
  | array
  | object
  deriving Repr, DecidableEq

/--
Why no value was read: a fault at a place, a numeral with too many digits, or a
container that is nested too deep.
-/
inductive ReadError where
  | malformed (fault : Fault) (place : Place)
  | numeral (fault : Numeral.Fault)
  | tooDeep (container : Container)
  deriving Repr, DecidableEq

namespace Fault

/-- The wording of a fault. -/
def message : Fault → Text
  | .expectingValue => "Expecting value"
  | .extraData => "Extra data"
  | .unterminatedString => "Unterminated string starting at"
  | .invalidControlCharacter => "Invalid control character at"
  | .invalidEscape => "Invalid \\escape"
  | .invalidUnicodeEscape => "Invalid \\uXXXX escape"
  | .expectingFieldName => "Expecting property name enclosed in double quotes"
  | .expectingColon => "Expecting ':' delimiter"
  | .expectingComma => "Expecting ',' delimiter"
  | .byteOrderMark => "Unexpected UTF-8 BOM (decode using utf-8-sig)"

end Fault

namespace Container

/-- What a container is called. -/
def name : Container → Text
  | .array => "array"
  | .object => "object"

/-- The wording of the refusal to read a container that is nested too deep. -/
def tooDeepMessage (container : Container) : Text :=
  "maximum recursion depth exceeded while decoding a JSON " ++ container.name ++
    " from a unicode string"

end Container

namespace ReadError

/-- The wording of a refusal, with the place of the fault. -/
def message : ReadError → Text
  | .malformed fault place =>
      fault.message ++ ": line " ++ Numeral.ofNat place.line ++
        " column " ++ Numeral.ofNat place.column ++
        " (char " ++ Numeral.ofNat place.offset ++ ")"
  | .numeral fault => fault.message
  | .tooDeep container => container.tooDeepMessage

end ReadError

/-- Why reading stopped; a fault carries the rest of the text from its place on. -/
inductive Stop where
  | fault (fault : Fault) (rest : Text)
  | numeral (fault : Numeral.Fault)
  | tooDeep (container : Container)

/-- A part of a value together with the text behind it. -/
abbrev Reading (α : Type) := Except Stop (α × Text)

/-- The four code points that may stand between the tokens of a JSON text. -/
def isBlank (point : CodePoint) : Bool :=
  point == 0x20 || point == 0x09 || point == 0x0a || point == 0x0d

/-- The text from its first token on. -/
def skipBlanks (text : Text) : Text :=
  text.dropWhile isBlank

/-- The code point that an escape of one letter stands for. -/
def simpleEscape? (letter : CodePoint) : Option CodePoint :=
  if letter = 0x22 ∨ letter = 0x5c ∨ letter = 0x2f then
    some letter
  else if letter = 0x62 then
    some 0x08
  else if letter = 0x66 then
    some 0x0c
  else if letter = 0x6e then
    some 0x0a
  else if letter = 0x72 then
    some 0x0d
  else if letter = 0x74 then
    some 0x09
  else
    none

/-- The number of four hexadecimal digits; something must follow them. -/
def fourDigits? : Text → Option Nat
  | first :: second :: third :: fourth :: _ :: _ => do
      let high ← first.hexDigitValue?
      let upper ← second.hexDigitValue?
      let lower ← third.hexDigitValue?
      let low ← fourth.hexDigitValue?
      some (high * 0x1000 + upper * 0x100 + lower * 0x10 + low)
  | _ => none

/-- The code point of a surrogate pair. -/
def joinSurrogates (high low : CodePoint) : CodePoint :=
  CodePoint.ofNat (0x10000 + (high.val - 0xd800) * 0x400 + (low.val - 0xdc00))

/--
Read the rest of a `\u` escape behind its `u`: the code point and the count of
code points read.  A high surrogate is joined with a low one that is escaped
right behind it.
-/
def readUnicodeEscape (letter text : Text) : Except Stop (CodePoint × Nat) :=
  match fourDigits? text with
  | none => .error (.fault .invalidUnicodeEscape letter)
  | some number =>
      let point := CodePoint.ofNat number
      if point.isHighSurrogate then
        match text.drop 4 with
        | 0x5c :: 0x75 :: second =>
            match fourDigits? second with
            | none => .error (.fault .invalidUnicodeEscape (0x75 :: second))
            | some number =>
                let other := CodePoint.ofNat number
                if other.isLowSurrogate then
                  .ok (joinSurrogates point other, 10)
                else
                  .ok (point, 4)
        | _ => .ok (point, 4)
      else
        .ok (point, 4)

/--
Read an escape behind its backslash: the code point that it stands for and the
count of code points read.
-/
def readEscape (opening slash : Text) : Text → Except Stop (CodePoint × Nat)
  | [] => .error (.fault .unterminatedString opening)
  | letter :: rest =>
      if letter = 0x75 then
        match readUnicodeEscape (letter :: rest) rest with
        | .ok (point, count) => .ok (point, count + 1)
        | .error stop => .error stop
      else
        match simpleEscape? letter with
        | some point => .ok (point, 1)
        | none => .error (.fault .invalidEscape slash)

/--
Read a string behind its opening quote.  The second argument counts the code
points at the front that belong to an escape read before.
-/
def readString (opening : Text) : Nat → Text → Reading Text
  | _, [] => .error (.fault .unterminatedString opening)
  | skip + 1, _ :: rest => readString opening skip rest
  | 0, point :: rest =>
      if point = 0x22 then
        .ok ([], rest)
      else if point = 0x5c then
        match readEscape opening (point :: rest) rest with
        | .error stop => .error stop
        | .ok (escaped, count) =>
            match readString opening count rest with
            | .ok (content, after) => .ok (escaped :: content, after)
            | .error stop => .error stop
      else if point.val < 0x20 then
        .error (.fault .invalidControlCharacter (point :: rest))
      else
        match readString opening 0 rest with
        | .ok (content, after) => .ok (point :: content, after)
        | .error stop => .error stop

/-- The digits at the front, and what follows them. -/
def digitsOf (text : Text) : Text × Text :=
  (text.takeWhile CodePoint.isDigit, text.dropWhile CodePoint.isDigit)

/-- The fraction at the front of a text, if a digit follows the point. -/
def fractionOf (text : Text) : Text × Text :=
  match text with
  | 0x2e :: rest =>
      let (digits, after) := digitsOf rest
      if digits.isEmpty then ([], text) else (0x2e :: digits, after)
  | _ => ([], text)

/-- The exponent at the front of a text, if it has a digit. -/
def exponentOf (text : Text) : Text × Text :=
  match text with
  | letter :: rest =>
      if letter = 0x65 ∨ letter = 0x45 then
        let (sign, unsigned) :=
          match rest with
          | point :: later =>
              if point = 0x2b ∨ point = 0x2d then ([point], later) else ([], rest)
          | [] => ([], rest)
        let (digits, after) := digitsOf unsigned
        if digits.isEmpty then ([], text) else (letter :: sign ++ digits, after)
      else
        ([], text)
  | [] => ([], text)

/-- The digits of the whole part: a single zero, or digits that begin with another one. -/
def wholePartOf (text : Text) : Text × Text :=
  match text with
  | 0x30 :: rest => ([0x30], rest)
  | _ => digitsOf text

/-- The values of the digits `0` to `9`. -/
def digitValues (digits : Text) : List Nat :=
  digits.map fun digit => digit.val - 0x30

/-- Read a number; `text` is where it starts. -/
def readNumber (text : Text) : Reading Json :=
  let (negative, unsigned) :=
    match text with
    | 0x2d :: rest => (true, rest)
    | _ => (false, text)
  let (whole, afterWhole) := wholePartOf unsigned
  if whole.isEmpty then
    .error (.fault .expectingValue text)
  else
    let (fraction, afterFraction) := fractionOf afterWhole
    let (exponent, after) := exponentOf afterFraction
    if fraction.isEmpty && exponent.isEmpty then
      match Numeral.ofDigits (digitValues whole) with
      | .ok number => .ok (.integer (if negative then -(number : Int) else number), after)
      | .error fault => .error (.numeral fault)
    else
      .ok (.real (text.take (text.length - after.length)), after)

/-- Read a word or a number. -/
def readScalar (text : Text) : Reading Json :=
  match text.dropBeginning? "null" with
  | some after => .ok (.null, after)
  | none =>
    match text.dropBeginning? "true" with
    | some after => .ok (.boolean true, after)
    | none =>
      match text.dropBeginning? "false" with
      | some after => .ok (.boolean false, after)
      | none =>
        match text.dropBeginning? "NaN" with
        | some after => .ok (.real "NaN", after)
        | none =>
          match text.dropBeginning? "Infinity" with
          | some after => .ok (.real "Infinity", after)
          | none =>
            match text.dropBeginning? "-Infinity" with
            | some after => .ok (.real "-Infinity", after)
            | none => readNumber text

/-- How many containers can be nested in one another for a caller that says nothing of it. -/
def usualRoom : Nat :=
  990

/-- The room inside a container, if there is room for it. -/
def enter (container : Container) : Nat → Except Stop Nat
  | 0 => .error (.tooDeep container)
  | room + 1 => .ok room

mutual

/--
Read a value.  The first argument bounds the number of steps, for which twice
the length of the text is always enough; the second one says how many containers
can still be nested in one another.
-/
def readValue : Nat → Nat → Text → Reading Json
  | 0, _, text => .error (.fault .expectingValue text)
  | fuel + 1, room, text =>
      match text with
      | [] => .error (.fault .expectingValue [])
      | point :: rest =>
          if point = 0x22 then
            match readString text 0 rest with
            | .ok (content, after) => .ok (.string content, after)
            | .error stop => .error stop
          else if point = 0x7b then
            match enter .object room with
            | .error stop => .error stop
            | .ok inner =>
                match skipBlanks rest with
                | 0x7d :: after => .ok (.object [], after)
                | inside =>
                    match readFields fuel inner [] inside with
                    | .ok (fields, after) => .ok (.object fields, after)
                    | .error stop => .error stop
          else if point = 0x5b then
            match enter .array room with
            | .error stop => .error stop
            | .ok inner =>
                match skipBlanks rest with
                | 0x5d :: after => .ok (.array [], after)
                | inside =>
                    match readItems fuel inner inside with
                    | .ok (items, after) => .ok (.array items, after)
                    | .error stop => .error stop
          else
            readScalar text

/-- Read the items of an array up to its closing bracket. -/
def readItems : Nat → Nat → Text → Reading (List Json)
  | 0, _, text => .error (.fault .expectingValue text)
  | fuel + 1, room, text =>
      match readValue fuel room text with
      | .error stop => .error stop
      | .ok (item, afterItem) =>
          match skipBlanks afterItem with
          | 0x5d :: after => .ok ([item], after)
          | 0x2c :: next =>
              match readItems fuel room (skipBlanks next) with
              | .ok (items, after) => .ok (item :: items, after)
              | .error stop => .error stop
          | other => .error (.fault .expectingComma other)

/-- Read the fields of an object up to its closing brace, behind those read before. -/
def readFields :
    Nat → Nat → List (Text × Json) → Text → Reading (List (Text × Json))
  | 0, _, _, text => .error (.fault .expectingValue text)
  | fuel + 1, room, before, text =>
      match text with
      | 0x22 :: rest =>
          match readString text 0 rest with
          | .error stop => .error stop
          | .ok (name, afterName) =>
              match skipBlanks afterName with
              | 0x3a :: afterColon =>
                  match readValue fuel room (skipBlanks afterColon) with
                  | .error stop => .error stop
                  | .ok (value, afterValue) =>
                      match skipBlanks afterValue with
                      | 0x7d :: after => .ok (setField name value before, after)
                      | 0x2c :: next =>
                          readFields fuel room (setField name value before)
                            (skipBlanks next)
                      | other => .error (.fault .expectingComma other)
              | other => .error (.fault .expectingColon other)
      | other => .error (.fault .expectingFieldName other)

end

/-- A bound on the number of steps in which a text is read. -/
def stepBound (text : Text) : Nat :=
  2 * text.length + 2

/-- Read one value that fills a text but for the blanks around it. -/
def readDocument (room : Nat) (text : Text) : Except Stop Json :=
  match text with
  | 0xfeff :: _ => .error (.fault .byteOrderMark text)
  | _ =>
      match readValue (stepBound text) room (skipBlanks text) with
      | .error stop => .error stop
      | .ok (value, after) =>
          match skipBlanks after with
          | [] => .ok value
          | other => .error (.fault .extraData other)

/-- Read a JSON text, in which only so many containers can be nested in one another. -/
def parse (text : Text) (room : Nat := usualRoom) : Except ReadError Json :=
  match readDocument room text with
  | .ok value => .ok value
  | .error (.fault fault rest) => .error (.malformed fault (Place.ofRest text rest))
  | .error (.numeral fault) => .error (.numeral fault)
  | .error (.tooDeep container) => .error (.tooDeep container)

end Json

end Tolerance
