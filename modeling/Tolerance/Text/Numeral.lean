import Tolerance.Text.Blank
import Tolerance.Text.DecimalDigit

namespace Tolerance

/-!
# Whole numbers in decimal

A number of more than 4300 decimal digits is neither read nor written, so that
a hostile file cannot make one conversion take quadratic time without bound.
-/

namespace Numeral

/-- The largest count of decimal digits that is read or written. -/
def digitLimit : Nat :=
  4300

/-- The smallest number with too many digits. -/
def bound : Nat :=
  Nat.pow 10 digitLimit

/-- Why a number has no decimal text, or a decimal text no number. -/
inductive Fault where
  | unreadable (digits : Nat)
  | unwritable
  deriving Repr, DecidableEq

/-- The digits of a natural number. -/
def ofNat (number : Nat) : Text :=
  (Nat.toDigits 10 number).map CodePoint.ofChar

/-- The digits of a whole number behind its sign, however many they are. -/
def ofInt : Int → Text
  | .ofNat number => ofNat number
  | .negSucc number => 0x2d :: ofNat (number + 1)

/-- Write a whole number, unless it has too many digits. -/
def write (number : Int) : Except Fault Text :=
  if number.natAbs < bound then
    .ok (ofInt number)
  else
    .error .unwritable

/-- The number that a list of digit values stands for. -/
def valueOfDigits (digits : List Nat) : Nat :=
  digits.foldl (fun value digit => value * 10 + digit) 0

/-- The number that digit values stand for, unless there are too many of them. -/
def ofDigits (digits : List Nat) : Except Fault Nat :=
  if digits.length ≤ digitLimit then
    .ok (valueOfDigits digits)
  else
    .error (.unreadable digits.length)

namespace Fault

/-- The wording of a refused conversion. -/
def message : Fault → Text
  | .unreadable digits =>
      "Exceeds the limit (4300 digits) for integer string conversion: value has " ++
        ofNat digits ++
        " digits; use sys.set_int_max_str_digits() to increase the limit"
  | .unwritable =>
      "Exceeds the limit (4300 digits) for integer string conversion; " ++
        "use sys.set_int_max_str_digits() to increase the limit"

end Fault

/-- Why a text that a person wrote is not taken as a whole number. -/
inductive ReadFault where
  | malformed
  | tooLong (digits : Nat)
  deriving Repr, DecidableEq

/--
Digit values at the beginning of a text, and what follows them.  One underscore
may stand between two digits.
-/
def digitRun : Text → List Nat × Text
  | [] => ([], [])
  | 0x5f :: point :: rest =>
      match point.decimalValue? with
      | some value =>
          let (values, after) := digitRun rest
          (value :: values, after)
      | none => ([], 0x5f :: point :: rest)
  | point :: rest =>
      match point.decimalValue? with
      | some value =>
          let (values, after) := digitRun rest
          (value :: values, after)
      | none => ([], point :: rest)

/--
Read an unsigned numeral that must fill the text.  An underscore at the front,
at the end or beside another one is reported before the number of digits.
-/
def readUnsigned (text : Text) : Except ReadFault Nat :=
  let (digits, after) := digitRun text
  if digits.isEmpty || text.head? = some 0x5f || after.head? = some 0x5f then
    .error .malformed
  else if digits.length > digitLimit then
    .error (.tooLong digits.length)
  else if !after.isEmpty then
    .error .malformed
  else
    .ok (valueOfDigits digits)

/--
Read a whole number as a person writes it: white space around it, one sign in
front, digits of any script, underscores between digits.
-/
def read (text : Text) : Except ReadFault Int :=
  match text.trim CodePoint.isWhiteSpace with
  | 0x2d :: rest => (readUnsigned rest).map fun number => -(number : Int)
  | 0x2b :: rest => (readUnsigned rest).map Int.ofNat
  | rest => (readUnsigned rest).map Int.ofNat

end Numeral

end Tolerance
