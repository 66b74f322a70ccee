import Tolerance.Text.Numeral

namespace Tolerance

/-!
# Styled text

Reports are coloured with terminal control sequences.  A stream that is no
terminal receives the text without them.
-/

/-- The colours that reports and log lines use. -/
inductive Colour where
  | red
  | green
  | yellow
  | blue
  | magenta
  | cyan
  | brightBlack
  deriving Repr, DecidableEq

namespace Colour

/-- The number of a foreground colour in a control sequence. -/
def code : Colour → Text
  | .red => "31"
  | .green => "32"
  | .yellow => "33"
  | .blue => "34"
  | .magenta => "35"
  | .cyan => "36"
  | .brightBlack => "90"

end Colour

/-- How a piece of text is shown. -/
structure Style where
  colour : Option Colour := none
  bold : Bool := false
  dim : Bool := false
  deriving Repr, DecidableEq

namespace Style

/-- The control sequence with the given parameter. -/
def sequence (parameter : Text) : Text :=
  0x1b :: 0x5b :: parameter ++ "m"

/-- A piece of text in a style, with all attributes off behind it. -/
def apply (style : Style) (text : Text) : Text :=
  (match style.colour with
    | some colour => sequence colour.code
    | none => []) ++
    (if style.bold then sequence "1" else []) ++
    (if style.dim then sequence "2" else []) ++
    text ++ sequence "0"

/-- Plain text in one colour. -/
def coloured (colour : Colour) : Style where
  colour := some colour

/-- Bold text in one colour. -/
def boldColoured (colour : Colour) : Style where
  colour := some colour
  bold := true

/-- Bold text. -/
def emphasis : Style where
  bold := true

/-- Faint text. -/
def faint : Style where
  dim := true

end Style

namespace Text

/-- A code point inside the parameters of a control sequence. -/
def isSequenceParameter (point : CodePoint) : Bool :=
  point.isDigit || point == 0x3b || point == 0x3f

/-- A letter that ends a control sequence. -/
def isSequenceEnd (point : CodePoint) : Bool :=
  decide (0x41 ≤ point.val ∧ point.val ≤ 0x5a) ||
    decide (0x61 ≤ point.val ∧ point.val ≤ 0x7a)

/-- How many code points belong to a control sequence behind its escape, if there is one. -/
def sequenceLength? : Text → Option Nat
  | 0x5b :: rest =>
      let parameters := rest.takeWhile isSequenceParameter
      match rest.drop parameters.length with
      | point :: _ =>
          if isSequenceEnd point then some (parameters.length + 2) else none
      | [] => none
  | _ => none

/-- The text without its control sequences; the first argument counts code points to drop. -/
def withoutSequences : Nat → Text → Text
  | _, [] => []
  | skip + 1, _ :: rest => withoutSequences skip rest
  | 0, point :: rest =>
      if point = 0x1b then
        match sequenceLength? rest with
        | some length => withoutSequences length rest
        | none => point :: withoutSequences 0 rest
      else
        point :: withoutSequences 0 rest

/-- The text without the control sequences that style it. -/
def withoutStyles (text : Text) : Text :=
  withoutSequences 0 text

end Text

end Tolerance
