import Tolerance.Diagnostic
import Tolerance.Excerpt
import Tolerance.Path
import Tolerance.Text.Styled

namespace Tolerance

/-!
# Showing an excerpt

Each line of an excerpt stands behind its number, and a pointer under the
diagnosed line marks the reported column.
-/

namespace Report

/--
Why a report cannot be written: a number has too many digits, a source file has
a name that cannot be looked up, or a column is further right than any text is
long, or than there is memory for a text.
-/
inductive Fault where
  | numeral (fault : Numeral.Fault)
  | sourcePath (fault : Path.Fault)
  | columnTooLarge
  | outOfMemory
  deriving Repr, DecidableEq

namespace Fault

/-- The wording of a fault. -/
def message : Fault → Text
  | .numeral fault => fault.message
  | .sourcePath fault => fault.message
  | .columnTooLarge => "cannot fit 'int' into an index-sized integer"
  | .outOfMemory => []

end Fault

/-- A whole number in a report. -/
def number (value : Int) : Except Fault Text :=
  (Numeral.write value).mapError .numeral

/-- The location of a diagnostic in a report. -/
def location (diagnostic : Diagnostic) : Except Fault Text :=
  diagnostic.location.mapError .numeral

/-- The widest pointer. -/
def widestPointer : Nat :=
  20

/-- How wide the pointer under a message's column is. -/
def pointerWidth (message : Text) : Nat :=
  let length := if message.isEmpty then 10 else message.length
  max 1 (min length widestPointer)

/-- The width of a line number and the bar behind it. -/
def marginWidth : Nat :=
  7

/-- A length that no text can have. -/
def textLengthBound : Nat :=
  Nat.pow 2 63

/-- A length for which there is no memory on a machine that nothing is said of. -/
def usualMemory : Nat :=
  Nat.pow 2 36

/-- How far right the pointer stands; columns count from one. -/
def pointerIndent (memory : Nat) (column : Int) : Except Fault Nat :=
  let indent := marginWidth + (column - 1).toNat
  if textLengthBound ≤ indent then
    .error .columnTooLarge
  else if memory ≤ indent then
    .error .outOfMemory
  else
    .ok indent

/-- The bar between a line number and the line. -/
def bar : Text :=
  (Style.coloured .brightBlack).apply " | "

/-- A line behind its number. -/
def numberedLine (line : Int) (text : Text) : Except Fault Text := do
  let digits ← number line
  return (Style.coloured .brightBlack).apply (digits.padLeft 4) ++ bar ++ text

/-- Lines behind ascending numbers. -/
def numberedLines (first : Int) : List Text → Except Fault (List Text)
  | [] => .ok []
  | text :: rest => do
      let shown ← numberedLine first text
      let others ← numberedLines (first + 1) rest
      return shown :: others

/-- The pointer line. -/
def pointerLine (memory : Nat) (column : Int) (message : Text) : Except Fault Text := do
  let indent ← pointerIndent memory column
  return List.replicate indent 0x20 ++
    (Style.coloured .magenta).apply (List.replicate (pointerWidth message) 0x2d)

/-- Help behind its label, unless there is none. -/
def helpLines (help : Option Text) : List Text :=
  match help with
  | some text =>
      if text.isEmpty then
        []
      else
        ["  " ++ (Style.coloured .cyan).apply "help:" ++ " " ++ text]
  | none => []

/-- The lines that show an excerpt of a diagnostic. -/
def excerptLines
    (memory : Nat)
    (excerpt : Excerpt)
    (diagnostic : Diagnostic) :
    Except Fault (List Text) := do
  let place ← location diagnostic
  let before ← numberedLines excerpt.firstLine excerpt.before
  let target ← numberedLine excerpt.line excerpt.target
  let pointer ← pointerLine memory excerpt.column diagnostic.message
  let after ← numberedLines (excerpt.line + 1) excerpt.after
  let title :=
    "  " ++ (Style.boldColoured .red).apply "x" ++ " " ++
      (Style.coloured .red).apply diagnostic.rule ++ ": " ++ diagnostic.message
  let heading :=
    "     " ++ (Style.coloured .brightBlack).apply ",-" ++
      (Style.coloured .blue).apply ("[" ++ place ++ "]")
  let footing := "     " ++ (Style.coloured .brightBlack).apply "`----"
  return [title, heading] ++ before ++ [target, pointer] ++ after ++ [footing] ++
    helpLines diagnostic.help

/-- An excerpt of a diagnostic as text, on a machine with memory for texts up to a length. -/
def excerpt
    (excerpt : Excerpt)
    (diagnostic : Diagnostic)
    (memory : Nat := usualMemory) :
    Except Fault Text := do
  let lines ← excerptLines memory excerpt diagnostic
  return Text.join "\n" lines

end Report

end Tolerance
