import Tolerance.Text

namespace Tolerance

/-!
# Source excerpts

An excerpt is one line of a source file with the lines around it.
-/

/-- A line of a file, the column to point at, and the lines before and after. -/
structure Excerpt where
  line : Int
  column : Int
  before : List Text := []
  target : Text
  after : List Text := []
  deriving Repr, DecidableEq

namespace Excerpt

/-- The number of the first line that an excerpt shows. -/
def firstLine (excerpt : Excerpt) : Int :=
  excerpt.line - excerpt.before.length

/-- The lines in front of an index, as many as wanted and there. -/
def linesBefore (lines : List Text) (index : Nat) (wanted : Int) : List Text :=
  (lines.take index).drop (index - wanted).toNat

/--
The lines behind an index, as many as wanted and there.  An end below zero
counts from the end of the file.
-/
def linesAfter (lines : List Text) (index : Nat) (wanted : Int) : List Text :=
  let stop := index + 1 + wanted
  let stop := if stop < 0 then stop + lines.length else stop
  (lines.take stop.toNat).drop (index + 1)

/-- Cut an excerpt around a line, if the file has it. -/
def cut?
    (lines : List Text)
    (line : Int)
    (column : Option Int)
    (context : Int) :
    Option Excerpt :=
  let index := (line - 1).toNat
  match lines[index]? with
  | none => none
  | some target =>
      some {
        line := line
        column := column.getD 0
        before := linesBefore lines index context
        target := target
        after := linesAfter lines index context
      }

end Excerpt

end Tolerance
