import Tolerance.Diagnostic
import Tolerance.Excerpt
import Tolerance.OrderedMap
import Tolerance.Text.Line
import Tolerance.Workspace

namespace Tolerance

/-!
# Reading source files

A reader opens each file at most once, so that all excerpts of one report show
the same lines, whatever happens to the file meanwhile.
-/

/-- Where source files are looked up, how much context excerpts have, and what was read. -/
structure SourceReader where
  root : Path := { anchor := .relative, parts := [] }
  context : Int := 2
  views : OrderedMap (Option (List Text)) := OrderedMap.empty
  deriving DecidableEq

namespace SourceReader

/-- The path of a source file. -/
def pathOf (reader : SourceReader) (filename : Text) : Path :=
  (Path.ofText filename).within reader.root

/-- The lines of a file, or nothing if it cannot be read as text. -/
def readLines (workspace : Workspace) (path : Path) : Except Path.Fault (Option (List Text)) :=
  match workspace.readFile path with
  | .error (.path fault) => .error fault
  | .error (.system _) => .ok none
  | .ok bytes =>
      match Utf8.decode bytes with
      | .error _ => .ok none
      | .ok text => .ok (some text.unifyLineEndings.lines)

/-- The lines of a file as they were when it was first opened. -/
def lines
    (reader : SourceReader)
    (workspace : Workspace)
    (filename : Text) :
    Except Path.Fault (Option (List Text) × SourceReader) :=
  match reader.views.get? filename with
  | some view => .ok (view, reader)
  | none =>
      match readLines workspace (reader.pathOf filename) with
      | .error fault => .error fault
      | .ok view =>
          .ok (view, { reader with views := reader.views.insert filename view })

/-- The excerpt around a diagnostic, if it has a line and the line can be read. -/
def excerpt?
    (reader : SourceReader)
    (workspace : Workspace)
    (diagnostic : Diagnostic) :
    Except Path.Fault (Option Excerpt × SourceReader) :=
  match diagnostic.line with
  | none => .ok (none, reader)
  | some line =>
      if line < 1 then
        .ok (none, reader)
      else
        match reader.lines workspace diagnostic.filename with
        | .error fault => .error fault
        | .ok (none, after) => .ok (none, after)
        | .ok (some lines, after) =>
            .ok (Excerpt.cut? lines line diagnostic.column reader.context, after)

end SourceReader

end Tolerance
