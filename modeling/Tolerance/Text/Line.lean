import Tolerance.Text.Numeral

namespace Tolerance

/-!
# Lines of a text

A text that comes from a file or from standard input has its line endings made
equal first.  A fault in a document is reported at a place: an offset, a line
and a column, where only U+000A ends a line.
-/

namespace Text

/-- Write every line ending, CR LF and a lone CR included, as LF. -/
def unifyLineEndings : Text → Text
  | [] => []
  | 0x0d :: 0x0a :: rest => 0x0a :: unifyLineEndings rest
  | 0x0d :: rest => 0x0a :: unifyLineEndings rest
  | point :: rest => point :: unifyLineEndings rest

/-- The pieces between line feeds; a text that ends with one has an empty last line. -/
def lines (text : Text) : List Text :=
  splitOn 0x0a text

end Text

/-- A place in a document; offsets count from zero, lines and columns from one. -/
structure Place where
  offset : Nat
  line : Nat
  column : Nat
  deriving Repr, DecidableEq

namespace Place

/-- The place right after the given beginning of a document. -/
def after (consumed : Text) : Place where
  offset := consumed.length
  line := consumed.count 0x0a + 1
  column := (consumed.reverse.takeWhile (· != 0x0a)).length + 1

/-- The place in a document where the given rest of it starts. -/
def ofRest (document rest : Text) : Place :=
  after (document.take (document.length - rest.length))

end Place

end Tolerance
