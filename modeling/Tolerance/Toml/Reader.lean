import Tolerance.Toml.Document
import Tolerance.Toml.Quoted
import Tolerance.Toml.Scalar

namespace Tolerance

/-!
# Reading TOML

A document is a sequence of statements, one on a line: a header of a table, a
header of an array of tables, or a key with its value.  Each statement takes
effect before the rest of its line is read, so that the first fault in the
order of the document is the one that is reported.  Values that are nested too
deep are not read, so that a hostile file cannot exhaust the stack.
-/

namespace Toml

/-- The text from its first code point that is no blank of a line. -/
def skipBlanks (text : Text) : Text :=
  text.dropWhile isBlank

/-- The text from the end of a comment on. -/
def skipCommentText : Text → Except Stop Text
  | [] => .ok []
  | point :: rest =>
      if point = 0x0a then
        .ok (point :: rest)
      else if isControl point then
        .error (.fault (.invalidCharacter point) (point :: rest))
      else
        skipCommentText rest

/-- The text without a comment at its front. -/
def skipComment (text : Text) : Except Stop Text :=
  match text with
  | 0x23 :: rest => skipCommentText rest
  | _ => .ok text

/-- The text from the next token of an array on; the first argument says whether a comment runs. -/
def skipBetweenItems : Bool → Text → Except Stop Text
  | _, [] => .ok []
  | true, point :: rest =>
      if point = 0x0a then
        skipBetweenItems false rest
      else if isControl point then
        .error (.fault (.invalidCharacter point) (point :: rest))
      else
        skipBetweenItems true rest
  | false, point :: rest =>
      if isBlankOrNewline point then
        skipBetweenItems false rest
      else if point = 0x23 then
        skipBetweenItems true rest
      else
        .ok (point :: rest)

/-- A code point of a key that needs no quotes. -/
def isBareKeyPoint (point : CodePoint) : Bool :=
  point.isDigit ||
    decide (0x41 ≤ point.val ∧ point.val ≤ 0x5a) ||
    decide (0x61 ≤ point.val ∧ point.val ≤ 0x7a) ||
    point == 0x2d || point == 0x5f

/-- A code point that a key can begin with. -/
def isKeyStart (point : CodePoint) : Bool :=
  isBareKeyPoint point || point == 0x22 || point == 0x27

/-- Read one part of a key. -/
def readKeyPart (text : Text) : Reading Text :=
  match text with
  | point :: rest =>
      if isBareKeyPoint point then
        .ok (text.takeWhile isBareKeyPoint, text.dropWhile isBareKeyPoint)
      else if point = 0x22 ∨ point = 0x27 then
        readOneLine point rest
      else
        .error (.fault .invalidKeyPart text)
  | [] => .error (.fault .invalidKeyPart [])

/-- Read the parts of a key; the first argument bounds their number. -/
def readKeyParts : Nat → Text → Reading Key
  | 0, text => .error (.fault .invalidKeyPart text)
  | fuel + 1, text =>
      match readKeyPart text with
      | .error stop => .error stop
      | .ok (part, afterPart) =>
          match skipBlanks afterPart with
          | 0x2e :: next =>
              match readKeyParts fuel (skipBlanks next) with
              | .ok (parts, after) => .ok (part :: parts, after)
              | .error stop => .error stop
          | after => .ok ([part], after)

/-- Read a dotted key with the blanks behind it. -/
def readKey (text : Text) : Reading Key :=
  readKeyParts (text.length + 1) text

/-- Read a key and the sign behind it, up to the value. -/
def readKeyBeforeValue (text : Text) : Reading Key :=
  match readKey text with
  | .error stop => .error stop
  | .ok (key, 0x3d :: after) => .ok (key, skipBlanks after)
  | .ok (_, other) => .error (.fault .expectedEquals other)

/-- The room that there is for arrays and inline tables nested in one another. -/
def nestingRoom : Nat :=
  987

/-- The room that an array takes. -/
def arrayRoom : Nat :=
  2

/-- The room that an inline table takes. -/
def inlineTableRoom : Nat :=
  3

/-- The room inside an array or an inline table, if there is room for it. -/
def enter (taken room : Nat) : Except Stop Nat :=
  if taken ≤ room then .ok (room - taken) else .error .tooDeep

mutual

/--
Read a value.  The first argument bounds the number of steps, for which twice
the length of the text is always enough; the second one is the room that is left
for nested values.
-/
def readValue : Nat → Nat → Text → Reading Toml
  | 0, _, text => .error (.fault .invalidValue text)
  | fuel + 1, room, text =>
      match text with
      | [] => .error (.fault .invalidValue [])
      | point :: rest =>
          if point = 0x22 ∨ point = 0x27 then
            match readString point rest with
            | .ok (content, after) => .ok (.string content, after)
            | .error stop => .error stop
          else if point = 0x5b then
            match enter arrayRoom room with
            | .error stop => .error stop
            | .ok inner =>
                match skipBetweenItems false rest with
                | .error stop => .error stop
                | .ok (0x5d :: after) => .ok (.array [], after)
                | .ok inside =>
                    match readItems fuel inner inside with
                    | .ok (items, after) => .ok (.array items, after)
                    | .error stop => .error stop
          else if point = 0x7b then
            match enter inlineTableRoom room with
            | .error stop => .error stop
            | .ok inner =>
                match skipBlanks rest with
                | 0x7d :: after => .ok (.table [], after)
                | inside =>
                    match readInlineFields fuel inner [] [] inside with
                    | .ok (fields, after) => .ok (.table fields, after)
                    | .error stop => .error stop
          else
            readScalar text

/-- Read the items of an array up to its closing bracket. -/
def readItems : Nat → Nat → Text → Reading (List Toml)
  | 0, _, text => .error (.fault .invalidValue text)
  | fuel + 1, room, text =>
      match readValue fuel room text with
      | .error stop => .error stop
      | .ok (item, afterItem) =>
          match skipBetweenItems false afterItem with
          | .error stop => .error stop
          | .ok (0x5d :: after) => .ok ([item], after)
          | .ok (0x2c :: next) =>
              match skipBetweenItems false next with
              | .error stop => .error stop
              | .ok (0x5d :: after) => .ok ([item], after)
              | .ok following =>
                  match readItems fuel room following with
                  | .ok (items, after) => .ok (item :: items, after)
                  | .error stop => .error stop
          | .ok other => .error (.fault .unclosedArray other)

/--
Read the fields of an inline table up to its closing brace, behind those read
before; the third argument lists the keys among them that hold containers.
-/
def readInlineFields : Nat → Nat → List Key → Table → Text → Reading Table
  | 0, _, _, _, text => .error (.fault .invalidValue text)
  | fuel + 1, room, frozen, before, text =>
      match readKeyBeforeValue text with
      | .error stop => .error stop
      | .ok (key, valueText) =>
          match readValue fuel room valueText with
          | .error stop => .error stop
          | .ok (value, afterValue) =>
              match assignInline frozen before key value with
              | .error fault => .error (.fault fault afterValue)
              | .ok fields =>
                  match skipBlanks afterValue with
                  | 0x7d :: after => .ok (fields, after)
                  | 0x2c :: next =>
                      readInlineFields fuel room
                        (if value.isContainer then key :: frozen else frozen)
                        fields
                        (skipBlanks next)
                  | other => .error (.fault .unclosedInlineTable other)

end

/-- A bound on the number of steps in which a text is read. -/
def stepBound (text : Text) : Nat :=
  2 * text.length + 2

/-- Let a step of building take effect, or report its fault at the given rest of the text. -/
def takeEffect (rest : Text) (built : Except Fault Document) : Except Stop Document :=
  built.mapError fun fault => .fault fault rest

/-- Read a key with its value. -/
def readAssignment
    (document : Document)
    (text : Text) :
    Except Stop (Document × Text) := do
  let (key, valueText) ← readKeyBeforeValue text
  let (value, after) ← readValue (stepBound valueText) nestingRoom valueText
  let document ← takeEffect after (document.assign key value)
  return (document, skipBlanks after)

/-- Read the header of a table behind its bracket. -/
def readTableHeader
    (document : Document)
    (text : Text) :
    Except Stop (Document × Text) := do
  let (key, afterKey) ← readKey (skipBlanks text)
  let document ← takeEffect afterKey (document.declareTable key)
  match afterKey with
  | 0x5d :: after => return (document, skipBlanks after)
  | _ => throw (.fault .expectedTableEnd afterKey)

/-- Read the header of an array of tables behind its two brackets. -/
def readArrayHeader
    (document : Document)
    (text : Text) :
    Except Stop (Document × Text) := do
  let (key, afterKey) ← readKey (skipBlanks text)
  let document ← takeEffect afterKey (document.declareArrayTable key)
  match afterKey with
  | 0x5d :: 0x5d :: after => return (document, skipBlanks after)
  | _ => throw (.fault .expectedArrayOfTablesEnd afterKey)

/-- Read what stands on a line before a comment, with the blanks behind it. -/
def readStatement (document : Document) (text : Text) : Reading Document :=
  match text with
  | 0x5b :: 0x5b :: rest => readArrayHeader document.finishSection rest
  | 0x5b :: rest => readTableHeader document.finishSection rest
  | point :: rest =>
      if isKeyStart point then
        readAssignment document (point :: rest)
      else if point = 0x23 then
        .ok (document, point :: rest)
      else
        .error (.fault .invalidStatement (point :: rest))
  | [] => .ok (document, [])

/-- Read the statements of a document; the first argument bounds the number of its lines. -/
def readStatements : Nat → Document → Text → Except Stop Document
  | 0, document, _ => .ok document
  | fuel + 1, document, text =>
      match skipBlanks text with
      | [] => .ok document
      | 0x0a :: rest => readStatements fuel document rest
      | statement =>
          match readStatement document statement with
          | .error stop => .error stop
          | .ok (document, afterStatement) =>
              match skipComment afterStatement with
              | .error stop => .error stop
              | .ok [] => .ok document
              | .ok (0x0a :: rest) => readStatements fuel document rest
              | .ok other => .error (.fault .expectedEndOfStatement other)

/-- Write every CR LF as LF. -/
def unifyBreaks : Text → Text
  | [] => []
  | 0x0d :: 0x0a :: rest => 0x0a :: unifyBreaks rest
  | point :: rest => point :: unifyBreaks rest

/-- The place where a rest of a document starts, unless the rest is empty. -/
def placeOf (document rest : Text) : Option Place :=
  match rest with
  | [] => none
  | _ => some (Place.ofRest document rest)

/-- Read a TOML document. -/
def parse (text : Text) : Except ReadError Table :=
  let source := unifyBreaks text
  match readStatements (source.length + 1) {} source with
  | .ok document => .ok document.root
  | .error (.fault fault rest) => .error (.malformed fault (placeOf source rest))
  | .error (.numeral fault) => .error (.numeral fault)
  | .error .tooDeep => .error .tooDeep

end Toml

end Tolerance
