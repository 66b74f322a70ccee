import Tolerance.Text.Numeral
import Tolerance.Text.Quoted

namespace Tolerance

/-!
# UTF-8

Files hold bytes.  Decoding is strict: it accepts exactly the shortest forms of
scalar values, and a refusal says which bytes stopped it and why.  Encoding
refuses surrogates; a path alone may hold the code points U+DC80 to U+DCFF,
each of which stands for one byte that was no UTF-8.
-/

/-- The contents of a file, or the bytes of a file name. -/
abbrev Bytes := List UInt8

namespace Utf8

/-- A run of surrogates that have no encoding. -/
structure EncodeFault where
  start : Nat
  stop : Nat
  point : CodePoint
  deriving Repr, DecidableEq

namespace EncodeFault

/-- The wording of a refused encoding. -/
def message (fault : EncodeFault) : Text :=
  if fault.stop = fault.start + 1 then
    "'utf-8' codec can't encode character '" ++ fault.point.numericEscape ++
      "' in position " ++ Numeral.ofNat fault.start ++ ": surrogates not allowed"
  else
    "'utf-8' codec can't encode characters in position " ++
      Numeral.ofNat fault.start ++ "-" ++ Numeral.ofNat (fault.stop - 1) ++
      ": surrogates not allowed"

end EncodeFault

/-- The bytes of a code point, in as few bytes as its number allows. -/
def encodePoint (point : CodePoint) : Bytes :=
  let number := point.val
  if number < 0x80 then
    [UInt8.ofNat number]
  else if number < 0x800 then
    [UInt8.ofNat (0xc0 + number / 0x40), UInt8.ofNat (0x80 + number % 0x40)]
  else if number < 0x10000 then
    [UInt8.ofNat (0xe0 + number / 0x1000),
      UInt8.ofNat (0x80 + number / 0x40 % 0x40),
      UInt8.ofNat (0x80 + number % 0x40)]
  else
    [UInt8.ofNat (0xf0 + number / 0x40000),
      UInt8.ofNat (0x80 + number / 0x1000 % 0x40),
      UInt8.ofNat (0x80 + number / 0x40 % 0x40),
      UInt8.ofNat (0x80 + number % 0x40)]

/-- The first run of surrogates in a text that begins at the given offset. -/
def faultAt (offset : Nat) (text : Text) : Option EncodeFault :=
  match text with
  | [] => none
  | point :: rest =>
      if point.isSurrogate then
        some {
          start := offset
          stop := offset + 1 + (rest.takeWhile CodePoint.isSurrogate).length
          point := point
        }
      else
        faultAt (offset + 1) rest

/-- Encode a text without surrogates. -/
def encode (text : Text) : Except EncodeFault Bytes :=
  match faultAt 0 text with
  | some fault => .error fault
  | none => .ok (text.flatMap encodePoint)

/-- The byte that a code point from U+DC80 to U+DCFF stands for in a path. -/
def smuggledByte? (point : CodePoint) : Option UInt8 :=
  if 0xdc80 ≤ point.val ∧ point.val ≤ 0xdcff then
    some (UInt8.ofNat (point.val - 0xdc00))
  else
    none

/-- The first run of surrogates that even a path cannot hold. -/
def pathFaultAt (offset : Nat) (text : Text) : Option EncodeFault :=
  match text with
  | [] => none
  | point :: rest =>
      if point.isSurrogate && (smuggledByte? point).isNone then
        some {
          start := offset
          stop := offset + 1 + (rest.takeWhile CodePoint.isSurrogate).length
          point := point
        }
      else
        pathFaultAt (offset + 1) rest

/-- The bytes of a code point in a path. -/
def encodePathPoint (point : CodePoint) : Bytes :=
  match smuggledByte? point with
  | some byte => [byte]
  | none => encodePoint point

/-- Encode the text of a path. -/
def encodePath (text : Text) : Except EncodeFault Bytes :=
  match pathFaultAt 0 text with
  | some fault => .error fault
  | none => .ok (text.flatMap encodePathPoint)

/-- What is wrong with the bytes that stopped a decoding. -/
inductive Malformation where
  | invalidStart
  | invalidContinuation
  | unexpectedEnd
  deriving Repr, DecidableEq

/-- Where a decoding stopped: the first byte at fault and how many belong to it. -/
structure DecodeFault where
  malformation : Malformation
  start : Nat
  length : Nat
  byte : UInt8
  deriving Repr, DecidableEq

namespace Malformation

/-- The wording of a malformation. -/
def message : Malformation → Text
  | .invalidStart => "invalid start byte"
  | .invalidContinuation => "invalid continuation byte"
  | .unexpectedEnd => "unexpected end of data"

end Malformation

namespace DecodeFault

/-- The wording of a refused decoding. -/
def message (fault : DecodeFault) : Text :=
  if fault.length = 1 then
    "'utf-8' codec can't decode byte 0x" ++ Text.hexadecimal 2 fault.byte.toNat ++
      " in position " ++ Numeral.ofNat fault.start ++ ": " ++ fault.malformation.message
  else
    "'utf-8' codec can't decode bytes in position " ++ Numeral.ofNat fault.start ++
      "-" ++ Numeral.ofNat (fault.start + fault.length - 1) ++ ": " ++
      fault.malformation.message

end DecodeFault

/-- One decoded code point with its size, or the malformation at the front. -/
inductive Step where
  | decoded (point : CodePoint) (size : Nat)
  | malformed (malformation : Malformation) (length : Nat)
  deriving Repr, DecidableEq

/-- A byte that continues a code point and lies between the given limits. -/
def continues (low high : Nat) (byte : UInt8) : Bool :=
  decide (low ≤ byte.toNat ∧ byte.toNat ≤ high)

/-- The payload of a continuation byte. -/
def payload (byte : UInt8) : Nat :=
  byte.toNat % 0x40

/-- Read the code point that starts with the given byte. -/
def step (lead : UInt8) (rest : Bytes) : Step :=
  let number := lead.toNat
  if number < 0x80 then
    .decoded (CodePoint.ofNat number) 1
  else if number < 0xc2 then
    .malformed .invalidStart 1
  else if number < 0xe0 then
    match rest with
    | [] => .malformed .unexpectedEnd 1
    | second :: _ =>
        if continues 0x80 0xbf second then
          .decoded (CodePoint.ofNat (number % 0x20 * 0x40 + payload second)) 2
        else
          .malformed .invalidContinuation 1
  else if number < 0xf0 then
    let low := if number = 0xe0 then 0xa0 else 0x80
    let high := if number = 0xed then 0x9f else 0xbf
    match rest with
    | [] => .malformed .unexpectedEnd 1
    | second :: later =>
        if continues low high second then
          match later with
          | [] => .malformed .unexpectedEnd 2
          | third :: _ =>
              if continues 0x80 0xbf third then
                .decoded
                  (CodePoint.ofNat
                    (number % 0x10 * 0x1000 + payload second * 0x40 + payload third))
                  3
              else
                .malformed .invalidContinuation 2
        else
          .malformed .invalidContinuation 1
  else if number < 0xf5 then
    let low := if number = 0xf0 then 0x90 else 0x80
    let high := if number = 0xf4 then 0x8f else 0xbf
    match rest with
    | [] => .malformed .unexpectedEnd 1
    | second :: later =>
        if continues low high second then
          match later with
          | [] => .malformed .unexpectedEnd 2
          | third :: last =>
              if continues 0x80 0xbf third then
                match last with
                | [] => .malformed .unexpectedEnd 3
                | fourth :: _ =>
                    if continues 0x80 0xbf fourth then
                      .decoded
                        (CodePoint.ofNat
                          (number % 0x08 * 0x40000 + payload second * 0x1000 +
                            payload third * 0x40 + payload fourth))
                        4
                    else
                      .malformed .invalidContinuation 3
              else
                .malformed .invalidContinuation 2
        else
          .malformed .invalidContinuation 1
  else
    .malformed .invalidStart 1

/--
Decode the bytes from the given offset on.  The first argument counts the bytes
at the front that belong to the code point before them.
-/
def decodeFrom (skip offset : Nat) : Bytes → Except DecodeFault Text
  | [] => .ok []
  | byte :: rest =>
      match skip with
      | skip + 1 => decodeFrom skip (offset + 1) rest
      | 0 =>
          match step byte rest with
          | .malformed malformation length =>
              .error {
                malformation := malformation
                start := offset
                length := length
                byte := byte
              }
          | .decoded point size =>
              match decodeFrom (size - 1) (offset + 1) rest with
              | .ok text => .ok (point :: text)
              | .error fault => .error fault

/-- Decode strict UTF-8. -/
def decode (bytes : Bytes) : Except DecodeFault Text :=
  decodeFrom 0 0 bytes

/-- The code point that stands in a path for a byte that is no UTF-8. -/
def smuggle (byte : UInt8) : CodePoint :=
  CodePoint.ofNat (0xdc00 + byte.toNat)

/--
Decode the bytes of a path, where a byte that is no UTF-8 becomes a code point
of its own.  The first argument counts the bytes at the front that belong to the
code point before them.
-/
def decodePathFrom : Nat → Bytes → Text
  | _, [] => []
  | skip + 1, _ :: rest => decodePathFrom skip rest
  | 0, byte :: rest =>
      match step byte rest with
      | .malformed _ _ => smuggle byte :: decodePathFrom 0 rest
      | .decoded point size => point :: decodePathFrom (size - 1) rest

/-- Decode the bytes of a path. -/
def decodePath (bytes : Bytes) : Text :=
  decodePathFrom 0 bytes

end Utf8

namespace Text

/-- The text with every surrogate shown as its escape, so that it can be encoded. -/
def escapeSurrogates (text : Text) : Text :=
  text.flatMap fun point =>
    if point.isSurrogate then point.numericEscape else [point]

end Text

end Tolerance
