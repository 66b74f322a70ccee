import Tolerance.Text.Utf8

namespace Tolerance

/-!
# Paths

A path is read once: empty parts and single dots are dropped, a pair of dots is
kept, because only the file system can say where it leads.  Two slashes in
front, and only two, are another root than one.
-/

/-- Where a path starts. -/
inductive Anchor where
  | relative
  | root
  | doubleRoot
  deriving Repr, DecidableEq

/-- A path to a file or a directory. -/
structure Path where
  anchor : Anchor
  parts : List Text
  deriving Repr, DecidableEq

namespace Path

/-- The part that stands for the directory itself. -/
def self : Text :=
  "."

/-- The part that stands for the directory above. -/
def above : Text :=
  ".."

/-- Where the text of a path starts. -/
def anchorOf (text : Text) : Anchor :=
  match (text.takeWhile (· == 0x2f)).length with
  | 0 => .relative
  | 2 => .doubleRoot
  | _ => .root

/-- Read the text of a path. -/
def ofText (text : Text) : Path where
  anchor := anchorOf text
  parts := (text.splitOn 0x2f).filter fun part => !part.isEmpty && part ≠ self

instance : Coe String Path :=
  ⟨fun text => ofText text⟩

/-- The text of an anchor. -/
def anchorText : Anchor → Text
  | .relative => []
  | .root => "/"
  | .doubleRoot => "//"

/-- The text of a path; the empty relative path is a dot. -/
def toText (path : Path) : Text :=
  if path.anchor = .relative ∧ path.parts = [] then
    self
  else
    anchorText path.anchor ++ Text.join "/" path.parts

/-- Whether a path starts at a root. -/
def isAbsolute (path : Path) : Bool :=
  path.anchor ≠ .relative

/-- A path as seen from a directory; an absolute path stands for itself. -/
def within (path directory : Path) : Path :=
  if path.isAbsolute then
    path
  else
    { anchor := directory.anchor, parts := directory.parts ++ path.parts }

/-- The path of a name in a directory. -/
def child (directory : Path) (name : Text) : Path where
  anchor := directory.anchor
  parts := directory.parts ++ [name]

/-- The last part of a path, or nothing for a root or the empty path. -/
def name (path : Path) : Text :=
  path.parts.getLast?.getD []

/-- The path without its last part. -/
def parent (path : Path) : Path where
  anchor := path.anchor
  parts := path.parts.dropLast

/-- Every directory at or above a path, the nearest first. -/
def lineage (path : Path) : List Path :=
  (List.range (path.parts.length + 1)).map fun dropped =>
    { anchor := path.anchor, parts := path.parts.take (path.parts.length - dropped) }

/-- Take one step along the parts of a path, where a pair of dots leads one level up. -/
def stepTo (visited : List Text) (part : Text) : List Text :=
  if part = above then visited.dropLast else visited ++ [part]

/-- The absolute form of a path, with every pair of dots removed. -/
def absolute (path here : Path) : Path :=
  let whole := path.within here
  { anchor := whole.anchor, parts := whole.parts.foldl stepTo [] }

/-- Why a path cannot even be looked up. -/
inductive Fault where
  | nullByte
  | unencodable (fault : Utf8.EncodeFault)
  deriving Repr, DecidableEq

namespace Fault

/-- The wording of a fault. -/
def message : Fault → Text
  | .nullByte => "embedded null byte"
  | .unencodable fault => fault.message

end Fault

/-- The bytes of a path's text, which hold no null byte. -/
def encode (path : Path) : Except Fault Bytes :=
  match Utf8.encodePath path.toText with
  | .error fault => .error (.unencodable fault)
  | .ok bytes => if bytes.contains 0 then .error .nullByte else .ok bytes

/--
One level up from some parts of a path.  Above the root is the root; above the
start of a relative path only the file system knows the way.
-/
def climb (anchor : Anchor) (visited : List Text) : List Text :=
  if anchor = .relative ∧ (visited = [] ∨ visited.getLast? = some above) then
    visited ++ [above]
  else
    visited.dropLast

/-- Check that every part on the way can be looked up. -/
def checkParts (anchor : Anchor) (visited : List Text) : List Text → Except Fault Unit
  | [] => .ok ()
  | part :: rest =>
      if part = above then
        checkParts anchor (climb anchor visited) rest
      else
        match encode { anchor := anchor, parts := visited ++ [part] } with
        | .error fault => .error fault
        | .ok _ => checkParts anchor (visited ++ [part]) rest

/-- The same anchor, but with a single slash in place of two. -/
def singleAnchor (anchor : Anchor) : Anchor :=
  if anchor = .doubleRoot then .root else anchor

/-- The absolute form of a path that can be looked up, from a single root. -/
def resolve (path here : Path) : Except Fault Path :=
  match checkParts (singleAnchor path.anchor) [] path.parts with
  | .error fault => .error fault
  | .ok _ => .ok { path.absolute here with anchor := .root }

end Path

end Tolerance
