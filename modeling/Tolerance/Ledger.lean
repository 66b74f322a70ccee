import Tolerance.OrderedMap

namespace Tolerance

/-!
# Ledgers

A ledger gives each rule of each file a value.  Both levels keep the order of
insertion.  A file may be listed without rules; only `pruneEmpty` drops it for
that reason.
-/

/-- Values by file and then by rule. -/
structure Ledger (Value : Type) where
  files : OrderedMap (OrderedMap Value)
  deriving DecidableEq

namespace Ledger

variable {Value Other : Type}

/-- The ledger without files. -/
def empty : Ledger Value where
  files := OrderedMap.empty

instance : Inhabited (Ledger Value) :=
  ⟨empty⟩

/-- The files in order. -/
def filenames (ledger : Ledger Value) : List Text :=
  ledger.files.keys

/-- Whether a file is listed, with rules or without. -/
def contains (ledger : Ledger Value) (filename : Text) : Bool :=
  ledger.files.contains filename

/-- The number of listed files. -/
def size (ledger : Ledger Value) : Nat :=
  ledger.files.size

/-- Whether no file is listed. -/
def isEmpty (ledger : Ledger Value) : Bool :=
  ledger.files.isEmpty

/-- The rules of a file with their values; none if the file is not listed. -/
def rules (ledger : Ledger Value) (filename : Text) : OrderedMap Value :=
  (ledger.files.get? filename).getD OrderedMap.empty

/-- The value of a rule in a file. -/
def get? (ledger : Ledger Value) (filename rule : Text) : Option Value :=
  (ledger.rules filename).get? rule

/-- List a file with exactly the given rules; a listed file keeps its place. -/
def replaceFile
    (ledger : Ledger Value)
    (filename : Text)
    (rules : OrderedMap Value) :
    Ledger Value where
  files := ledger.files.insert filename rules

/-- Give a rule of a file a value. -/
def set
    (ledger : Ledger Value)
    (filename rule : Text)
    (value : Value) :
    Ledger Value :=
  ledger.replaceFile filename ((ledger.rules filename).insert rule value)

/-- Give a rule of a file a value unless it has one. -/
def setDefault
    (ledger : Ledger Value)
    (filename rule : Text)
    (value : Value) :
    Ledger Value :=
  match ledger.get? filename rule with
  | some _ => ledger
  | none => ledger.set filename rule value

/-- Take the value away from a rule; its file stays listed. -/
def remove (ledger : Ledger Value) (filename rule : Text) : Ledger Value :=
  match ledger.files.get? filename with
  | some rules => ledger.replaceFile filename (rules.erase rule)
  | none => ledger

/-- Take a file off the list with all its rules. -/
def removeFile (ledger : Ledger Value) (filename : Text) : Ledger Value where
  files := ledger.files.erase filename

/-- Take the files without rules off the list. -/
def pruneEmpty (ledger : Ledger Value) : Ledger Value where
  files := ledger.files.filter fun entry => !entry.2.isEmpty

/-- Every value with its file and rule, file by file. -/
def items (ledger : Ledger Value) : List (Text × Text × Value) :=
  ledger.files.entries.flatMap fun file =>
    file.2.entries.map fun entry => (file.1, entry.1, entry.2)

/-- The same files and rules with other values. -/
def mapValues
    (ledger : Ledger Value)
    (change : Value → Other) :
    Ledger Other where
  files := ledger.files.mapValues fun rules => rules.mapValues change

/-- The same content in ascending order at both levels. -/
def sorted (ledger : Ledger Value) : Ledger Value where
  files := (ledger.files.mapValues OrderedMap.sorted).sorted

/-- Two ledgers list the same files with the same rules and values, whatever their order. -/
def sameContent
    (agree : Value → Value → Bool)
    (left right : Ledger Value) :
    Bool :=
  left.files.sameContent (OrderedMap.sameContent agree) right.files

end Ledger

end Tolerance
