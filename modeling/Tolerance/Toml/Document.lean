import Tolerance.Toml

namespace Tolerance

/-!
# Building a document

A document is built statement by statement.  A table may be declared once, a
value may be given once, what was written between brackets or braces cannot be
added to, and a table that dotted keys made cannot be declared afterwards.
-/

namespace Toml

/-- A document as far as it was read. -/
structure Document where
  root : Table := []
  /-- Keys of arrays and tables that were written out as values. -/
  frozen : List Key := []
  /-- Keys of tables that were declared, by a header or by dotted keys before one. -/
  declared : List Key := []
  /-- Keys of tables that dotted keys made since the last header. -/
  pending : List Key := []
  /-- The key of the last header. -/
  header : Key := []

/--
Change the table at a key, making the tables on the way that are missing.  An
array of tables stands for its last table if the way may lead through arrays.
-/
def changeAt
    (throughArrays : Bool)
    (change : Table → Except Fault Table) :
    Key → Table → Except Fault Table
  | [], fields => change fields
  | part :: rest, fields =>
      match field? part fields with
      | none => do
          let inner ← changeAt throughArrays change rest []
          return setField part (.table inner) fields
      | some (.table inner) => do
          let inner ← changeAt throughArrays change rest inner
          return setField part (.table inner) fields
      | some (.array items) =>
          match throughArrays, items.getLast? with
          | true, some (.table inner) => do
              let inner ← changeAt throughArrays change rest inner
              return setField part (.array (items.dropLast ++ [.table inner])) fields
          | _, _ => .error .overwrittenValue
      | some _ => .error .overwrittenValue

/-- Give a new field a value. -/
def addField
    (fault : Fault)
    (name : Text)
    (value : Toml)
    (table : Table) :
    Except Fault Table :=
  match field? name table with
  | some _ => .error fault
  | none => .ok (setField name value table)

/-- Add an empty table to the array of tables of a name. -/
def addTable (name : Text) (table : Table) : Except Fault Table :=
  match field? name table with
  | none => .ok (setField name (.array [.table []]) table)
  | some (.array items) => .ok (setField name (.array (items ++ [.table []])) table)
  | some _ => .error .overwrittenValue

/-- The last part of a key. -/
def stem (key : Key) : Text :=
  key.getLast?.getD []

namespace Document

/-- Whether a key lies at or below a value that was written out. -/
def isFrozen (document : Document) (key : Key) : Bool :=
  document.frozen.any fun frozen => frozen.isPrefixOf key

/-- Whether the table of a key was declared. -/
def isDeclared (document : Document) (key : Key) : Bool :=
  document.declared.contains key

/-- Let the tables that dotted keys made count as declared. -/
def finishSection (document : Document) : Document :=
  { document with
    declared := document.pending ++ document.declared
    pending := [] }

/-- Declare a table and move into it. -/
def declareTable (document : Document) (key : Key) : Except Fault Document :=
  if document.isDeclared key || document.isFrozen key then
    .error (.declaredTwice key)
  else
    match changeAt true .ok key document.root with
    | .error fault => .error fault
    | .ok root =>
        .ok { document with
          root := root
          declared := key :: document.declared
          header := key }

/--
Add a table to an array of tables and move into it.  What was declared below the
table before it may be declared again.
-/
def declareArrayTable (document : Document) (key : Key) : Except Fault Document :=
  if document.isFrozen key then
    .error (.immutableNamespace key)
  else
    match changeAt true (addTable (stem key)) key.dropLast document.root with
    | .error fault => .error fault
    | .ok root =>
        .ok { document with
          root := root
          frozen := document.frozen.filter fun other => !key.isPrefixOf other
          declared := key :: document.declared.filter fun other => !key.isPrefixOf other
          header := key }

/-- The keys of the tables that a dotted key leads through, below the last header. -/
def tablesAlong (document : Document) (key : Key) : List Key :=
  (List.range (key.length - 1)).map fun index =>
    document.header ++ key.take (index + 1)

/-- Give a key below the last header a value. -/
def assign (document : Document) (key : Key) (value : Toml) : Except Fault Document :=
  let along := document.tablesAlong key
  let owner := document.header ++ key.dropLast
  match along.find? document.isDeclared with
  | some other => .error (.redefinedNamespace other)
  | none =>
      if document.isFrozen owner then
        .error (.immutableNamespace owner)
      else
        match changeAt true (addField .overwrittenValue (stem key) value) owner document.root with
        | .error fault => .error fault
        | .ok root =>
            .ok { document with
              root := root
              pending := along ++ document.pending
              frozen :=
                if value.isContainer then
                  (document.header ++ key) :: document.frozen
                else
                  document.frozen }

end Document

/-- Give a key of an inline table a value; `frozen` lists the keys before it with containers. -/
def assignInline
    (frozen : List Key)
    (table : Table)
    (key : Key)
    (value : Toml) :
    Except Fault Table :=
  if frozen.any fun other => other.isPrefixOf key then
    .error (.immutableNamespace key)
  else
    changeAt false
      (addField (.duplicateInlineKey (stem key)) (stem key) value)
      key.dropLast
      table

end Toml

end Tolerance
