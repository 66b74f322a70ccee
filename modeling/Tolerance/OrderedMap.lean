import Tolerance.Sorting
import Tolerance.Text

namespace Tolerance

/-!
# Maps that keep the order of insertion

A map lists its keys in the order in which they were first given a value.
Giving a key another value keeps its place, and a key that was removed and
comes back goes last.
-/

/-- A finite map from texts, listed in order of insertion. -/
structure OrderedMap (Value : Type) where
  entries : List (Text × Value)
  keysDistinct : (entries.map Prod.fst).Nodup
  deriving DecidableEq

namespace OrderedMap

variable {Value Other : Type}

/-- Give a key a value in a list of entries. -/
def put (key : Text) (value : Value) : List (Text × Value) → List (Text × Value)
  | [] => [(key, value)]
  | entry :: rest =>
      if entry.1 = key then
        (key, value) :: rest
      else
        entry :: put key value rest

private theorem mem_keys_put
    {key query : Text}
    {value : Value}
    {entries : List (Text × Value)}
    (member : query ∈ (put key value entries).map Prod.fst) :
    query = key ∨ query ∈ entries.map Prod.fst := by
  induction entries with
  | nil =>
      simpa [put] using member
  | cons entry rest inductionHypothesis =>
      unfold put at member
      split at member
      · next same =>
          rcases List.mem_cons.mp member with isKey | inRest
          · exact Or.inl isKey
          · exact Or.inr (List.mem_cons_of_mem _ inRest)
      · rcases List.mem_cons.mp member with isFirst | inRest
        · exact Or.inr (by simp [isFirst])
        · rcases inductionHypothesis inRest with isKey | inKeys
          · exact Or.inl isKey
          · exact Or.inr (List.mem_cons_of_mem _ inKeys)

private theorem put_keysDistinct
    (key : Text)
    (value : Value)
    {entries : List (Text × Value)}
    (distinct : (entries.map Prod.fst).Nodup) :
    ((put key value entries).map Prod.fst).Nodup := by
  induction entries with
  | nil =>
      simp [put]
  | cons entry rest inductionHypothesis =>
      have split := List.nodup_cons.mp distinct
      unfold put
      split
      · next same =>
          refine List.nodup_cons.mpr ⟨?_, split.2⟩
          intro member
          exact split.1 (by rw [same]; exact member)
      · next different =>
          refine List.nodup_cons.mpr ⟨?_, inductionHypothesis split.2⟩
          intro member
          rcases mem_keys_put member with isKey | inRest
          · exact different isKey
          · exact split.1 inRest

private theorem filter_keysDistinct
    (keep : Text × Value → Bool)
    {entries : List (Text × Value)}
    (distinct : (entries.map Prod.fst).Nodup) :
    ((entries.filter keep).map Prod.fst).Nodup :=
  (List.filter_sublist.map Prod.fst).nodup distinct

/-- The map without entries. -/
def empty : OrderedMap Value where
  entries := []
  keysDistinct := List.nodup_nil

instance : Inhabited (OrderedMap Value) :=
  ⟨empty⟩

/-- The value of a key. -/
def get? (map : OrderedMap Value) (key : Text) : Option Value :=
  (map.entries.find? fun entry => entry.1 = key).map Prod.snd

/-- The keys in order. -/
def keys (map : OrderedMap Value) : List Text :=
  map.entries.map Prod.fst

/-- Whether a key has a value. -/
def contains (map : OrderedMap Value) (key : Text) : Bool :=
  map.keys.contains key

/-- The number of entries. -/
def size (map : OrderedMap Value) : Nat :=
  map.entries.length

/-- Whether there are no entries. -/
def isEmpty (map : OrderedMap Value) : Bool :=
  map.entries.isEmpty

/-- Give a key a value: a key that is there keeps its place, a new one goes last. -/
def insert
    (map : OrderedMap Value)
    (key : Text)
    (value : Value) :
    OrderedMap Value where
  entries := put key value map.entries
  keysDistinct := put_keysDistinct key value map.keysDistinct

/-- Keep the entries that pass a test. -/
def filter
    (map : OrderedMap Value)
    (keep : Text × Value → Bool) :
    OrderedMap Value where
  entries := map.entries.filter keep
  keysDistinct := filter_keysDistinct keep map.keysDistinct

/-- Remove a key and its value. -/
def erase (map : OrderedMap Value) (key : Text) : OrderedMap Value :=
  map.filter fun entry => entry.1 ≠ key

/-- Insert the entries of a list one after the other. -/
def ofList (entries : List (Text × Value)) : OrderedMap Value :=
  entries.foldl (fun map entry => map.insert entry.1 entry.2) empty

/-- Replace every value and keep the keys. -/
def mapValues
    (map : OrderedMap Value)
    (change : Value → Other) :
    OrderedMap Other where
  entries := map.entries.map fun entry => (entry.1, change entry.2)
  keysDistinct := by
    simpa [List.map_map, Function.comp_def] using map.keysDistinct

private theorem chosen_keys_sublist
    (choose : Text → Value → Option Other)
    (entries : List (Text × Value)) :
    ((entries.filterMap fun entry =>
          (choose entry.1 entry.2).map (entry.1, ·)).map Prod.fst).Sublist
      (entries.map Prod.fst) := by
  induction entries with
  | nil =>
      exact List.Sublist.slnil
  | cons entry rest inductionHypothesis =>
      cases chosen : choose entry.1 entry.2 with
      | none =>
          simpa [List.filterMap_cons, chosen] using
            inductionHypothesis.cons entry.1
      | some value =>
          simpa [List.filterMap_cons, chosen] using
            inductionHypothesis.cons_cons entry.1

/-- Replace or drop every value, by its key and the value itself. -/
def filterMapValues
    (map : OrderedMap Value)
    (choose : Text → Value → Option Other) :
    OrderedMap Other where
  entries := map.entries.filterMap fun entry =>
    (choose entry.1 entry.2).map (entry.1, ·)
  keysDistinct :=
    (chosen_keys_sublist choose map.entries).nodup map.keysDistinct

/-- One entry may stand before another when its key is not the greater one. -/
def keyPrecedes (left right : Text × Value) : Bool :=
  !decide (right.1 < left.1)

/-- The same entries in ascending order of their keys. -/
def sorted (map : OrderedMap Value) : OrderedMap Value where
  entries := Sorting.sort keyPrecedes map.entries
  keysDistinct :=
    ((Sorting.sort_perm keyPrecedes map.entries).map Prod.fst).nodup_iff.mpr
      map.keysDistinct

/-- Two maps give the same keys the same values, whatever their order. -/
def sameContent
    (agree : Value → Value → Bool)
    (left right : OrderedMap Value) :
    Bool :=
  left.size == right.size &&
    left.entries.all fun entry =>
      match right.get? entry.1 with
      | some other => agree entry.2 other
      | none => false

end OrderedMap

end Tolerance
