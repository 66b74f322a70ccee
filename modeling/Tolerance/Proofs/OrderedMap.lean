import Tolerance.OrderedMap
import Tolerance.Proofs.Sorting

namespace Tolerance.OrderedMap

/-!
# Maps by their keys

Every operation on a map is described by the value that each key has after it.
A map in ascending order is determined by these values alone, so that two ways
to build one agree as soon as they agree key by key.
-/

variable {Value Other : Type}

private theorem find?_of_mem
    {entries : List (Text × Value)}
    (distinct : (entries.map Prod.fst).Nodup)
    {key : Text}
    {value : Value}
    (member : (key, value) ∈ entries) :
    entries.find? (fun entry => entry.1 = key) = some (key, value) := by
  induction entries with
  | nil =>
      simp at member
  | cons first rest inductionHypothesis =>
      have split := List.nodup_cons.mp distinct
      rcases List.mem_cons.mp member with isFirst | inRest
      · simp [← isFirst]
      · have firstIsOther : first.1 ≠ key := by
          intro same
          exact split.1 (same ▸ List.mem_map_of_mem (f := Prod.fst) inRest)
        simpa [firstIsOther] using inductionHypothesis split.2 inRest

/-- A key has a value exactly if the two are listed together. -/
theorem get?_eq_some_iff
    {map : OrderedMap Value}
    {key : Text}
    {value : Value} :
    map.get? key = some value ↔ (key, value) ∈ map.entries := by
  constructor
  · intro found
    obtain ⟨entry, search, valueOfEntry⟩ := Option.map_eq_some_iff.mp found
    have keyOfEntry : entry.1 = key := by
      simpa using List.find?_some search
    have member := List.mem_of_find?_eq_some search
    rwa [← keyOfEntry, ← valueOfEntry]
  · intro member
    rw [get?, find?_of_mem map.keysDistinct member]
    rfl

/-- A key without a value is not listed. -/
theorem get?_eq_none_iff
    {map : OrderedMap Value}
    {key : Text} :
    map.get? key = none ↔ key ∉ map.keys := by
  simp only [get?, keys, Option.map_eq_none_iff, List.find?_eq_none,
    decide_eq_true_eq, List.mem_map]
  constructor
  · rintro absent ⟨entry, member, same⟩
    exact absent entry member same
  · intro absent entry member same
    exact absent ⟨entry, member, same⟩

/-- The listed keys are those with a value. -/
theorem mem_keys_iff
    {map : OrderedMap Value}
    {key : Text} :
    key ∈ map.keys ↔ (map.get? key).isSome := by
  cases found : map.get? key with
  | none =>
      simpa using get?_eq_none_iff.mp found
  | some value =>
      have listed : key ∈ map.keys :=
        List.mem_map_of_mem (f := Prod.fst) (get?_eq_some_iff.mp found)
      simpa using listed

/--
Two maps that give every key the same value give the same value to each listed
entry.
-/
theorem get?_eq_of_mem_iff
    {left right : OrderedMap Value}
    {key : Text}
    (same :
      ∀ value,
        (key, value) ∈ left.entries ↔
          (key, value) ∈ right.entries) :
    left.get? key = right.get? key := by
  apply Option.ext
  intro value
  rw [get?_eq_some_iff, get?_eq_some_iff]
  exact same value

@[simp] theorem get?_empty
    (key : Text) :
    (empty : OrderedMap Value).get? key = none :=
  rfl

@[simp] theorem keys_empty :
    (empty : OrderedMap Value).keys = [] :=
  rfl

/-- Only its own entry is found otherwise after a key was put. -/
theorem find?_put
    (key query : Text)
    (value : Value)
    (entries : List (Text × Value)) :
    (put key value entries).find? (fun entry => entry.1 = query) =
      if key = query then
        some (key, value)
      else
        entries.find? fun entry => entry.1 = query := by
  induction entries with
  | nil =>
      by_cases same : key = query <;> simp [put, same]
  | cons first rest inductionHypothesis =>
      unfold put
      by_cases firstIsKey : first.1 = key
      · by_cases same : key = query <;>
          simp [firstIsKey, same]
      · by_cases firstIsQuery : first.1 = query
        · have different : key ≠ query := fun same =>
            firstIsKey (firstIsQuery.trans same.symm)
          subst query
          simp [firstIsKey, different]
        · simpa [firstIsKey, firstIsQuery] using inductionHypothesis

/-- Giving a key a value changes this key only. -/
theorem get?_insert
    (map : OrderedMap Value)
    (key query : Text)
    (value : Value) :
    (map.insert key value).get? query =
      if key = query then some value else map.get? query := by
  unfold get? insert
  rw [find?_put]
  split <;> rfl

@[simp] theorem get?_insert_self
    (map : OrderedMap Value)
    (key : Text)
    (value : Value) :
    (map.insert key value).get? key = some value := by
  simp [get?_insert]

/-- A kept entry is one of the map that passes the test. -/
theorem get?_filter
    (map : OrderedMap Value)
    (keep : Text × Value → Bool)
    (query : Text) :
    (map.filter keep).get? query =
      (map.get? query).filter fun value => keep (query, value) := by
  apply Option.ext
  intro value
  rw [get?_eq_some_iff, Option.filter_eq_some_iff, get?_eq_some_iff]
  exact List.mem_filter

/-- Removing a key changes this key only. -/
theorem get?_erase
    (map : OrderedMap Value)
    (key query : Text) :
    (map.erase key).get? query =
      if key = query then none else map.get? query := by
  rw [erase, get?_filter]
  cases map.get? query <;> simp [Option.filter, eq_comm (a := query)]

/-- New values are given to the same keys. -/
theorem get?_mapValues
    (map : OrderedMap Value)
    (change : Value → Other)
    (query : Text) :
    (map.mapValues change).get? query = (map.get? query).map change := by
  apply Option.ext
  intro value
  simp only [get?_eq_some_iff, mapValues, List.mem_map,
    Option.map_eq_some_iff]
  constructor
  · rintro ⟨entry, member, same⟩
    cases same
    exact ⟨entry.2, member, rfl⟩
  · rintro ⟨old, member, changed⟩
    exact ⟨(query, old), member, by rw [changed]⟩

/-- The value chosen for a key depends on the key and its value alone. -/
theorem get?_filterMapValues
    (map : OrderedMap Value)
    (choose : Text → Value → Option Other)
    (query : Text) :
    (map.filterMapValues choose).get? query =
      (map.get? query).bind (choose query) := by
  apply Option.ext
  intro value
  simp only [get?_eq_some_iff, filterMapValues, List.mem_filterMap,
    Option.map_eq_some_iff, Option.bind_eq_some_iff]
  constructor
  · rintro ⟨entry, member, chosen, choice, same⟩
    cases same
    exact ⟨entry.2, member, choice⟩
  · rintro ⟨old, member, choice⟩
    exact ⟨(query, old), member, value, choice, rfl⟩

@[simp] theorem get?_sorted
    (map : OrderedMap Value)
    (query : Text) :
    map.sorted.get? query = map.get? query :=
  get?_eq_of_mem_iff fun _ =>
    (Sorting.sort_perm keyPrecedes map.entries).mem_iff

theorem entries_sorted (map : OrderedMap Value) :
    map.sorted.entries =
      map.entries.insertionSort fun left right => keyPrecedes left right :=
  Sorting.sort_eq_insertionSort keyPrecedes map.entries

/-- A map whose keys are listed in strictly ascending order. -/
def Ascending (map : OrderedMap Value) : Prop :=
  map.keys.Pairwise (· < ·)

/-- Any entries can be put in order of their keys. -/
theorem keyPrecedes_totalOrder :
    Sorting.TotalOrder (@keyPrecedes Value) where
  trans {first second third} earlier later := by
    simp only [keyPrecedes, Bool.not_eq_true', decide_eq_false_iff_not] at *
    exact List.le_trans earlier later
  total {left right} notBefore := by
    simp only [keyPrecedes, Bool.not_eq_true', decide_eq_false_iff_not,
      Decidable.not_not] at *
    exact List.lt_asymm notBefore

/-- Sorting puts the keys in ascending order. -/
theorem ascending_sorted (map : OrderedMap Value) : map.sorted.Ascending := by
  have ordered := keyPrecedes_totalOrder.ascending map.entries
  have distinct := List.pairwise_map.mp map.sorted.keysDistinct
  refine List.pairwise_map.mpr ((ordered.and distinct).imp ?_)
  intro left right facts
  have notAfter : ¬right.1 < left.1 := by
    simpa [keyPrecedes] using facts.1
  exact Text.lt_of_not_lt_of_ne notAfter facts.2

/-- Leaving entries out keeps the others in order. -/
theorem Ascending.filter
    {map : OrderedMap Value}
    (ascending : map.Ascending)
    (keep : Text × Value → Bool) :
    (map.filter keep).Ascending :=
  List.Pairwise.sublist (List.filter_sublist.map Prod.fst) ascending

theorem entries_nodup (map : OrderedMap Value) : map.entries.Nodup :=
  (List.pairwise_map.mp map.keysDistinct).imp
    fun different same => different (congrArg Prod.fst same)

/-- Two ascending lists of the same entries are the same list. -/
private theorem eq_of_perm
    {left right : List (Text × Value)}
    (leftAscending : (left.map Prod.fst).Pairwise (· < ·))
    (rightAscending : (right.map Prod.fst).Pairwise (· < ·))
    (sameEntries : left.Perm right) :
    left = right := by
  refine sameEntries.eq_of_pairwise ?_
    (List.pairwise_map.mp leftAscending)
    (List.pairwise_map.mp rightAscending)
  intro first second _ _ before after
  exact (Text.lt_irrefl _ (Text.lt_trans before after)).elim

/-- Maps with the same entries are the same. -/
theorem eq_of_entries
    {left right : OrderedMap Value}
    (same : left.entries = right.entries) :
    left = right := by
  cases left
  cases right
  cases same
  rfl

/-- An ascending map is determined by the value of each key. -/
theorem eq_of_ascending
    {left right : OrderedMap Value}
    (leftAscending : left.Ascending)
    (rightAscending : right.Ascending)
    (same : ∀ key, left.get? key = right.get? key) :
    left = right := by
  have sameEntries : left.entries.Perm right.entries := by
    refine (List.perm_ext_iff_of_nodup
      left.entries_nodup right.entries_nodup).mpr ?_
    rintro ⟨key, value⟩
    rw [← get?_eq_some_iff, ← get?_eq_some_iff, same key]
  exact eq_of_entries (eq_of_perm leftAscending rightAscending sameEntries)

/-- A map in ascending order is left as it is by sorting. -/
theorem Ascending.sorted_eq
    {map : OrderedMap Value}
    (ascending : map.Ascending) :
    map.sorted = map :=
  eq_of_ascending map.ascending_sorted ascending map.get?_sorted

private theorem put_put
    (key : Text)
    (first second : Value)
    (entries : List (Text × Value)) :
    put key second (put key first entries) = put key second entries := by
  induction entries with
  | nil =>
      simp [put]
  | cons entry entries inductionHypothesis =>
      by_cases same : entry.1 = key
      · simp [put, same]
      · simp [put, same, inductionHypothesis]

/-- Of two values for one key the later one counts. -/
theorem insert_insert
    (map : OrderedMap Value)
    (key : Text)
    (first second : Value) :
    (map.insert key first).insert key second = map.insert key second :=
  eq_of_entries (put_put key first second map.entries)

/-- A new key is put last. -/
theorem put_of_not_mem
    {key : Text}
    {entries : List (Text × Value)}
    (new : key ∉ entries.map Prod.fst)
    (value : Value) :
    put key value entries = entries ++ [(key, value)] := by
  induction entries with
  | nil =>
      rfl
  | cons entry entries inductionHypothesis =>
      simp only [List.map_cons, List.mem_cons, not_or] at new
      rw [put, if_neg (Ne.symm new.1), inductionHypothesis new.2,
        List.cons_append]

/-- Among distinct keys none stands before itself. -/
theorem not_mem_of_nodup_append
    {before after : List (Text × Value)}
    {entry : Text × Value}
    (distinct : ((before ++ entry :: after).map Prod.fst).Nodup) :
    entry.1 ∉ before.map Prod.fst := by
  intro member
  rw [List.map_append, List.map_cons] at distinct
  exact
    (List.nodup_append.mp distinct).2.2 entry.1 member entry.1
      List.mem_cons_self rfl

/-- Among elements with distinct keys only one has the key of a given one. -/
theorem filter_eq_singleton
    {Key Element : Type}
    [BEq Key]
    [LawfulBEq Key]
    {key : Element → Key}
    {elements : List Element}
    (distinct : (elements.map key).Nodup)
    {element : Element}
    (member : element ∈ elements) :
    elements.filter (fun other => key other == key element) = [element] := by
  induction elements with
  | nil =>
      exact (List.not_mem_nil member).elim
  | cons first rest inductionHypothesis =>
      obtain ⟨firstNew, restDistinct⟩ := List.nodup_cons.mp distinct
      rcases List.mem_cons.mp member with rfl | inRest
      · have noOther :
            rest.filter (fun other => key other == key element) = [] := by
          apply List.filter_eq_nil_iff.mpr
          intro other inRest sameKey
          exact firstNew (eq_of_beq sameKey ▸ List.mem_map_of_mem inRest)
        simp [noOther]
      · have firstIsOther : key first ≠ key element := fun sameKey =>
          firstNew (sameKey ▸ List.mem_map_of_mem inRest)
        simpa [firstIsOther] using inductionHypothesis restDistinct inRest

/-- Entries with new keys go last in their order. -/
theorem entries_foldl_insert
    {entries : List (Text × Value)}
    {map : OrderedMap Value}
    (distinct : ((map.entries ++ entries).map Prod.fst).Nodup) :
    (entries.foldl (fun extended entry => extended.insert entry.1 entry.2)
        map).entries =
      map.entries ++ entries := by
  induction entries generalizing map with
  | nil =>
      exact (List.append_nil map.entries).symm
  | cons entry entries inductionHypothesis =>
      have added :
          (map.insert entry.1 entry.2).entries = map.entries ++ [entry] :=
        put_of_not_mem (not_mem_of_nodup_append distinct) entry.2
      rw [List.foldl_cons, inductionHypothesis, added, List.append_assoc,
        List.singleton_append]
      rw [added, List.append_assoc, List.singleton_append]
      exact distinct

/-- A map is the one that lists its entries. -/
theorem ofList_entries (map : OrderedMap Value) : ofList map.entries = map :=
  eq_of_entries (entries_foldl_insert map.keysDistinct)

/-! ## Keys in order -/

private theorem keys_put
    (key : Text)
    (value : Value)
    (entries : List (Text × Value)) :
    (put key value entries).map Prod.fst =
      if key ∈ entries.map Prod.fst then
        entries.map Prod.fst
      else
        entries.map Prod.fst ++ [key] := by
  induction entries with
  | nil =>
      simp [put]
  | cons entry later inductionHypothesis =>
      by_cases same : entry.1 = key
      · simp [put, same]
      · have notFirst : key ≠ entry.1 := Ne.symm same
        simp only [put, same, ↓reduceIte, List.map_cons, inductionHypothesis,
          List.mem_cons, notFirst, false_or]
        split <;> rfl

/-- A new key goes last, and a known one keeps its place. -/
theorem keys_insert
    (map : OrderedMap Value)
    (key : Text)
    (value : Value) :
    (map.insert key value).keys =
      if key ∈ map.keys then map.keys else map.keys ++ [key] :=
  keys_put key value map.entries

/-- What has no value goes from the keys with its key. -/
theorem keys_erase
    (map : OrderedMap Value)
    (key : Text) :
    (map.erase key).keys = map.keys.filter (· ≠ key) := by
  rw [keys, keys, List.filter_map]
  rfl

/-- Other values are given to the same keys. -/
@[simp] theorem keys_mapValues
    (map : OrderedMap Value)
    (change : Value → Other) :
    (map.mapValues change).keys = map.keys := by
  rw [keys, mapValues, List.map_map]
  rfl

/-- The entries are the keys in order with their values. -/
theorem entries_eq (map : OrderedMap Value) :
    map.entries = map.keys.filterMap fun key => (map.get? key).map (key, ·) := by
  have found :
      ∀ entry ∈ map.entries,
        (map.get? entry.1).map (entry.1, ·) = some entry := by
    intro entry member
    rw [get?_eq_some_iff.mpr member]
    rfl
  rw [keys, List.filterMap_map]
  exact (List.filterMap_some.symm.trans (List.filterMap_congr fun entry member =>
    (found entry member).symm))

/-- A map is determined by its keys in order and their values. -/
theorem eq_of_keys
    {left right : OrderedMap Value}
    (sameKeys : left.keys = right.keys)
    (same : ∀ key, left.get? key = right.get? key) :
    left = right := by
  apply eq_of_entries
  rw [left.entries_eq, right.entries_eq, sameKeys]
  simp only [same]

/-- Only the values of the map itself matter where they are replaced. -/
theorem mapValues_congr
    {map : OrderedMap Value}
    {change other : Value → Other}
    (same : ∀ key value, map.get? key = some value → change value = other value) :
    map.mapValues change = map.mapValues other := by
  apply eq_of_entries
  refine List.map_congr_left fun entry member => ?_
  rw [same entry.1 entry.2 (get?_eq_some_iff.mpr member)]

theorem mapValues_insert
    (map : OrderedMap Value)
    (key : Text)
    (value : Value)
    (change : Value → Other) :
    (map.insert key value).mapValues change =
      (map.mapValues change).insert key (change value) := by
  refine eq_of_keys ?_ fun query => ?_
  · rw [keys_mapValues, keys_insert, keys_insert, keys_mapValues]
  · rw [get?_mapValues, get?_insert, get?_insert, get?_mapValues, apply_ite (Option.map _),
      Option.map_some]

theorem mapValues_filter
    (map : OrderedMap Value)
    (keep : Text × Other → Bool)
    (change : Value → Other) :
    (map.filter fun entry => keep (entry.1, change entry.2)).mapValues change =
      (map.mapValues change).filter keep := by
  apply eq_of_entries
  exact (List.filter_map).symm

/-- Another value of a known key goes to its place. -/
theorem mapValues_eq_insert
    {map : OrderedMap Value}
    {change other : Value → Other}
    {key : Text}
    {value : Value}
    (known : map.get? key = some value)
    (elsewhere :
      ∀ query found, query ≠ key → map.get? query = some found → change found = other found) :
    map.mapValues change = (map.mapValues other).insert key (change value) := by
  have listed : key ∈ map.keys :=
    mem_keys_iff.mpr (Option.isSome_iff_exists.mpr ⟨value, known⟩)
  refine eq_of_keys ?_ fun query => ?_
  · rw [keys_mapValues, keys_insert, keys_mapValues, if_pos listed]
  · rw [get?_mapValues, get?_insert, get?_mapValues]
    split
    · next same =>
        rw [← same, known, Option.map_some]
    · next different =>
        cases found : map.get? query with
        | none => rfl
        | some value =>
            rw [Option.map_some, Option.map_some,
              elsewhere query value (Ne.symm different) found]

/-- A key may be given the value that it has. -/
theorem insert_get?
    {map : OrderedMap Value}
    {key : Text}
    {value : Value}
    (known : map.get? key = some value) :
    map.insert key value = map := by
  refine eq_of_keys ?_ fun query => ?_
  · rw [keys_insert,
      if_pos (mem_keys_iff.mpr (Option.isSome_iff_exists.mpr ⟨value, known⟩))]
  · rw [get?_insert]
    split
    · next same => rw [← same, known]
    · rfl

/-- Behind the elements of a list stands the one that is added. -/
theorem getElem?_concat
    {Element : Type}
    (elements : List Element)
    (last : Element)
    (index : Nat) :
    (elements ++ [last])[index]? =
      if index = elements.length then some last else elements[index]? := by
  simpa using @Array.getElem?_push _ index elements.toArray last

end Tolerance.OrderedMap
