import Mathlib.Logic.Function.Basic
import Tolerance.Proofs.FirstAppearance

namespace Tolerance

/-!
# Ledgers as ordered partial maps

Two things are seen of a ledger: the table, which gives each listed file its
rules and each rule its value, and the arrangement, the order in which the files
are listed and the rules of each file.  Every operation does to both what it
would do to a partial function and to lists of keys, and so does every sequence
of operations.
-/

namespace OrderedMap

variable {Value : Type}

theorem isEmpty_iff_keys_eq_nil
    {map : OrderedMap Value} :
    map.isEmpty = true ↔ map.keys = [] := by
  rw [isEmpty, List.isEmpty_iff, keys, List.map_eq_nil_iff]

/-- A map is without entries exactly if no key has a value. -/
theorem isEmpty_iff_get?_eq_none
    {map : OrderedMap Value} :
    map.isEmpty = true ↔ map.get? = fun _ => none := by
  constructor
  · intro nothing
    rw [eq_empty_of_isEmpty nothing]
    rfl
  · intro noValue
    by_contra something
    obtain ⟨key, value, found⟩ :=
      exists_get?_of_not_isEmpty (Bool.eq_false_iff.mpr something)
    rw [noValue] at found
    cases found

/-- Giving a key a value is an update of the values. -/
theorem get?_insert_eq_update
    (map : OrderedMap Value)
    (key : Text)
    (value : Value) :
    (map.insert key value).get? = Function.update map.get? key (some value) := by
  funext query
  rw [get?_insert, Function.update_apply]
  simp only [eq_comm]

/-- Removing a key is an update of the values. -/
theorem get?_erase_eq_update
    (map : OrderedMap Value)
    (key : Text) :
    (map.erase key).get? = Function.update map.get? key none := by
  funext query
  rw [get?_erase, Function.update_apply]
  simp only [eq_comm]

end OrderedMap

namespace Text

/-- Put a text behind the others unless it is among them. -/
def addLast (text : Text) (texts : List Text) : List Text :=
  if texts.contains text then texts else texts ++ [text]

theorem addLast_of_mem
    {text : Text}
    {texts : List Text}
    (member : text ∈ texts) :
    text.addLast texts = texts :=
  if_pos (List.contains_iff_mem.mpr member)

theorem addLast_of_not_mem
    {text : Text}
    {texts : List Text}
    (new : text ∉ texts) :
    text.addLast texts = texts ++ [text] :=
  if_neg fun isIn => new (List.contains_iff_mem.mp isIn)

/-- Texts in ascending order. -/
def sorted (texts : List Text) : List Text :=
  Sorting.sort (fun left right => !decide (right < left)) texts

end Text

namespace OrderedMap

variable {Value : Type}

theorem keys_insert_eq_addLast
    (map : OrderedMap Value)
    (key : Text)
    (value : Value) :
    (map.insert key value).keys = key.addLast map.keys := by
  rw [keys_insert]
  split
  · next member => exact (Text.addLast_of_mem member).symm
  · next new => exact (Text.addLast_of_not_mem new).symm

/-- The keys of a sorted map are the sorted keys. -/
theorem keys_sorted (map : OrderedMap Value) :
    map.sorted.keys = Text.sorted map.keys := by
  rw [keys, entries_sorted, Text.sorted, Sorting.sort_eq_insertionSort]
  exact List.map_insertionSort _ _ _ map.entries fun _ _ _ _ => Iff.rfl

end OrderedMap

namespace Ledger

variable {Value : Type}

/-! ## What is seen of a ledger -/

/-- The rules of each listed file, and the value of each of these rules. -/
abbrev Table (Value : Type) :=
  Text → Option (Text → Option Value)

/-- The order in which files are listed, and the rules of each file. -/
@[ext]
structure Arrangement where
  files : List Text
  rules : Text → List Text

/-- The pairs of file and rule in order, file by file, with their values. -/
def Arrangement.items
    (arrangement : Arrangement)
    (table : Table Value) :
    List (Text × Text × Value) :=
  arrangement.files.flatMap fun filename =>
    (arrangement.rules filename).filterMap fun rule =>
      ((table filename).bind (· rule)).map (filename, rule, ·)

/-- The table of a ledger. -/
def table (ledger : Ledger Value) : Table Value := fun filename =>
  (ledger.files.get? filename).map OrderedMap.get?

/-- The arrangement of a ledger. -/
def arrangement (ledger : Ledger Value) : Arrangement where
  files := ledger.filenames
  rules filename := (ledger.rules filename).keys

/-- The value of a rule is what its file's part of the table gives it. -/
theorem get?_eq_table
    (ledger : Ledger Value)
    (filename rule : Text) :
    ledger.get? filename rule = (ledger.table filename).bind (· rule) := by
  unfold get? rules table
  cases ledger.files.get? filename with
  | none => rfl
  | some rules => rfl

/-- A file that is not listed has no rules. -/
theorem get?_rules
    (ledger : Ledger Value)
    (filename : Text) :
    (ledger.rules filename).get? =
      (ledger.table filename).getD fun _ => none := by
  unfold rules table
  cases ledger.files.get? filename with
  | none => rfl
  | some rules => rfl

/-- A file is listed exactly if it is in the table. -/
theorem contains_eq_table
    (ledger : Ledger Value)
    (filename : Text) :
    ledger.contains filename = (ledger.table filename).isSome := by
  rw [table, Option.isSome_map, Bool.eq_iff_iff, contains, OrderedMap.contains,
    List.contains_iff_mem]
  exact OrderedMap.mem_keys_iff

/-- What is listed is the table in the order of the arrangement. -/
theorem items_eq
    (ledger : Ledger Value) :
    ledger.items = ledger.arrangement.items ledger.table := by
  rw [items, Arrangement.items, arrangement, filenames, OrderedMap.keys,
    List.flatMap_map]
  apply List.flatMap_congr
  rintro ⟨filename, rules⟩ member
  have listed : ledger.files.get? filename = some rules :=
    OrderedMap.get?_eq_some_iff.mpr member
  simp only [Ledger.rules, table, listed, Option.getD_some, Option.map_some,
    Option.bind_some]
  conv_lhs => rw [rules.entries_eq]
  rw [List.map_filterMap]
  apply List.filterMap_congr
  intro rule _
  cases rules.get? rule <;> rfl

/-! ## Operations -/

/-- An operation on a ledger. -/
inductive Operation (Value : Type) where
  | set (filename rule : Text) (value : Value)
  | setDefault (filename rule : Text) (value : Value)
  | replaceFile (filename : Text) (rules : OrderedMap Value)
  | remove (filename rule : Text)
  | removeFile (filename : Text)
  | pruneEmpty
  | sort

/-- Perform an operation. -/
def perform (ledger : Ledger Value) : Operation Value → Ledger Value
  | .set filename rule value => ledger.set filename rule value
  | .setDefault filename rule value => ledger.setDefault filename rule value
  | .replaceFile filename rules => ledger.replaceFile filename rules
  | .remove filename rule => ledger.remove filename rule
  | .removeFile filename => ledger.removeFile filename
  | .pruneEmpty => ledger.pruneEmpty
  | .sort => ledger.sorted

/-- Perform operations one after the other. -/
def performAll (ledger : Ledger Value) (operations : List (Operation Value)) : Ledger Value :=
  operations.foldl perform ledger

namespace Table

/-- The table with a value for a rule of a file, which is listed from then on. -/
def set (table : Table Value) (filename rule : Text) (value : Value) : Table Value :=
  Function.update table filename
    (some (Function.update ((table filename).getD fun _ => none) rule (some value)))

open Classical in
/-- What an operation does to a table. -/
noncomputable def perform (table : Table Value) : Operation Value → Table Value
  | .set filename rule value => table.set filename rule value
  | .setDefault filename rule value =>
      if ((table filename).bind (· rule)).isSome then
        table
      else
        table.set filename rule value
  | .replaceFile filename rules => Function.update table filename (some rules.get?)
  | .remove filename rule =>
      Function.update table filename
        ((table filename).map fun rules => Function.update rules rule none)
  | .removeFile filename => Function.update table filename none
  | .pruneEmpty => fun filename =>
      if table filename = some fun _ => none then none else table filename
  | .sort => table

/-- What operations one after the other do to a table. -/
noncomputable def performAll
    (table : Table Value)
    (operations : List (Operation Value)) :
    Table Value :=
  operations.foldl perform table

end Table

namespace Arrangement

/-- What an operation does to an arrangement; it does not matter which values are given. -/
def perform (arrangement : Arrangement) : Operation Value → Arrangement
  | .set filename rule _ | .setDefault filename rule _ => {
      files := filename.addLast arrangement.files
      rules :=
        Function.update arrangement.rules filename
          (rule.addLast (arrangement.rules filename))
    }
  | .replaceFile filename rules => {
      files := filename.addLast arrangement.files
      rules := Function.update arrangement.rules filename rules.keys
    }
  | .remove filename rule => {
      arrangement with
      rules :=
        Function.update arrangement.rules filename
          ((arrangement.rules filename).filter (· ≠ rule))
    }
  | .removeFile filename => {
      files := arrangement.files.filter (· ≠ filename)
      rules := Function.update arrangement.rules filename []
    }
  | .pruneEmpty => {
      arrangement with
      files := arrangement.files.filter fun filename => arrangement.rules filename ≠ []
    }
  | .sort => {
      files := Text.sorted arrangement.files
      rules := fun filename => Text.sorted (arrangement.rules filename)
    }

/-- What operations one after the other do to an arrangement. -/
def performAll
    (arrangement : Arrangement)
    (operations : List (Operation Value)) :
    Arrangement :=
  operations.foldl perform arrangement

end Arrangement

/-! ## Each operation -/

theorem files_get?_replaceFile
    (ledger : Ledger Value)
    (filename query : Text)
    (rules : OrderedMap Value) :
    (ledger.replaceFile filename rules).files.get? query =
      if filename = query then some rules else ledger.files.get? query :=
  ledger.files.get?_insert filename query rules

theorem rules_sorted
    (ledger : Ledger Value)
    (filename : Text) :
    ledger.sorted.rules filename = (ledger.rules filename).sorted := by
  rw [rules, files_get?_sorted, rules]
  cases ledger.files.get? filename with
  | none => rfl
  | some rules => rfl

theorem table_replaceFile
    (ledger : Ledger Value)
    (filename : Text)
    (rules : OrderedMap Value) :
    (ledger.replaceFile filename rules).table =
      Function.update ledger.table filename (some rules.get?) := by
  funext query
  rw [table, files_get?_replaceFile, Function.update_apply, apply_ite (Option.map _)]
  simp only [eq_comm, Option.map_some, table]

theorem arrangement_replaceFile
    (ledger : Ledger Value)
    (filename : Text)
    (rules : OrderedMap Value) :
    (ledger.replaceFile filename rules).arrangement =
      { files := filename.addLast ledger.arrangement.files
        rules := Function.update ledger.arrangement.rules filename rules.keys } := by
  refine Arrangement.ext (ledger.files.keys_insert_eq_addLast filename rules) ?_
  funext query
  change ((ledger.replaceFile filename rules).rules query).keys =
    Function.update ledger.arrangement.rules filename rules.keys query
  rw [rules_replaceFile, Function.update_apply, apply_ite OrderedMap.keys]
  simp only [eq_comm, arrangement]

theorem table_set
    (ledger : Ledger Value)
    (filename rule : Text)
    (value : Value) :
    (ledger.set filename rule value).table =
      ledger.table.set filename rule value := by
  rw [set, table_replaceFile, OrderedMap.get?_insert_eq_update, get?_rules, Table.set]

theorem arrangement_set
    (ledger : Ledger Value)
    (filename rule : Text)
    (value : Value) :
    (ledger.set filename rule value).arrangement =
      ledger.arrangement.perform (.set filename rule value) := by
  rw [set, arrangement_replaceFile, OrderedMap.keys_insert_eq_addLast]
  rfl

/-- A rule that has a value keeps it, and its place. -/
theorem setDefault_of_isSome
    {ledger : Ledger Value}
    {filename rule : Text}
    (has : (ledger.get? filename rule).isSome)
    (value : Value) :
    ledger.setDefault filename rule value = ledger := by
  obtain ⟨old, found⟩ := Option.isSome_iff_exists.mp has
  rw [setDefault, found]

theorem setDefault_of_eq_none
    {ledger : Ledger Value}
    {filename rule : Text}
    (none : ledger.get? filename rule = none)
    (value : Value) :
    ledger.setDefault filename rule value = ledger.set filename rule value := by
  rw [setDefault, none]

theorem table_setDefault
    (ledger : Ledger Value)
    (filename rule : Text)
    (value : Value) :
    (ledger.setDefault filename rule value).table =
      ledger.table.perform (.setDefault filename rule value) := by
  rw [Table.perform, ← get?_eq_table]
  split
  · next has => rw [setDefault_of_isSome has]
  · next hasNone =>
      rw [setDefault_of_eq_none (by simpa using hasNone), table_set]

/-- A rule with a value is listed, and its file is. -/
theorem mem_arrangement_of_isSome
    {ledger : Ledger Value}
    {filename rule : Text}
    (has : (ledger.get? filename rule).isSome) :
    filename ∈ ledger.arrangement.files ∧
      rule ∈ ledger.arrangement.rules filename := by
  obtain ⟨value, found⟩ := Option.isSome_iff_exists.mp has
  obtain ⟨rules, listed, _⟩ := listed_of_get? found
  exact
    ⟨OrderedMap.mem_keys_iff.mpr (Option.isSome_iff_exists.mpr ⟨rules, listed⟩),
      OrderedMap.mem_keys_iff.mpr has⟩

/-- Nothing moves where a rule has a value. -/
theorem perform_set_of_isSome
    {ledger : Ledger Value}
    {filename rule : Text}
    (has : (ledger.get? filename rule).isSome)
    (value : Value) :
    ledger.arrangement.perform (.set filename rule value) = ledger.arrangement := by
  obtain ⟨fileListed, ruleListed⟩ := mem_arrangement_of_isSome has
  refine Arrangement.ext (Text.addLast_of_mem fileListed) ?_
  exact Function.update_eq_self_iff.mpr (Text.addLast_of_mem ruleListed)

theorem arrangement_setDefault
    (ledger : Ledger Value)
    (filename rule : Text)
    (value : Value) :
    (ledger.setDefault filename rule value).arrangement =
      ledger.arrangement.perform (.setDefault filename rule value) := by
  change _ = ledger.arrangement.perform (.set filename rule value)
  cases found : ledger.get? filename rule with
  | none =>
      rw [setDefault_of_eq_none found, arrangement_set]
  | some old =>
      have has : (ledger.get? filename rule).isSome := found ▸ rfl
      rw [setDefault_of_isSome has, perform_set_of_isSome has]

theorem table_remove
    (ledger : Ledger Value)
    (filename rule : Text) :
    (ledger.remove filename rule).table =
      ledger.table.perform (.remove filename rule) := by
  rw [Table.perform, remove]
  cases listed : ledger.files.get? filename with
  | none =>
      have notListed : ledger.table filename = none := by
        rw [table, listed, Option.map_none]
      rw [notListed, Option.map_none, Function.update_eq_self_iff.mpr notListed.symm]
  | some rules =>
      have isListed : ledger.table filename = some rules.get? := by
        rw [table, listed, Option.map_some]
      dsimp only
      rw [table_replaceFile, OrderedMap.get?_erase_eq_update, isListed, Option.map_some]

theorem arrangement_remove
    (ledger : Ledger Value)
    (filename rule : Text) :
    (ledger.remove filename rule).arrangement =
      ledger.arrangement.perform (Operation.remove filename rule : Operation Value) := by
  rw [remove]
  cases listed : ledger.files.get? filename with
  | none =>
      have noRules : ledger.arrangement.rules filename = [] := by
        change (ledger.rules filename).keys = []
        rw [rules, listed]
        rfl
      refine Arrangement.ext rfl (Function.update_eq_self_iff.mpr ?_).symm
      rw [noRules, List.filter_nil]
  | some rules =>
      have fileListed : filename ∈ ledger.arrangement.files :=
        OrderedMap.mem_keys_iff.mpr (Option.isSome_iff_exists.mpr ⟨rules, listed⟩)
      have rulesListed : ledger.arrangement.rules filename = rules.keys := by
        change (ledger.rules filename).keys = rules.keys
        rw [Ledger.rules, listed]
        rfl
      dsimp only
      rw [arrangement_replaceFile, OrderedMap.keys_erase, ← rulesListed,
        Text.addLast_of_mem fileListed]
      rfl

theorem table_removeFile
    (ledger : Ledger Value)
    (filename : Text) :
    (ledger.removeFile filename).table =
      ledger.table.perform (.removeFile filename) := by
  funext query
  rw [Table.perform, Function.update_apply, table, removeFile, OrderedMap.get?_erase,
    apply_ite (Option.map _)]
  simp only [eq_comm, Option.map_none, table]

theorem arrangement_removeFile
    (ledger : Ledger Value)
    (filename : Text) :
    (ledger.removeFile filename).arrangement =
      ledger.arrangement.perform (Operation.removeFile filename : Operation Value) := by
  refine Arrangement.ext (ledger.files.keys_erase filename) ?_
  funext query
  change ((ledger.removeFile filename).rules query).keys =
    Function.update ledger.arrangement.rules filename [] query
  rw [Function.update_apply, rules, removeFile, OrderedMap.get?_erase]
  by_cases same : filename = query
  · rw [if_pos same, if_pos same.symm]
    rfl
  · rw [if_neg same, if_neg (Ne.symm same)]
    rfl

theorem table_pruneEmpty
    (ledger : Ledger Value) :
    ledger.pruneEmpty.table = ledger.table.perform .pruneEmpty := by
  funext filename
  have pruned :
      ledger.pruneEmpty.table filename =
        ((ledger.files.get? filename).filter fun rules => !rules.isEmpty).map
          OrderedMap.get? := by
    rw [table, pruneEmpty, OrderedMap.get?_filter]
  rw [pruned, Table.perform]
  dsimp only
  split
  · next isEmpty =>
      obtain ⟨rules, listed, noValue⟩ := Option.map_eq_some_iff.mp isEmpty
      have nothing := OrderedMap.isEmpty_iff_get?_eq_none.mpr noValue
      rw [listed, Option.filter_some, nothing]
      rfl
  · next notEmpty =>
      rw [table]
      cases listed : ledger.files.get? filename with
      | none => rfl
      | some rules =>
          have something : rules.isEmpty = false := by
            rw [Bool.eq_false_iff]
            intro nothing
            have noValue := OrderedMap.isEmpty_iff_get?_eq_none.mp nothing
            apply notEmpty
            rw [table, listed, Option.map_some, noValue]
          rw [Option.filter_some, something]
          rfl

theorem arrangement_pruneEmpty
    (ledger : Ledger Value) :
    ledger.pruneEmpty.arrangement =
      ledger.arrangement.perform (Operation.pruneEmpty : Operation Value) := by
  refine Arrangement.ext ?_ ?_
  · change (ledger.files.entries.filter fun entry => !entry.2.isEmpty).map Prod.fst =
      (ledger.files.entries.map Prod.fst).filter fun filename =>
        decide ((ledger.rules filename).keys ≠ [])
    rw [List.filter_map]
    refine congrArg (List.map Prod.fst) (List.filter_congr fun file member => ?_)
    have listed : ledger.rules file.1 = file.2 := by
      rw [rules, OrderedMap.get?_eq_some_iff.mpr member]
      rfl
    rw [Function.comp_apply, listed, Bool.eq_iff_iff, Bool.not_eq_true',
      decide_eq_true_iff, Ne, ← OrderedMap.isEmpty_iff_keys_eq_nil, Bool.not_eq_true]
  · funext filename
    exact congrArg OrderedMap.keys (rules_pruneEmpty ledger filename)

theorem table_sorted
    (ledger : Ledger Value) :
    ledger.sorted.table = ledger.table := by
  funext filename
  rw [table, files_get?_sorted, Option.map_map, table]
  congr 1
  funext rules query
  exact rules.get?_sorted query

theorem arrangement_sorted
    (ledger : Ledger Value) :
    ledger.sorted.arrangement =
      ledger.arrangement.perform (Operation.sort : Operation Value) := by
  refine Arrangement.ext ?_ ?_
  · change ledger.sorted.files.keys = Text.sorted ledger.files.keys
    rw [sorted, OrderedMap.keys_sorted, OrderedMap.keys_mapValues]
  · funext filename
    change (ledger.sorted.rules filename).keys = Text.sorted (ledger.rules filename).keys
    rw [rules_sorted, OrderedMap.keys_sorted]

/-! ## Any operations -/

/-- An operation does to the table of a ledger what it does to a partial function. -/
theorem table_perform
    (ledger : Ledger Value)
    (operation : Operation Value) :
    (ledger.perform operation).table = ledger.table.perform operation := by
  cases operation with
  | set filename rule value => exact ledger.table_set filename rule value
  | setDefault filename rule value => exact ledger.table_setDefault filename rule value
  | replaceFile filename rules => exact ledger.table_replaceFile filename rules
  | remove filename rule => exact ledger.table_remove filename rule
  | removeFile filename => exact ledger.table_removeFile filename
  | pruneEmpty => exact ledger.table_pruneEmpty
  | sort => exact ledger.table_sorted

/-- An operation does to the arrangement of a ledger what it does to lists of keys. -/
theorem arrangement_perform
    (ledger : Ledger Value)
    (operation : Operation Value) :
    (ledger.perform operation).arrangement =
      ledger.arrangement.perform operation := by
  cases operation with
  | set filename rule value => exact ledger.arrangement_set filename rule value
  | setDefault filename rule value =>
      exact ledger.arrangement_setDefault filename rule value
  | replaceFile filename rules => exact ledger.arrangement_replaceFile filename rules
  | remove filename rule => exact ledger.arrangement_remove filename rule
  | removeFile filename => exact ledger.arrangement_removeFile filename
  | pruneEmpty => exact ledger.arrangement_pruneEmpty
  | sort => exact ledger.arrangement_sorted

theorem table_performAll
    (ledger : Ledger Value)
    (operations : List (Operation Value)) :
    (ledger.performAll operations).table = ledger.table.performAll operations := by
  induction operations generalizing ledger with
  | nil => rfl
  | cons operation operations inductionHypothesis =>
      exact
        (inductionHypothesis (ledger.perform operation)).trans
          (congrArg (Table.performAll · operations) (ledger.table_perform operation))

theorem arrangement_performAll
    (ledger : Ledger Value)
    (operations : List (Operation Value)) :
    (ledger.performAll operations).arrangement =
      ledger.arrangement.performAll operations := by
  induction operations generalizing ledger with
  | nil => rfl
  | cons operation operations inductionHypothesis =>
      exact
        (inductionHypothesis (ledger.perform operation)).trans
          (congrArg (Arrangement.performAll · operations)
            (ledger.arrangement_perform operation))

/-! ## What holds of every ledger -/

/-- A ledger lists a table in the order of an arrangement, and each key once. -/
structure Represents
    (ledger : Ledger Value)
    (table : Table Value)
    (arrangement : Arrangement) :
    Prop where
  filesDistinct : ledger.filenames.Nodup
  rulesDistinct : ∀ filename, (ledger.rules filename).keys.Nodup
  files : ledger.filenames = arrangement.files
  rules : ∀ filename, (ledger.rules filename).keys = arrangement.rules filename
  listed : ∀ filename, ledger.contains filename = (table filename).isSome
  values : ∀ filename rule, ledger.get? filename rule = (table filename).bind (· rule)
  items : ledger.items = arrangement.items table
  itemsComplete :
    ∀ filename rule value,
      (filename, rule, value) ∈ ledger.items ↔
        (table filename).bind (· rule) = some value
  itemsOnce : (ledger.items.map fun item => (item.1, item.2.1)).Nodup

theorem represents (ledger : Ledger Value) :
    Represents ledger ledger.table ledger.arrangement where
  filesDistinct := ledger.files.keysDistinct
  rulesDistinct filename := (ledger.rules filename).keysDistinct
  files := rfl
  rules _ := rfl
  listed := ledger.contains_eq_table
  values := ledger.get?_eq_table
  items := ledger.items_eq
  itemsComplete filename rule value := by
    rw [mem_items_iff, get?_eq_table]
  itemsOnce := ledger.items_pairs_nodup

/--
A known key keeps its place when it is overwritten.  A removed one leaves the
others in order, and it goes last when it comes back, as any new key does.
-/
structure InsertionOrder (ledger : Ledger Value) : Prop where
  knownRule :
    ∀ filename rule value,
      (ledger.get? filename rule).isSome →
      (ledger.set filename rule value).arrangement = ledger.arrangement
  knownFile :
    ∀ filename rule value,
      filename ∈ ledger.filenames →
      (ledger.set filename rule value).filenames = ledger.filenames
  replacedFile :
    ∀ filename rules,
      filename ∈ ledger.filenames →
      (ledger.replaceFile filename rules).filenames = ledger.filenames
  removedRule :
    ∀ filename rule,
      ((ledger.remove filename rule).rules filename).keys =
        (ledger.rules filename).keys.filter (· ≠ rule)
  removedFile :
    ∀ filename,
      (ledger.removeFile filename).filenames = ledger.filenames.filter (· ≠ filename)
  newRule :
    ∀ filename rule value,
      rule ∉ (ledger.rules filename).keys →
      ((ledger.set filename rule value).rules filename).keys =
        (ledger.rules filename).keys ++ [rule]
  newFile :
    ∀ filename rule value,
      filename ∉ ledger.filenames →
      (ledger.set filename rule value).filenames = ledger.filenames ++ [filename]
  newReplacedFile :
    ∀ filename rules,
      filename ∉ ledger.filenames →
      (ledger.replaceFile filename rules).filenames = ledger.filenames ++ [filename]

theorem filenames_replaceFile
    (ledger : Ledger Value)
    (filename : Text)
    (rules : OrderedMap Value) :
    (ledger.replaceFile filename rules).filenames =
      filename.addLast ledger.filenames :=
  ledger.files.keys_insert_eq_addLast filename rules

theorem keys_rules_set
    (ledger : Ledger Value)
    (filename rule : Text)
    (value : Value) :
    ((ledger.set filename rule value).rules filename).keys =
      rule.addLast (ledger.rules filename).keys := by
  rw [set, rules_replaceFile, if_pos rfl, OrderedMap.keys_insert_eq_addLast]

theorem insertionOrder (ledger : Ledger Value) : InsertionOrder ledger where
  knownRule filename rule value has := by
    rw [arrangement_set, perform_set_of_isSome has]
  knownFile filename rule value known := by
    rw [set, filenames_replaceFile, Text.addLast_of_mem known]
  replacedFile filename rules known := by
    rw [filenames_replaceFile, Text.addLast_of_mem known]
  removedRule filename rule := by
    have arranged := congrArg Arrangement.rules (ledger.arrangement_remove filename rule)
    exact (congrFun arranged filename).trans (Function.update_self _ _ _)
  removedFile filename := ledger.files.keys_erase filename
  newRule filename rule value new := by
    rw [keys_rules_set, Text.addLast_of_not_mem new]
  newFile filename rule value new := by
    rw [set, filenames_replaceFile, Text.addLast_of_not_mem new]
  newReplacedFile filename rules new := by
    rw [filenames_replaceFile, Text.addLast_of_not_mem new]

/-- Whether an operation can give a file rules or take it off the list. -/
def Operation.Concerns (filename : Text) : Operation Value → Prop
  | .set other _ _ | .setDefault other _ _ => other = filename
  | .replaceFile other _ | .removeFile other => other = filename
  | .pruneEmpty => True
  | .remove _ _ | .sort => False

/-- A file without rules stays listed until an operation concerns it. -/
theorem table_perform_of_no_rules
    {ledger : Ledger Value}
    {filename : Text}
    (noRules : ledger.table filename = some fun _ => none)
    {operation : Operation Value}
    (elsewhere : ¬operation.Concerns filename) :
    (ledger.perform operation).table filename = some fun _ => none := by
  rw [table_perform]
  cases operation with
  | set other rule value =>
      exact (Function.update_of_ne (Ne.symm elsewhere) _ _).trans noRules
  | setDefault other rule value =>
      rw [Table.perform]
      split
      · exact noRules
      · exact (Function.update_of_ne (Ne.symm elsewhere) _ _).trans noRules
  | replaceFile other rules =>
      exact (Function.update_of_ne (Ne.symm elsewhere) _ _).trans noRules
  | remove other rule =>
      rw [Table.perform]
      by_cases same : filename = other
      · subst other
        rw [Function.update_self, noRules, Option.map_some]
        exact congrArg some (Function.update_eq_self_iff.mpr rfl)
      · exact (Function.update_of_ne same _ _).trans noRules
  | removeFile other =>
      exact (Function.update_of_ne (Ne.symm elsewhere) _ _).trans noRules
  | pruneEmpty => exact (elsewhere trivial).elim
  | sort => exact noRules

end Ledger

end Tolerance
