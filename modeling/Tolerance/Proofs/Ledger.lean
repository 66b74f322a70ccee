import Tolerance.Ledger
import Tolerance.Proofs.OrderedMap

namespace Tolerance

/-!
# Ledgers by their entries

An operation on a ledger is described by the value that each rule of each file
has after it.  A canonical ledger is ascending at both levels and lists no file
without rules; it is determined by the values of its rules alone.
-/

namespace OrderedMap

variable {Value : Type}

/-- Only the empty map gives no key a value. -/
theorem eq_empty_of_isEmpty
    {map : OrderedMap Value}
    (nothing : map.isEmpty = true) :
    map = empty := by
  cases map with
  | mk entries distinct =>
      cases List.isEmpty_iff.mp nothing
      rfl

/-- A map with entries gives some key a value. -/
theorem exists_get?_of_not_isEmpty
    {map : OrderedMap Value}
    (something : map.isEmpty = false) :
    ∃ key value, map.get? key = some value := by
  obtain ⟨first, rest, shape⟩ :=
    List.exists_cons_of_ne_nil (List.isEmpty_eq_false_iff.mp something)
  refine ⟨first.1, first.2, get?_eq_some_iff.mpr ?_⟩
  rw [shape]
  exact List.mem_cons_self

/-- A map in which some key has a value has entries. -/
theorem isEmpty_eq_false_of_get?
    {map : OrderedMap Value}
    {key : Text}
    {value : Value}
    (found : map.get? key = some value) :
    map.isEmpty = false := by
  rw [isEmpty, List.isEmpty_eq_false_iff]
  exact List.ne_nil_of_mem (get?_eq_some_iff.mp found)

end OrderedMap

namespace Ledger

variable {Value Other : Type}

@[simp] theorem rules_empty
    (filename : Text) :
    (empty : Ledger Value).rules filename = OrderedMap.empty :=
  rfl

@[simp] theorem get?_empty
    (filename rule : Text) :
    (empty : Ledger Value).get? filename rule = none :=
  rfl

/-- Replacing a file's rules changes this file only. -/
theorem rules_replaceFile
    (ledger : Ledger Value)
    (filename query : Text)
    (rules : OrderedMap Value) :
    (ledger.replaceFile filename rules).rules query =
      if filename = query then rules else ledger.rules query := by
  unfold Ledger.rules replaceFile
  rw [OrderedMap.get?_insert]
  split <;> rfl

/-- Giving a rule of a file a value changes this rule of this file only. -/
theorem get?_set
    (ledger : Ledger Value)
    (filename rule : Text)
    (value : Value)
    (otherFile otherRule : Text) :
    (ledger.set filename rule value).get? otherFile otherRule =
      if filename = otherFile ∧ rule = otherRule then
        some value
      else
        ledger.get? otherFile otherRule := by
  unfold get? set
  rw [rules_replaceFile]
  by_cases sameFile : filename = otherFile
  · subst otherFile
    by_cases sameRule : rule = otherRule <;>
      simp [OrderedMap.get?_insert, sameRule]
  · simp [sameFile]

/-- Taking the value away from a rule of a file changes this rule of this file only. -/
theorem get?_remove
    (ledger : Ledger Value)
    (filename rule otherFile otherRule : Text) :
    (ledger.remove filename rule).get? otherFile otherRule =
      if filename = otherFile ∧ rule = otherRule then
        none
      else
        ledger.get? otherFile otherRule := by
  unfold remove
  cases listed : ledger.files.get? filename with
  | none =>
      by_cases samePair : filename = otherFile ∧ rule = otherRule
      · obtain ⟨rfl, rfl⟩ := samePair
        simp [get?, rules, listed]
      · simp [samePair]
  | some rules =>
      dsimp only
      rw [get?, rules_replaceFile]
      by_cases sameFile : filename = otherFile
      · subst otherFile
        by_cases sameRule : rule = otherRule <;>
          simp [OrderedMap.get?_erase, sameRule, get?, Ledger.rules, listed]
      · simp [sameFile, get?]

theorem get?_mapValues
    (ledger : Ledger Value)
    (change : Value → Other)
    (filename rule : Text) :
    (ledger.mapValues change).get? filename rule =
      (ledger.get? filename rule).map change := by
  unfold get? rules mapValues
  rw [OrderedMap.get?_mapValues]
  cases ledger.files.get? filename with
  | none =>
      rfl
  | some rules =>
      exact rules.get?_mapValues change rule

theorem files_get?_sorted
    (ledger : Ledger Value)
    (filename : Text) :
    ledger.sorted.files.get? filename =
      (ledger.files.get? filename).map OrderedMap.sorted := by
  unfold sorted
  rw [OrderedMap.get?_sorted, OrderedMap.get?_mapValues]

@[simp] theorem get?_sorted
    (ledger : Ledger Value)
    (filename rule : Text) :
    ledger.sorted.get? filename rule = ledger.get? filename rule := by
  unfold get? rules
  rw [files_get?_sorted]
  cases ledger.files.get? filename with
  | none =>
      rfl
  | some rules =>
      exact rules.get?_sorted rule

/-- Taking files without rules off the list changes no rules. -/
@[simp] theorem rules_pruneEmpty
    (ledger : Ledger Value)
    (filename : Text) :
    ledger.pruneEmpty.rules filename = ledger.rules filename := by
  unfold rules pruneEmpty
  rw [OrderedMap.get?_filter]
  cases found : ledger.files.get? filename with
  | none =>
      rfl
  | some rules =>
      cases listed : rules.isEmpty with
      | true =>
          rw [OrderedMap.eq_empty_of_isEmpty listed]
          rfl
      | false =>
          simp [Option.filter, listed]

/-- Taking files without rules off the list changes no value. -/
@[simp] theorem get?_pruneEmpty
    (ledger : Ledger Value)
    (filename rule : Text) :
    ledger.pruneEmpty.get? filename rule = ledger.get? filename rule := by
  simp [get?]

/-- The listed entries are the rules with a value. -/
theorem mem_items_iff
    {ledger : Ledger Value}
    {filename rule : Text}
    {value : Value} :
    (filename, rule, value) ∈ ledger.items ↔
      ledger.get? filename rule = some value := by
  constructor
  · intro member
    obtain ⟨file, fileMember, entryMember⟩ := List.mem_flatMap.mp member
    obtain ⟨entry, inRules, same⟩ := List.mem_map.mp entryMember
    cases same
    have listed : ledger.files.get? file.1 = some file.2 :=
      OrderedMap.get?_eq_some_iff.mpr fileMember
    rw [get?, rules, listed]
    exact OrderedMap.get?_eq_some_iff.mpr inRules
  · intro found
    unfold get? rules at found
    cases listed : ledger.files.get? filename with
    | none =>
        simp [listed] at found
    | some rules =>
        rw [listed] at found
        refine List.mem_flatMap.mpr
          ⟨(filename, rules), OrderedMap.get?_eq_some_iff.mp listed, ?_⟩
        exact List.mem_map.mpr
          ⟨(rule, value), OrderedMap.get?_eq_some_iff.mp found, rfl⟩

/-- No rule of a file is listed twice. -/
theorem items_pairs_nodup (ledger : Ledger Value) :
    (ledger.items.map fun item => (item.1, item.2.1)).Nodup := by
  rw [items, List.map_flatMap]
  refine List.pairwise_flatMap.mpr ⟨?_, ?_⟩
  · intro file _
    rw [List.map_map]
    refine List.pairwise_map.mpr ?_
    exact (List.pairwise_map.mp file.2.keysDistinct).imp
      fun different same => different (congrArg Prod.snd same)
  · refine (List.pairwise_map.mp ledger.files.keysDistinct).imp ?_
    intro first second different left leftMember right rightMember same
    simp only [List.map_map, List.mem_map] at leftMember rightMember
    obtain ⟨_, _, rfl⟩ := leftMember
    obtain ⟨_, _, rfl⟩ := rightMember
    exact different (Prod.mk.inj same).1

theorem items_nodup (ledger : Ledger Value) : ledger.items.Nodup :=
  (List.pairwise_map.mp ledger.items_pairs_nodup).imp
    fun different same =>
      different (congrArg (fun item => (item.1, item.2.1)) same)

/-- Ledgers that give every rule the same value list the same entries. -/
theorem items_perm
    {left right : Ledger Value}
    (same :
      ∀ filename rule,
        left.get? filename rule = right.get? filename rule) :
    left.items.Perm right.items := by
  refine (List.perm_ext_iff_of_nodup
    left.items_nodup right.items_nodup).mpr ?_
  rintro ⟨filename, rule, value⟩
  rw [mem_items_iff, mem_items_iff, same filename rule]

/-- Ledgers list the same entries if and only if they give every rule the same value. -/
theorem items_perm_iff
    {left right : Ledger Value} :
    left.items.Perm right.items ↔
      ∀ filename rule,
        left.get? filename rule = right.get? filename rule := by
  refine ⟨fun reordered filename rule => ?_, items_perm⟩
  apply Option.ext
  intro value
  rw [← mem_items_iff, ← mem_items_iff, reordered.mem_iff]

/-- Files in ascending order, and the rules of each file too. -/
structure Ascending (ledger : Ledger Value) : Prop where
  files : ledger.files.Ascending
  rules :
    ∀ ⦃filename rules⦄,
      ledger.files.get? filename = some rules →
      rules.Ascending

/-- No file is listed without rules. -/
def Pruned (ledger : Ledger Value) : Prop :=
  ∀ ⦃filename rules⦄,
    ledger.files.get? filename = some rules →
    rules.isEmpty = false

/-- The form in which a ledger is kept: ascending, and no file without rules. -/
structure Canonical (ledger : Ledger Value) : Prop where
  ascending : ledger.Ascending
  pruned : ledger.Pruned

/-- A sorted ledger is ascending. -/
theorem ascending_sorted (ledger : Ledger Value) : ledger.sorted.Ascending where
  files := OrderedMap.ascending_sorted _
  rules filename rules listed := by
    rw [files_get?_sorted] at listed
    obtain ⟨unsorted, _, same⟩ := Option.map_eq_some_iff.mp listed
    rw [← same]
    exact unsorted.ascending_sorted

/-- A pruned ledger has no file without rules. -/
theorem pruned_pruneEmpty (ledger : Ledger Value) : ledger.pruneEmpty.Pruned := by
  intro filename rules listed
  rw [pruneEmpty, OrderedMap.get?_filter] at listed
  simpa using (Option.filter_eq_some_iff.mp listed).2

/-- Sorting leaves no file without rules that had some. -/
theorem Pruned.sorted
    {ledger : Ledger Value}
    (pruned : ledger.Pruned) :
    ledger.sorted.Pruned := by
  intro filename rules listed
  rw [files_get?_sorted] at listed
  obtain ⟨unsorted, listedBefore, same⟩ := Option.map_eq_some_iff.mp listed
  obtain ⟨key, value, found⟩ :=
    OrderedMap.exists_get?_of_not_isEmpty (pruned listedBefore)
  rw [← same]
  exact OrderedMap.isEmpty_eq_false_of_get?
    ((unsorted.get?_sorted key).trans found)

/-- Taking files off the list keeps the others in order. -/
theorem Ascending.pruneEmpty
    {ledger : Ledger Value}
    (ascending : ledger.Ascending) :
    ledger.pruneEmpty.Ascending where
  files := ascending.files.filter _
  rules filename rules listed := by
    rw [Ledger.pruneEmpty, OrderedMap.get?_filter] at listed
    exact ascending.rules (Option.filter_eq_some_iff.mp listed).1

/-- Sorting a ledger and then pruning it gives its canonical form. -/
theorem canonical_sorted_pruneEmpty
    (ledger : Ledger Value) :
    ledger.sorted.pruneEmpty.Canonical where
  ascending := ledger.ascending_sorted.pruneEmpty
  pruned := pruned_pruneEmpty _

/-- Sorting a ledger without empty files gives its canonical form. -/
theorem Pruned.canonical_sorted
    {ledger : Ledger Value}
    (pruned : ledger.Pruned) :
    ledger.sorted.Canonical where
  ascending := ledger.ascending_sorted
  pruned := pruned.sorted

/-- A file that a ledger without empty files lists has a rule with a value. -/
theorem exists_get?_of_listed
    {ledger : Ledger Value}
    (pruned : ledger.Pruned)
    {filename : Text}
    {rules : OrderedMap Value}
    (listed : ledger.files.get? filename = some rules) :
    ∃ rule value, ledger.get? filename rule = some value := by
  obtain ⟨rule, value, found⟩ :=
    OrderedMap.exists_get?_of_not_isEmpty (pruned listed)
  refine ⟨rule, value, ?_⟩
  rw [get?, Ledger.rules, listed]
  exact found

/-- A file in which some rule has a value is listed. -/
theorem listed_of_get?
    {ledger : Ledger Value}
    {filename rule : Text}
    {value : Value}
    (found : ledger.get? filename rule = some value) :
    ∃ rules,
      ledger.files.get? filename = some rules ∧
        rules.get? rule = some value := by
  unfold get? Ledger.rules at found
  cases listed : ledger.files.get? filename with
  | none =>
      simp [listed] at found
  | some rules =>
      rw [listed] at found
      exact ⟨rules, rfl, found⟩

/-- A canonical ledger is determined by the value of each rule. -/
theorem eq_of_canonical
    {left right : Ledger Value}
    (leftCanonical : left.Canonical)
    (rightCanonical : right.Canonical)
    (same :
      ∀ filename rule,
        left.get? filename rule = right.get? filename rule) :
    left = right := by
  have sameFiles : left.files = right.files := by
    refine OrderedMap.eq_of_ascending
      leftCanonical.ascending.files rightCanonical.ascending.files ?_
    intro filename
    cases inLeft : left.files.get? filename with
    | none =>
        cases inRight : right.files.get? filename with
        | none =>
            rfl
        | some rules =>
            obtain ⟨rule, value, found⟩ :=
              exists_get?_of_listed rightCanonical.pruned inRight
            obtain ⟨_, listed, _⟩ :=
              listed_of_get? ((same filename rule).trans found)
            simp [inLeft] at listed
    | some leftRules =>
        obtain ⟨rule, value, found⟩ :=
          exists_get?_of_listed leftCanonical.pruned inLeft
        obtain ⟨rightRules, inRight, _⟩ :=
          listed_of_get? ((same filename rule).symm.trans found)
        have sameRules : leftRules = rightRules := by
          refine OrderedMap.eq_of_ascending
            (leftCanonical.ascending.rules inLeft)
            (rightCanonical.ascending.rules inRight) ?_
          intro key
          have sameValue := same filename key
          simpa [get?, Ledger.rules, inLeft, inRight] using sameValue
        rw [inRight, sameRules]
  cases left
  cases right
  cases sameFiles
  rfl

/-- A canonical ledger is its own canonical form. -/
theorem Canonical.sorted_pruneEmpty_eq
    {ledger : Ledger Value}
    (canonical : ledger.Canonical) :
    ledger.sorted.pruneEmpty = ledger :=
  eq_of_canonical ledger.canonical_sorted_pruneEmpty canonical
    (by simp)

end Ledger

end Tolerance
