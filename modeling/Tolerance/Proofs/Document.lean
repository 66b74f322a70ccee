import Mathlib.Data.List.Forall2
import Tolerance.Baseline.Storage
import Tolerance.Proofs.Baseline
import Tolerance.Proofs.Json.RoundTrip

namespace Tolerance.Baseline

/-!
# The stored form of a baseline is read back

What is stored of a baseline is its canonical form, and this is what is read
back.  Nothing that is read has a count below zero.
-/

/-- An object whose `count` is this whole number, which is not below zero. -/
inductive HoldsCount : Json → Int → Prop where
  | entry
      (fields : List (Text × Json))
      (count : Int)
      (held : Json.field? "count" fields = some (.integer count))
      (notBelow : 0 ≤ count) :
      HoldsCount (.object fields) count

/-- A rule of an object and its count are listed under its name. -/
def ListsRule (rule : Text × Json) (entry : Text × Int) : Prop :=
  rule.1 = entry.1 ∧ HoldsCount rule.2 entry.2

/-- A file of an object is listed under its name with all rules in their order. -/
inductive ListsFile : Text × Json → Text × OrderedMap Int → Prop where
  | file
      {filename : Text}
      {rules : List (Text × Json)}
      {tolerated : OrderedMap Int}
      (listed : List.Forall₂ ListsRule rules tolerated.entries) :
      ListsFile (filename, .object rules) (filename, tolerated)

/-- The files of an object are those of a baseline, in the same order at both levels. -/
inductive Lists : Json → Baseline → Prop where
  | files
      {files : List (Text × Json)}
      {baseline : Baseline}
      (listed : List.Forall₂ ListsFile files baseline.files.entries) :
      Lists (.object files) baseline

theorem entryOfJson_eq_ok_iff
    {filename rule : Text}
    {value : Json}
    {count : Int} :
    entryOfJson filename rule value = .ok count ↔ HoldsCount value count := by
  constructor
  · intro read
    unfold entryOfJson at read
    split at read
    · next fields =>
        split at read
        · cases read
        · next held =>
            split at read
            · cases read
            · next notBelow =>
                cases read
                exact .entry fields count held (Int.not_lt.mp notBelow)
        · cases read
    · cases read
  · rintro ⟨fields, count, held, notBelow⟩
    simp [entryOfJson, held, Int.not_lt.mpr notBelow]

theorem holdsCount_entryToJson
    {count : Int}
    (nonnegative : 0 ≤ count) :
    HoldsCount (entryToJson count) count :=
  .entry _ count (by simp [Json.field?]) nonnegative

private theorem replaceFile_set
    (baseline : Baseline)
    (filename rule : Text)
    (rules : OrderedMap Int)
    (count : Int) :
    (baseline.replaceFile filename rules).set filename rule count =
      baseline.replaceFile filename (rules.insert rule count) := by
  rw [Ledger.set, Ledger.rules_replaceFile, if_pos rfl]
  unfold Ledger.replaceFile
  rw [OrderedMap.insert_insert]

/-- Rules that hold counts are added in their order. -/
theorem addRules_eq_ok
    {rules : List (Text × Json)}
    {entries : List (Text × Int)}
    (listed : List.Forall₂ ListsRule rules entries)
    (baseline : Baseline)
    (filename : Text)
    (before : OrderedMap Int) :
    addRules filename (baseline.replaceFile filename before) rules =
      .ok
        (baseline.replaceFile filename
          (entries.foldl
            (fun extended entry => extended.insert entry.1 entry.2)
            before)) := by
  induction listed generalizing before with
  | nil =>
      rfl
  | @cons rule entry rules entries first later inductionHypothesis =>
      obtain ⟨sameName, holds⟩ := first
      refine Outcome.bind_eq_ok_iff.mpr
        ⟨entry.2, entryOfJson_eq_ok_iff.mpr holds, ?_⟩
      rw [replaceFile_set, sameName]
      exact inductionHypothesis (before.insert entry.1 entry.2)

/-- Files that hold rules are added in their order. -/
theorem addFiles_eq_ok
    {files : List (Text × Json)}
    {entries : List (Text × OrderedMap Int)}
    (listed : List.Forall₂ ListsFile files entries)
    (baseline : Baseline) :
    addFiles baseline files =
      .ok {
        files :=
          entries.foldl
            (fun extended entry => extended.insert entry.1 entry.2)
            baseline.files
      } := by
  induction listed generalizing baseline with
  | nil =>
      rfl
  | cons first later inductionHypothesis =>
      obtain @⟨filename, rules, tolerated, listed⟩ := first
      have added := addRules_eq_ok listed baseline filename OrderedMap.empty
      rw [← OrderedMap.ofList, OrderedMap.ofList_entries] at added
      exact Outcome.bind_eq_ok_iff.mpr
        ⟨baseline.replaceFile filename tolerated, added,
          inductionHypothesis _⟩

/-- A baseline is read of the object that lists what it does. -/
theorem Lists.ofJson_eq_ok
    {value : Json}
    {baseline : Baseline}
    (lists : Lists value baseline) :
    ofJson value = .ok baseline := by
  obtain ⟨listed⟩ := lists
  rw [ofJson, addFiles_eq_ok listed]
  exact
    congrArg (fun files => Except.ok (Ledger.mk files))
      (OrderedMap.ofList_entries _)

theorem Nonnegative.sorted_pruneEmpty
    {baseline : Baseline}
    (nonnegative : baseline.Nonnegative) :
    Nonnegative baseline.sorted.pruneEmpty := by
  rw [nonnegative_iff] at nonnegative ⊢
  simpa using nonnegative

/-- The stored form lists the canonical form. -/
theorem lists_toJson
    {baseline : Baseline}
    (nonnegative : baseline.Nonnegative) :
    Lists baseline.toJson baseline.sorted.pruneEmpty := by
  refine .files (List.forall₂_map_left_iff.mpr (List.forall₂_same.mpr ?_))
  intro file fileMember
  refine .file (List.forall₂_map_left_iff.mpr (List.forall₂_same.mpr ?_))
  intro entry entryMember
  refine ⟨rfl, holdsCount_entryToJson ?_⟩
  exact
    nonnegative.sorted_pruneEmpty (file.1, entry.1, entry.2)
      (List.mem_flatMap.mpr
        ⟨file, fileMember, List.mem_map_of_mem entryMember⟩)

/-- The canonical form is read back from the stored form. -/
theorem ofJson_toJson
    {baseline : Baseline}
    (nonnegative : baseline.Nonnegative) :
    ofJson baseline.toJson = .ok baseline.sorted.pruneEmpty :=
  (lists_toJson nonnegative).ofJson_eq_ok

private theorem recoverable_entryToJson (count : Int) :
    (entryToJson count).Recoverable :=
  ⟨by simp, by decide, trivial, trivial⟩

/-- The stored form can be told from its written form. -/
theorem recoverable_toJson
    {baseline : Baseline}
    (apart : baseline.SurrogatesApart) :
    baseline.toJson.Recoverable := by
  have canonicalApart : baseline.sorted.pruneEmpty.SurrogatesApart := by
    rw [Ledger.surrogatesApart_iff] at apart ⊢
    simpa using apart
  have pruned := baseline.sorted.pruned_pruneEmpty
  rw [toJson]
  generalize baseline.sorted.pruneEmpty = canonical at canonicalApart pruned
  have namesApart
      {file : Text × OrderedMap Int}
      (fileMember : file ∈ canonical.files.entries)
      {entry : Text × Int}
      (entryMember : entry ∈ file.2.entries) :
      file.1.SurrogatesApart ∧ entry.1.SurrogatesApart :=
    canonicalApart (file.1, entry.1, entry.2)
      (List.mem_flatMap.mpr
        ⟨file, fileMember, List.mem_map_of_mem entryMember⟩)
  refine ⟨?_, Json.recoverableFields_iff.mpr ?_⟩
  · simpa [List.map_map, Function.comp_def] using
      canonical.files.keysDistinct
  intro field member
  obtain ⟨file, fileMember, rfl⟩ := List.mem_map.mp member
  refine ⟨?_, ?_, Json.recoverableFields_iff.mpr ?_⟩
  · have listed := OrderedMap.get?_eq_some_iff.mpr fileMember
    obtain ⟨first, _, shape⟩ :=
      List.exists_cons_of_ne_nil
        (List.isEmpty_eq_false_iff.mp (pruned listed))
    exact (namesApart fileMember (shape ▸ List.mem_cons_self)).1
  · simpa [List.map_map, Function.comp_def] using file.2.keysDistinct
  · intro field member
    obtain ⟨entry, entryMember, rfl⟩ := List.mem_map.mp member
    exact
      ⟨(namesApart fileMember entryMember).2, recoverable_entryToJson entry.2⟩

/-- The stored form is three objects deep. -/
theorem depth_toJson_le (baseline : Baseline) :
    baseline.toJson.depth ≤ 3 := by
  have depthOfEntry (count : Int) : (entryToJson count).depth ≤ 1 := by
    simp [entryToJson, Json.depth, Json.depthOfFields]
  refine Nat.succ_le_succ (Json.depthOfFields_le_iff.mpr ?_)
  intro field member
  obtain ⟨file, _, rfl⟩ := List.mem_map.mp member
  refine Nat.succ_le_succ (Json.depthOfFields_le_iff.mpr ?_)
  intro field member
  obtain ⟨entry, _, rfl⟩ := List.mem_map.mp member
  exact depthOfEntry entry.2

/-- No count has too many digits to be written. -/
def Writable (baseline : Baseline) : Prop :=
  ∀ item ∈ baseline.items, item.2.2.natAbs < Numeral.bound

instance (baseline : Baseline) : Decidable baseline.Writable :=
  List.decidableBAll _ baseline.items

theorem writable_iff
    {baseline : Baseline} :
    baseline.Writable ↔
      ∀ filename rule tolerated,
        baseline.get? filename rule = some tolerated →
        tolerated.natAbs < Numeral.bound := by
  constructor
  · intro writable filename rule tolerated found
    exact writable _ (Ledger.mem_items_iff.mpr found)
  · rintro listed ⟨filename, rule, tolerated⟩ member
    exact listed filename rule tolerated (Ledger.mem_items_iff.mp member)

private theorem exists_writeAt_entryToJson_iff
    {depth : Nat}
    {count : Int} :
    (∃ text, Json.writeAt .indented depth (entryToJson count) = .ok text) ↔
      count.natAbs < Numeral.bound := by
  rw [entryToJson, Json.exists_writeAt_object_iff, List.forall_mem_singleton,
    Json.writeAt]
  simp [Numeral.write_eq_ok_iff]

/-- A baseline has a text exactly if all its counts can be written. -/
theorem exists_fileText_iff
    {baseline : Baseline} :
    (∃ text, baseline.fileText = .ok text) ↔ baseline.Writable := by
  have sameCounts : Writable baseline.sorted.pruneEmpty ↔ baseline.Writable := by
    rw [writable_iff, writable_iff]
    simp
  have written :
      (∃ text, baseline.fileText = .ok text) ↔
        ∃ text, Json.writeAt .indented 0 baseline.toJson = .ok text := by
    constructor
    · rintro ⟨_, wrote⟩
      obtain ⟨text, wroteJson, _⟩ := Outcome.bind_eq_ok_iff.mp wrote
      exact ⟨text, wroteJson⟩
    · rintro ⟨text, wroteJson⟩
      exact ⟨_, Outcome.bind_eq_ok_iff.mpr ⟨text, wroteJson, rfl⟩⟩
  rw [written, ← sameCounts, toJson, Json.exists_writeAt_object_iff,
    List.forall_mem_map, Writable, Ledger.items, List.forall_mem_flatMap]
  refine forall₂_congr fun file _ => ?_
  rw [Json.exists_writeAt_object_iff, List.forall_mem_map, List.forall_mem_map]
  exact forall₂_congr fun entry _ => exists_writeAt_entryToJson_iff

section FileText

variable {baseline : Baseline} {text : Text}

/-- A baseline file is plain text, and its JSON is the stored form. -/
theorem parse_fileText
    (apart : baseline.SurrogatesApart)
    (wrote : baseline.fileText = .ok text)
    (room : Room) :
    text.Plain ∧ Json.parse text room.levels = .ok baseline.toJson := by
  obtain ⟨written, wroteJson, same⟩ := Outcome.bind_eq_ok_iff.mp wrote
  cases same
  have recoverable := recoverable_toJson apart
  have shallow : baseline.toJson.depth ≤ room.levels :=
    (depth_toJson_le baseline).trans room.enough
  have blank : Json.Blank "\n" := by
    decide
  exact
    ⟨(Json.plain_writeAt recoverable wroteJson).append (by decide),
      Json.parse_write recoverable wroteJson shallow blank⟩

/-- The canonical form is read back from the bytes of a baseline file. -/
theorem ofFileBytes_fileText
    (nonnegative : baseline.Nonnegative)
    (apart : baseline.SurrogatesApart)
    (wrote : baseline.fileText = .ok text)
    (path : Path)
    (room : Room) :
    ofFileBytes path (text.flatMap Utf8.encodePoint) room =
      .ok baseline.sorted.pruneEmpty := by
  obtain ⟨plain, parsed⟩ := parse_fileText apart wrote room
  simp only [ofFileBytes, plain.decode_encode, plain.unifyLineEndings_eq,
    ofFileText, parsed, ofJson_toJson nonnegative]

end FileText

/-- A count that is read is not below zero. -/
theorem nonnegative_entryOfJson
    {filename rule : Text}
    {value : Json}
    {count : Int}
    (read : entryOfJson filename rule value = .ok count) :
    0 ≤ count := by
  obtain ⟨_, _, _, notBelow⟩ := entryOfJson_eq_ok_iff.mp read
  exact notBelow

private theorem Nonnegative.set
    {baseline : Baseline}
    (nonnegative : baseline.Nonnegative)
    (filename rule : Text)
    {count : Int}
    (notBelow : 0 ≤ count) :
    Nonnegative (baseline.set filename rule count) := by
  rw [nonnegative_iff] at nonnegative ⊢
  intro otherFile otherRule tolerated found
  rw [Ledger.get?_set] at found
  split at found
  · cases found
    exact notBelow
  · exact nonnegative otherFile otherRule tolerated found

private theorem Nonnegative.replaceFile_empty
    {baseline : Baseline}
    (nonnegative : baseline.Nonnegative)
    (filename : Text) :
    Nonnegative (baseline.replaceFile filename OrderedMap.empty) := by
  rw [nonnegative_iff] at nonnegative ⊢
  intro otherFile rule tolerated found
  rw [Ledger.get?, Ledger.rules_replaceFile] at found
  split at found
  · cases found
  · exact nonnegative otherFile rule tolerated found

/-- The rules that are added to a file have no count below zero. -/
private theorem Nonnegative.addRules
    {filename : Text}
    {rules : List (Text × Json)}
    {before after : Baseline}
    (nonnegative : before.Nonnegative)
    (added : addRules filename before rules = .ok after) :
    after.Nonnegative := by
  induction rules generalizing before with
  | nil =>
      cases added
      exact nonnegative
  | cons rule rules inductionHypothesis =>
      obtain ⟨count, read, addedOthers⟩ := Outcome.bind_eq_ok_iff.mp added
      exact
        inductionHypothesis
          (nonnegative.set filename rule.1 (nonnegative_entryOfJson read))
          addedOthers

private theorem Nonnegative.addFiles
    {files : List (Text × Json)}
    {before after : Baseline}
    (nonnegative : before.Nonnegative)
    (added : addFiles before files = .ok after) :
    after.Nonnegative := by
  induction files generalizing before with
  | nil =>
      cases added
      exact nonnegative
  | cons file files inductionHypothesis =>
      obtain ⟨filename, value⟩ := file
      cases value with
      | object rules =>
          obtain ⟨extended, addedRules, addedOthers⟩ :=
            Outcome.bind_eq_ok_iff.mp added
          have listed := nonnegative.replaceFile_empty filename
          exact inductionHypothesis (listed.addRules addedRules) addedOthers
      | _ =>
          cases added

/-- A baseline that is read has no count below zero. -/
theorem nonnegative_of_ofJson
    {value : Json}
    {baseline : Baseline}
    (read : ofJson value = .ok baseline) :
    baseline.Nonnegative := by
  have nothing : Nonnegative Ledger.empty := by
    intro item member
    cases member
  cases value with
  | object files =>
      exact nothing.addFiles read
  | _ =>
      cases read

/-- A baseline from the bytes of a file has no count below zero. -/
theorem nonnegative_of_ofFileBytes
    {path : Path}
    {bytes : Bytes}
    {room : Room}
    {baseline : Baseline}
    (read : ofFileBytes path bytes room = .ok baseline) :
    baseline.Nonnegative := by
  unfold ofFileBytes at read
  split at read
  · cases read
  next text _ =>
  unfold ofFileText at read
  split at read
  · cases read
  · cases read
  next same =>
  cases read
  split at same
  · cases same
  split at same
  · cases same
  next wasRead =>
  cases same
  exact nonnegative_of_ofJson wasRead

end Tolerance.Baseline
