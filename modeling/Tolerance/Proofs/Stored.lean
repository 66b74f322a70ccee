import Tolerance.Proofs.Json.LineEndings
import Tolerance.Proofs.Storage

namespace Tolerance.Baseline

/-!
# Which files hold a baseline

A file holds a baseline if its bytes encode a JSON text of files, rules and
counts.  Of any other bytes it can be told why there is no baseline in them.
-/

/-- An object of objects that each hold a count. -/
inductive HoldsRules : Json → Prop where
  | rules
      (rules : List (Text × Json))
      (counts : ∀ rule ∈ rules, ∃ count, HoldsCount rule.2 count) :
      HoldsRules (.object rules)

/-- An object of files, each with an object of rules that hold counts. -/
inductive HoldsBaseline : Json → Prop where
  | files
      (files : List (Text × Json))
      (rules : ∀ file ∈ files, HoldsRules file.2) :
      HoldsBaseline (.object files)

/-- Rules are added to a baseline exactly if each of them holds a count. -/
theorem exists_addRules_iff
    {filename : Text}
    {rules : List (Text × Json)}
    (before : Baseline) :
    (∃ after, addRules filename before rules = .ok after) ↔
      ∀ rule ∈ rules, ∃ count, HoldsCount rule.2 count := by
  induction rules generalizing before with
  | nil =>
      exact ⟨fun _ => List.forall_mem_nil _, fun _ => ⟨before, rfl⟩⟩
  | cons rule rules inductionHypothesis =>
      rw [List.forall_mem_cons]
      constructor
      · rintro ⟨after, added⟩
        obtain ⟨count, read, addedOthers⟩ := Outcome.bind_eq_ok_iff.mp added
        exact
          ⟨⟨count, entryOfJson_eq_ok_iff.mp read⟩,
            (inductionHypothesis _).mp ⟨after, addedOthers⟩⟩
      · rintro ⟨⟨count, holds⟩, others⟩
        obtain ⟨after, addedOthers⟩ := (inductionHypothesis _).mpr others
        exact
          ⟨after,
            Outcome.bind_eq_ok_iff.mpr
              ⟨count, entryOfJson_eq_ok_iff.mpr holds, addedOthers⟩⟩

/-- Files are added to a baseline exactly if each of them holds rules. -/
theorem exists_addFiles_iff
    {files : List (Text × Json)}
    (before : Baseline) :
    (∃ after, addFiles before files = .ok after) ↔
      ∀ file ∈ files, HoldsRules file.2 := by
  induction files generalizing before with
  | nil =>
      exact ⟨fun _ => List.forall_mem_nil _, fun _ => ⟨before, rfl⟩⟩
  | cons file files inductionHypothesis =>
      rw [List.forall_mem_cons]
      constructor
      · rintro ⟨after, added⟩
        obtain ⟨filename, value⟩ := file
        cases value with
        | object rules =>
            obtain ⟨extended, addedRules, addedOthers⟩ :=
              Outcome.bind_eq_ok_iff.mp added
            exact
              ⟨.rules rules ((exists_addRules_iff _).mp ⟨extended, addedRules⟩),
                (inductionHypothesis extended).mp ⟨after, addedOthers⟩⟩
        | _ =>
            cases added
      · rintro ⟨holds, others⟩
        obtain ⟨filename, value⟩ := file
        obtain ⟨rules, counts⟩ := holds
        obtain ⟨extended, addedRules⟩ :=
          (exists_addRules_iff (before.replaceFile filename OrderedMap.empty)).mpr
            counts
        obtain ⟨after, addedOthers⟩ := (inductionHypothesis extended).mpr others
        exact
          ⟨after,
            Outcome.bind_eq_ok_iff.mpr ⟨extended, addedRules, addedOthers⟩⟩

/-- A JSON value is read as a baseline exactly if it holds one. -/
theorem exists_ofJson_iff
    {value : Json} :
    (∃ baseline, ofJson value = .ok baseline) ↔ HoldsBaseline value := by
  constructor
  · rintro ⟨baseline, read⟩
    cases value with
    | object files =>
        exact .files files ((exists_addFiles_iff _).mp ⟨baseline, read⟩)
    | _ =>
        cases read
  · rintro ⟨files, rules⟩
    exact (exists_addFiles_iff Ledger.empty).mpr rules

/-- A text is read as a baseline exactly if it is JSON that holds one. -/
theorem exists_ofFileText_iff
    {text : Text}
    {room : Room} :
    (∃ baseline, ofFileText text room = .ok baseline) ↔
      ∃ value, Json.parse text room.levels = .ok value ∧ HoldsBaseline value := by
  unfold ofFileText
  constructor
  · rintro ⟨baseline, read⟩
    split at read
    · cases read
    next value parsed =>
    split at read
    · cases read
    next same =>
    exact ⟨value, parsed, exists_ofJson_iff.mp ⟨_, same⟩⟩
  · rintro ⟨value, parsed, holds⟩
    obtain ⟨baseline, read⟩ := exists_ofJson_iff.mpr holds
    exact ⟨baseline, by rw [parsed]; dsimp only; rw [read]⟩

/-- The bytes encode a JSON text that holds a baseline, and there is room to read it. -/
def BytesHoldBaseline (bytes : Bytes) (room : Room) : Prop :=
  ∃ text value,
    Utf8.encode text = .ok bytes ∧
      Json.parse text room.levels = .ok value ∧ HoldsBaseline value

/--
Why there is no baseline in bytes: the text that they encode is refused, or no
text is encoded by them, or their text opens more containers than there is room
for.  Only the first is said with the path of the file.
-/
inductive Unusable (path : Path) (bytes : Bytes) (room : Room) : StorageError → Prop where
  | corrupt
      (text : Text)
      (fault : FileFault)
      (encoded : Utf8.encode text = .ok bytes)
      (refused : ofFileText text.unifyLineEndings room = .error fault) :
      Unusable path bytes room (.corrupt path fault)
  | undecodable
      (fault : Utf8.DecodeFault)
      (noText : ∀ text, Utf8.encode text ≠ .ok bytes) :
      Unusable path bytes room (.undecodable fault)
  | tooDeep
      (text : Text)
      (container : Json.Container)
      (encoded : Utf8.encode text = .ok bytes)
      (deep : room.levels < Json.openings text) :
      Unusable path bytes room (.tooDeep container)

/--
Bytes are read as a baseline exactly if they hold one.  Their line endings are
made equal first, which does not matter.
-/
theorem exists_ofFileBytes_iff
    {path : Path}
    {bytes : Bytes}
    {room : Room} :
    (∃ baseline, ofFileBytes path bytes room = .ok baseline) ↔
      BytesHoldBaseline bytes room := by
  unfold ofFileBytes
  constructor
  · rintro ⟨baseline, read⟩
    split at read
    · cases read
    next text decoded =>
    split at read
    · cases read
    · cases read
    next same =>
    obtain ⟨value, parsed, holds⟩ := exists_ofFileText_iff.mp ⟨_, same⟩
    rw [Json.parse_unifyLineEndings_eq_ok_iff] at parsed
    exact ⟨text, value, Utf8.decode_eq_ok_iff.mp decoded, parsed, holds⟩
  · rintro ⟨text, value, encoded, parsed, holds⟩
    rw [← Json.parse_unifyLineEndings_eq_ok_iff] at parsed
    obtain ⟨baseline, read⟩ := exists_ofFileText_iff.mpr ⟨value, parsed, holds⟩
    refine ⟨baseline, ?_⟩
    rw [Utf8.decode_eq_ok_iff.mpr encoded]
    dsimp only
    rw [read]

/-- Why bytes are not read as a baseline can be seen in them. -/
theorem unusable_of_ofFileBytes
    {path : Path}
    {bytes : Bytes}
    {room : Room}
    {error : StorageError}
    (refused : ofFileBytes path bytes room = .error error) :
    Unusable path bytes room error := by
  unfold ofFileBytes at refused
  split at refused
  · next undecoded =>
      cases refused
      refine .undecodable _ fun text encoded => ?_
      rw [Utf8.decode_eq_ok_iff.mpr encoded] at undecoded
      cases undecoded
  next text decoded =>
  have encoded := Utf8.decode_eq_ok_iff.mp decoded
  split at refused
  · next container refusedText =>
      cases refused
      refine .tooDeep text container encoded ?_
      unfold ofFileText at refusedText
      split at refusedText
      · next parsed =>
          cases refusedText
          rw [← Json.openings_unifyLineEndings]
          exact Json.lt_openings_of_parse parsed
      · split at refusedText <;> cases refusedText
  · next fault _ refusedText =>
      cases refused
      exact .corrupt text fault encoded refusedText
  · cases refused

end Tolerance.Baseline
