import Mathlib.Data.List.Perm.Subperm
import Tolerance.Proofs.Storage

namespace Tolerance

/-!
# Sorting gives a normal form

Two maps are equal, whatever the order in which they list their keys, exactly
if they are the same map once they are sorted.  So it is with ledgers at both
levels, and what is stored of two baselines is the same exactly if they are
equal but for files without rules.
-/

/-- Related optional values are those with the same feature. -/
private theorem option_rel_iff_map_eq
    {Element Feature : Type}
    {relation : Element → Element → Prop}
    {feature : Element → Feature}
    (decides :
      ∀ left right, relation left right ↔ feature left = feature right)
    {left right : Option Element} :
    Option.Rel relation left right ↔ left.map feature = right.map feature := by
  cases left with
  | none =>
      cases right with
      | none => simp
      | some second => simp
  | some first =>
      cases right with
      | none => simp
      | some second => simpa using decides first second

namespace OrderedMap

variable {Value : Type}

/--
Two maps have the same content exactly if the values of each key agree, where it
has one at all.
-/
theorem sameContent_iff
    {agree : Value → Value → Bool}
    {left right : OrderedMap Value} :
    left.sameContent agree right = true ↔
      ∀ key,
        Option.Rel (fun first second => agree first second = true)
          (left.get? key) (right.get? key) := by
  simp only [sameContent, Bool.and_eq_true, beq_iff_eq, List.all_eq_true]
  constructor
  · rintro ⟨sameSize, agrees⟩ key
    have kept
        {query : Text}
        {value : Value}
        (found : left.get? query = some value) :
        ∃ other,
          right.get? query = some other ∧ agree value other = true := by
      have agreed := agrees _ (get?_eq_some_iff.mp found)
      dsimp only at agreed
      cases foundToo : right.get? query with
      | none => simp [foundToo] at agreed
      | some other => exact ⟨other, rfl, by simpa [foundToo] using agreed⟩
    cases found : left.get? key with
    | some value =>
        obtain ⟨other, foundToo, agreed⟩ := kept found
        rw [foundToo]
        exact .some agreed
    | none =>
        -- The right map has no more keys than the left one, so it has no others.
        have keysKept : left.keys ⊆ right.keys := by
          intro query listed
          obtain ⟨value, foundQuery⟩ :=
            Option.isSome_iff_exists.mp (mem_keys_iff.mp listed)
          obtain ⟨other, foundToo, _⟩ := kept foundQuery
          exact mem_keys_iff.mpr (by simp [foundToo])
        have sameKeys : left.keys.Perm right.keys := by
          refine (left.keysDistinct.subperm
            keysKept).perm_of_length_le ?_
          simpa [keys, size] using sameSize.ge
        have notListed : key ∉ right.keys := fun listed =>
          get?_eq_none_iff.mp found (sameKeys.mem_iff.mpr listed)
        rw [get?_eq_none_iff.mpr notListed]
        exact .none
  · intro related
    have sameKeys : left.keys.Perm right.keys := by
      refine (List.perm_ext_iff_of_nodup
        left.keysDistinct right.keysDistinct).mpr fun key => ?_
      refine mem_keys_iff.trans (Iff.trans ?_ mem_keys_iff.symm)
      have relatedHere := related key
      generalize left.get? key = first at relatedHere ⊢
      generalize right.get? key = second at relatedHere ⊢
      cases relatedHere with
      | some => simp
      | none => simp
    refine ⟨by simpa [keys, size] using sameKeys.length_eq, ?_⟩
    intro entry listed
    have relatedHere := related entry.1
    rw [get?_eq_some_iff.mpr listed] at relatedHere
    split
    · next other found =>
        rw [found] at relatedHere
        cases relatedHere with
        | some agreed => exact agreed
    · next notFound =>
        rw [notFound] at relatedHere
        cases relatedHere

/-- Maps are the same once they are sorted exactly if each key has the same value in both. -/
theorem sorted_eq_sorted_iff
    {left right : OrderedMap Value} :
    left.sorted = right.sorted ↔ ∀ key, left.get? key = right.get? key := by
  constructor
  · intro same key
    rw [← left.get?_sorted, same, right.get?_sorted]
  · intro same
    refine eq_of_ascending left.ascending_sorted right.ascending_sorted ?_
    simpa using same

/-- Maps with the same content are the same once they are sorted, and no others are. -/
theorem sameContent_iff_sorted_eq
    [BEq Value]
    [LawfulBEq Value]
    {left right : OrderedMap Value} :
    left.sameContent (· == ·) right = true ↔ left.sorted = right.sorted := by
  rw [sameContent_iff, sorted_eq_sorted_iff]
  refine forall_congr' fun key => ?_
  have sameValue (first second : Value) :
      (first == second) = true ↔ id first = id second :=
    beq_iff_eq
  rw [option_rel_iff_map_eq sameValue, Option.map_id]
  rfl

/-- Sorting lists the same keys. -/
theorem keys_sorted_perm (map : OrderedMap Value) :
    map.sorted.keys.Perm map.keys :=
  (Sorting.sort_perm keyPrecedes map.entries).map Prod.fst

end OrderedMap

namespace Ledger

variable {Value : Type}

/-- Ledgers are the same once they are sorted exactly if each file has the same sorted rules. -/
theorem sorted_eq_sorted_iff
    {left right : Ledger Value} :
    left.sorted = right.sorted ↔
      ∀ filename,
        (left.files.get? filename).map OrderedMap.sorted =
          (right.files.get? filename).map OrderedMap.sorted := by
  have sameFiles :
      left.sorted = right.sorted ↔
        (left.files.mapValues OrderedMap.sorted).sorted =
          (right.files.mapValues OrderedMap.sorted).sorted :=
    ⟨congrArg files, congrArg mk⟩
  rw [sameFiles, OrderedMap.sorted_eq_sorted_iff]
  simp only [OrderedMap.get?_mapValues]

/-- Ledgers with the same content are the same once they are sorted, and no others are. -/
theorem sameContent_iff_sorted_eq
    [BEq Value]
    [LawfulBEq Value]
    {left right : Ledger Value} :
    left.sameContent (· == ·) right = true ↔ left.sorted = right.sorted := by
  rw [sameContent, OrderedMap.sameContent_iff, sorted_eq_sorted_iff]
  exact
    forall_congr' fun _ =>
      option_rel_iff_map_eq fun _ _ => OrderedMap.sameContent_iff_sorted_eq

/-- An ascending ledger is its own sorted form. -/
theorem Ascending.sorted_eq
    {ledger : Ledger Value}
    (ascending : ledger.Ascending) :
    ledger.sorted = ledger := by
  have sameFiles : ledger.sorted.files = ledger.files := by
    refine OrderedMap.eq_of_ascending ledger.ascending_sorted.files
      ascending.files fun filename => ?_
    rw [files_get?_sorted]
    cases listed : ledger.files.get? filename with
    | none => rfl
    | some rules =>
        exact congrArg some (ascending.rules listed).sorted_eq
  exact congrArg Ledger.mk sameFiles

/-- It makes no difference whether files without rules are dropped before sorting or after it. -/
theorem sorted_pruneEmpty (ledger : Ledger Value) :
    ledger.pruneEmpty.sorted = ledger.sorted.pruneEmpty :=
  eq_of_canonical (ledger.pruned_pruneEmpty.canonical_sorted)
    ledger.canonical_sorted_pruneEmpty (by simp)

end Ledger

namespace Baseline

variable {left right : Baseline}

/-- Baselines have one stored form exactly if they have one canonical form. -/
theorem toJson_eq_toJson_iff :
    left.toJson = right.toJson ↔
      left.sorted.pruneEmpty = right.sorted.pruneEmpty := by
  constructor
  · intro same
    have entryInjective :
        Function.Injective fun entry : Text × Int =>
          (entry.1, entryToJson entry.2) := by
      rintro ⟨rule, count⟩ ⟨otherRule, otherCount⟩ sameEntry
      simpa [entryToJson] using sameEntry
    have fileInjective :
        Function.Injective fun file : Text × OrderedMap Int =>
          (file.1,
            Json.object (file.2.entries.map fun entry =>
              (entry.1, entryToJson entry.2))) := by
      rintro ⟨filename, rules⟩ ⟨otherFilename, otherRules⟩ sameFile
      obtain ⟨sameName, sameRules⟩ := Prod.mk.inj sameFile
      refine Prod.ext sameName (OrderedMap.eq_of_entries ?_)
      exact entryInjective.list_map (Json.object.inj sameRules)
    have sameEntries := fileInjective.list_map (Json.object.inj same)
    exact congrArg Ledger.mk (OrderedMap.eq_of_entries sameEntries)
  · intro same
    rw [toJson, toJson, same]

/-- Baseline files hold the same bytes exactly if the baselines have one canonical form. -/
theorem fileBytes_eq_iff
    (leftApart : left.SurrogatesApart)
    (rightApart : right.SurrogatesApart)
    {leftText rightText : Text}
    (wroteLeft : left.fileText = .ok leftText)
    (wroteRight : right.fileText = .ok rightText) :
    leftText.flatMap Utf8.encodePoint = rightText.flatMap Utf8.encodePoint ↔
      left.sorted.pruneEmpty = right.sorted.pruneEmpty := by
  obtain ⟨leftPlain, leftParsed⟩ := parse_fileText leftApart wroteLeft .usual
  obtain ⟨rightPlain, rightParsed⟩ := parse_fileText rightApart wroteRight .usual
  rw [← toJson_eq_toJson_iff]
  constructor
  · intro sameBytes
    have sameText : leftText = rightText := by
      have decoded := leftPlain.decode_encode
      rw [sameBytes, rightPlain.decode_encode] at decoded
      exact (Except.ok.inj decoded).symm
    rw [sameText, rightParsed] at leftParsed
    exact (Except.ok.inj leftParsed).symm
  · intro sameJson
    have sameText : leftText = rightText := by
      rw [fileText, sameJson] at wroteLeft
      exact Except.ok.inj (wroteLeft.symm.trans wroteRight)
    rw [sameText]

/-- After a baseline was saved its file holds its text. -/
theorem readFile_of_run_save
    {path : Path}
    {before after : Workspace}
    {text : Text}
    (wrote : left.fileText = .ok text)
    (saved : (save path left).run before = .ok () after) :
    after.readFile path = .ok (text.flatMap Utf8.encodePoint) := by
  obtain ⟨written, wroteToo, replaced⟩ :=
    exists_replaced_of_run_saveDespite saved
  cases wrote.symm.trans wroteToo
  exact replaced.readFile_eq

/--
Two baselines are equal, whatever the order in which they list their files and
rules, if and only if they are the same once they are sorted.  The sorted form
of a baseline is equal to it and is its own sorted form; it lists the same
files, those without rules among them, in strictly ascending order, and so the
rules of each file.  If no name joins surrogates and no count has too many
digits to be written, both baselines can be written, and their files hold the
same bytes if and only if the baselines are equal once the files without rules
are dropped.
-/
theorem sorted_is_normal_form (left right : Baseline) :
    (left.sameContent (· == ·) right = true ↔ left.sorted = right.sorted) ∧
      (left.sorted.sameContent (· == ·) left = true ∧
        left.sorted.sorted = left.sorted ∧
        left.sorted.filenames.Pairwise (· < ·) ∧
        (∀ filename, (left.sorted.rules filename).keys.Pairwise (· < ·)) ∧
        left.sorted.filenames.Perm left.filenames) ∧
      (left.SurrogatesApart →
        right.SurrogatesApart →
        left.Writable →
        right.Writable →
        ∃ leftText rightText,
          left.fileText = .ok leftText ∧
            right.fileText = .ok rightText ∧
            (∀ path before after,
              (save path left).run before = .ok () after →
              after.readFile path = .ok (leftText.flatMap Utf8.encodePoint)) ∧
            (∀ path before after,
              (save path right).run before = .ok () after →
              after.readFile path = .ok (rightText.flatMap Utf8.encodePoint)) ∧
            (leftText.flatMap Utf8.encodePoint =
                rightText.flatMap Utf8.encodePoint ↔
              left.pruneEmpty.sameContent (· == ·) right.pruneEmpty = true)) := by
  have ascending := left.ascending_sorted
  have keptSorted := ascending.sorted_eq
  refine
    ⟨Ledger.sameContent_iff_sorted_eq,
      ⟨Ledger.sameContent_iff_sorted_eq.mpr keptSorted, keptSorted,
        ascending.files, ?_, ?_⟩, ?_⟩
  · intro filename
    rw [Ledger.rules]
    cases listed : left.sorted.files.get? filename with
    | none => exact List.Pairwise.nil
    | some rules => exact ascending.rules listed
  · have reordered :=
      (left.files.mapValues OrderedMap.sorted).keys_sorted_perm
    simpa [Ledger.filenames, Ledger.sorted, OrderedMap.mapValues,
      OrderedMap.keys, Function.comp_def] using reordered
  · intro leftApart rightApart leftWritable rightWritable
    obtain ⟨leftText, wroteLeft⟩ := exists_fileText_iff.mpr leftWritable
    obtain ⟨rightText, wroteRight⟩ := exists_fileText_iff.mpr rightWritable
    refine
      ⟨leftText, rightText, wroteLeft, wroteRight,
        fun _ _ _ => readFile_of_run_save wroteLeft,
        fun _ _ _ => readFile_of_run_save wroteRight, ?_⟩
    rw [fileBytes_eq_iff leftApart rightApart wroteLeft wroteRight,
      Ledger.sameContent_iff_sorted_eq, Ledger.sorted_pruneEmpty,
      Ledger.sorted_pruneEmpty]

/--
A file without rules tells two baselines apart that list the same rules in
another order, but the files in which they are kept hold the same bytes.
-/
theorem file_without_rules_is_not_stored :
    let left : Baseline :=
      ((Ledger.empty.set "b.ts" "no-var" 2).set "b.ts" "eqeqeq" 0).replaceFile
        "a.ts" OrderedMap.empty
    let right : Baseline :=
      (Ledger.empty.set "b.ts" "eqeqeq" 0).set "b.ts" "no-var" 2
    let before := Workspace.fresh "/w" ["t"]
    left.SurrogatesApart ∧
      right.SurrogatesApart ∧
      left.Writable ∧
      right.Writable ∧
      left.sorted ≠ right.sorted ∧
      left.pruneEmpty.sameContent (· == ·) right.pruneEmpty = true ∧
      ∃ bytes after afterToo,
        (save "b.json" left).run before = .ok () after ∧
          (save "b.json" right).run before = .ok () afterToo ∧
          after.readFile "b.json" = .ok bytes ∧
          afterToo.readFile "b.json" = .ok bytes := by
  intro left right before
  have leftApart : left.SurrogatesApart := by decide
  have rightApart : right.SurrogatesApart := by decide
  have leftWritable : left.Writable := by decide +kernel
  have rightWritable : right.Writable := by decide +kernel
  have different : left.sameContent (· == ·) right = false := by decide
  have equalBesides :
      left.pruneEmpty.sameContent (· == ·) right.pruneEmpty = true := by
    decide
  have saves (baseline : Baseline) (same : baseline = left ∨ baseline = right) :
      Outcome.isOk ((save "b.json" baseline).run before) = true := by
    rcases same with rfl | rfl <;> decide +kernel
  obtain ⟨_, after, savedLeft⟩ :=
    Outcome.exists_eq_ok_of_isOk (saves left (Or.inl rfl))
  obtain ⟨_, afterToo, savedRight⟩ :=
    Outcome.exists_eq_ok_of_isOk (saves right (Or.inr rfl))
  obtain ⟨sameIff, _, stored⟩ := sorted_is_normal_form left right
  obtain ⟨leftText, rightText, _, _, leftKept, rightKept, bytesIff⟩ :=
    stored leftApart rightApart leftWritable rightWritable
  have notSame : left.sorted ≠ right.sorted := fun same => by
    rw [sameIff.mpr same] at different
    cases different
  refine
    ⟨leftApart, rightApart, leftWritable, rightWritable, notSame,
      equalBesides, rightText.flatMap Utf8.encodePoint, after, afterToo,
      savedLeft, savedRight, ?_, rightKept _ _ _ savedRight⟩
  rw [leftKept _ _ _ savedLeft, bytesIff.mpr equalBesides]

end Baseline

end Tolerance
