import Tolerance.Proofs.Json.Names
import Tolerance.Proofs.Stored

namespace Tolerance.Baseline

/-!
# What a stored baseline lists

A JSON value that holds a baseline is read file by file and rule by rule, and
the baseline lists them in the order of the value.  What is stored of it is the
same value in ascending order, without files that have no rules and without
anything else that stood beside the counts.
-/

/-! ## Reading -/

/-- Lists are related if everything in one of them is related to something. -/
private theorem exists_forall₂
    {Element Result : Type}
    {relation : Element → Result → Prop}
    {elements : List Element}
    (related : ∀ element ∈ elements, ∃ result, relation element result) :
    ∃ results, List.Forall₂ relation elements results := by
  induction elements with
  | nil =>
      exact ⟨[], .nil⟩
  | cons element elements inductionHypothesis =>
      obtain ⟨⟨result, first⟩, others⟩ := List.forall_mem_cons.mp related
      obtain ⟨results, later⟩ := inductionHypothesis others
      exact ⟨result :: results, .cons first later⟩

/-- What is the same of related elements is the same of related lists. -/
private theorem map_eq_of_forall₂
    {Element Result Feature : Type}
    {relation : Element → Result → Prop}
    {feature : Element → Feature}
    {featureToo : Result → Feature}
    (same :
      ∀ element result,
        relation element result → feature element = featureToo result)
    {elements : List Element}
    {results : List Result}
    (related : List.Forall₂ relation elements results) :
    elements.map feature = results.map featureToo := by
  induction related with
  | nil =>
      rfl
  | cons first _ inductionHypothesis =>
      rw [List.map_cons, List.map_cons, same _ _ first, inductionHypothesis]

private theorem ListsFile.sameName
    {file : Text × Json}
    {entry : Text × OrderedMap Int}
    (lists : ListsFile file entry) :
    file.1 = entry.1 := by
  cases lists
  rfl

/-- Every file that holds rules can be listed, if none of them is there twice. -/
theorem exists_listsFile
    {file : Text × Json}
    (holds : HoldsRules file.2)
    (distinct : file.2.NamesDistinct) :
    ∃ entry, ListsFile file entry := by
  obtain ⟨filename, value⟩ := file
  obtain ⟨rules, counts⟩ := holds
  have listed : ∀ rule ∈ rules, ∃ entry, ListsRule rule entry := by
    intro rule member
    obtain ⟨count, held⟩ := counts rule member
    exact ⟨(rule.1, count), rfl, held⟩
  obtain ⟨entries, related⟩ := exists_forall₂ listed
  have keysDistinct : (entries.map Prod.fst).Nodup := by
    rw [← map_eq_of_forall₂ (fun _ _ same => same.1) related]
    exact (Json.namesDistinct_object_iff.mp distinct).1
  exact ⟨(filename, ⟨entries, keysDistinct⟩), .file related⟩

/-- Every value that holds a baseline lists one, if nothing in it is there twice. -/
theorem exists_lists
    {value : Json}
    (holds : HoldsBaseline value)
    (distinct : value.NamesDistinct) :
    ∃ baseline, Lists value baseline := by
  obtain ⟨files, rules⟩ := holds
  obtain ⟨filesDistinct, inside⟩ := Json.namesDistinct_object_iff.mp distinct
  have listed : ∀ file ∈ files, ∃ entry, ListsFile file entry :=
    fun file member => exists_listsFile (rules file member) (inside file member)
  obtain ⟨entries, related⟩ := exists_forall₂ listed
  have keysDistinct : (entries.map Prod.fst).Nodup := by
    rw [← map_eq_of_forall₂ (fun _ _ lists => lists.sameName) related]
    exact filesDistinct
  exact ⟨⟨entries, keysDistinct⟩, .files related⟩

/-- The baseline that is read of a value is the one that the value lists. -/
theorem ofJson_eq_ok_iff
    {value : Json}
    (distinct : value.NamesDistinct)
    {baseline : Baseline} :
    ofJson value = .ok baseline ↔ Lists value baseline := by
  constructor
  · intro read
    obtain ⟨listed, lists⟩ :=
      exists_lists (exists_ofJson_iff.mp ⟨baseline, read⟩) distinct
    cases read.symm.trans lists.ofJson_eq_ok
    exact lists
  · exact Lists.ofJson_eq_ok

/-- The baseline that is read of a text is the one that its JSON lists. -/
theorem ofFileText_eq_ok_iff
    {text : Text}
    {room : Room}
    {value : Json}
    (parsed : Json.parse text room.levels = .ok value)
    {baseline : Baseline} :
    ofFileText text room = .ok baseline ↔ Lists value baseline := by
  rw [← ofJson_eq_ok_iff (Json.namesDistinct_of_parse parsed), ofFileText, parsed]
  dsimp only
  split
  · next refused => simp [refused]
  · next read => simp [read]

/-! ## Writing -/

/-- An object with nothing but its `count`. -/
def countAlone : Json → Json
  | .object fields => .object (fields.filter fun field => field.1 = "count")
  | other => other

/-- An object in ascending order of its names, with every value changed. -/
def sortFields (change : Json → Json) : Json → Json
  | .object fields =>
      .object
        (Sorting.sort OrderedMap.keyPrecedes
          (fields.map fun field => (field.1, change field.2)))
  | other => other

/-- Whether a value is the object without fields. -/
def isEmptyObject : Json → Bool
  | .object [] => true
  | _ => false

/-- An object without the fields that are objects without fields. -/
def dropEmpty : Json → Json
  | .object fields =>
      .object (fields.filter fun field => !isEmptyObject field.2)
  | other => other

/--
What is left of a stored baseline when it is put in order: files with rules and
rules with counts, ascending at both levels.
-/
def reduced (value : Json) : Json :=
  dropEmpty (sortFields (sortFields countAlone) value)

/-- Nothing but the count is left of an object that holds one. -/
theorem countAlone_eq
    {value : Json}
    {count : Int}
    (holds : HoldsCount value count)
    (distinct : value.NamesDistinct) :
    countAlone value = entryToJson count := by
  obtain ⟨fields, count, held, _⟩ := holds
  obtain ⟨field, found, isCount⟩ := Option.map_eq_some_iff.mp held
  have member := List.mem_of_find?_eq_some found
  have named : field.1 = "count" := by
    simpa using List.find?_some found
  have only :
      fields.filter (fun other => other.1 = ("count" : Text)) = [field] := by
    rw [←
      OrderedMap.filter_eq_singleton
        (Json.namesDistinct_object_iff.mp distinct).1 member]
    refine List.filter_congr fun other _ => ?_
    rw [Bool.eq_iff_iff, decide_eq_true_eq, beq_iff_eq, named]
  rw [countAlone, only, entryToJson, ← named, ← isCount]

/-- Fields are sorted as the entries of a map are that stand for the same. -/
theorem sortFields_eq
    {Value : Type}
    {change : Json → Json}
    {store : Value → Json}
    {fields : List (Text × Json)}
    {map : OrderedMap Value}
    (agree :
      List.Forall₂
        (fun field entry =>
          field.1 = entry.1 ∧ change field.2 = store entry.2)
        fields map.entries) :
    sortFields change (.object fields) =
      .object (map.sorted.entries.map fun entry => (entry.1, store entry.2)) := by
  have changed :
      (fields.map fun field => (field.1, change field.2)) =
        map.entries.map fun entry => (entry.1, store entry.2) :=
    map_eq_of_forall₂ (fun _ _ same => Prod.ext same.1 same.2) agree
  rw [sortFields, changed, Sorting.sort_eq_insertionSort, OrderedMap.entries_sorted]
  refine congrArg Json.object (List.map_insertionSort _ _ _ map.entries ?_).symm
  intro _ _ _ _
  exact Iff.rfl

/-- The stored form of the rules of a file. -/
def rulesToJson (rules : OrderedMap Int) : Json :=
  .object (rules.entries.map fun entry => (entry.1, entryToJson entry.2))

theorem isEmptyObject_rulesToJson (rules : OrderedMap Int) :
    isEmptyObject (rulesToJson rules) = rules.isEmpty := by
  unfold rulesToJson OrderedMap.isEmpty
  cases rules.entries <;> rfl

/-- What is left of the rules of a file is the stored form of those that are listed. -/
theorem ListsFile.sortFields_countAlone
    {file : Text × Json}
    {entry : Text × OrderedMap Int}
    (lists : ListsFile file entry)
    (distinct : file.2.NamesDistinct) :
    sortFields countAlone file.2 = rulesToJson entry.2.sorted := by
  obtain @⟨filename, rules, tolerated, listed⟩ := lists
  have inside := (Json.namesDistinct_object_iff.mp distinct).2
  refine sortFields_eq ?_
  refine
    ((List.forall₂_and_left _ _).mpr ⟨inside, listed⟩).imp
      fun rule entry facts => ?_
  obtain ⟨fieldsDistinct, sameName, holds⟩ := facts
  exact ⟨sameName, countAlone_eq holds fieldsDistinct⟩

/-- What is stored of a baseline is what is left of a value that lists it. -/
theorem Lists.toJson_eq
    {value : Json}
    {baseline : Baseline}
    (lists : Lists value baseline)
    (distinct : value.NamesDistinct) :
    baseline.toJson = reduced value := by
  obtain @⟨files, _, listed⟩ := lists
  have inside := (Json.namesDistinct_object_iff.mp distinct).2
  have agree :
      List.Forall₂
        (fun file entry =>
          file.1 = entry.1 ∧
            sortFields countAlone file.2 = rulesToJson entry.2)
        files (baseline.files.mapValues OrderedMap.sorted).entries := by
    refine List.forall₂_map_right_iff.mpr ?_
    refine
      ((List.forall₂_and_left _ _).mpr ⟨inside, listed⟩).imp
        fun file entry facts => ?_
    obtain ⟨rulesDistinct, listsFile⟩ := facts
    exact ⟨listsFile.sameName, listsFile.sortFields_countAlone rulesDistinct⟩
  calc
    baseline.toJson
        = .object
            ((baseline.sorted.files.entries.filter
                fun entry => !entry.2.isEmpty).map
              fun entry => (entry.1, rulesToJson entry.2)) := rfl
    _ = dropEmpty
          (.object
            (baseline.sorted.files.entries.map fun entry =>
              (entry.1, rulesToJson entry.2))) := by
      simp only [dropEmpty, List.filter_map, Function.comp_def,
        isEmptyObject_rulesToJson]
    _ = reduced (.object files) := by
      rw [reduced, sortFields_eq agree]
      rfl

/--
A JSON value is read as a baseline if and only if it is an object of files, each
with an object of rules that hold counts, and it is refused otherwise.  The
baseline lists what the value does, in its order and with the files that have no
rules, and what is stored of it is what is left of the value when it is put in
order.  A text that holds the value is read as what the value lists, since no
object that is read of a text names a field twice.  What is stored of any
baseline without counts below zero is read as its canonical form.
-/
theorem stored_value_is_read_as_listed (value : Json) :
    ((∃ baseline, ofJson value = .ok baseline) ↔ HoldsBaseline value) ∧
      ((∃ fault, ofJson value = .error fault) ↔ ¬HoldsBaseline value) ∧
      (value.NamesDistinct →
        ∀ baseline,
          (ofJson value = .ok baseline ↔ Lists value baseline) ∧
            (ofJson value = .ok baseline →
              baseline.toJson = reduced value)) ∧
      (∀ text room,
        Json.parse text room.levels = .ok value →
        value.NamesDistinct ∧
          ∀ baseline,
            ofFileText text room = .ok baseline ↔ Lists value baseline) ∧
      ∀ baseline : Baseline,
        baseline.Nonnegative →
        ofJson baseline.toJson = .ok baseline.sorted.pruneEmpty := by
  refine ⟨exists_ofJson_iff, ?_, ?_, ?_, fun baseline => ofJson_toJson⟩
  · rw [← exists_ofJson_iff]
    cases read : ofJson value with
    | ok baseline => simp
    | error fault => simp
  · intro distinct baseline
    refine ⟨ofJson_eq_ok_iff distinct, fun read => ?_⟩
    exact ((ofJson_eq_ok_iff distinct).mp read).toJson_eq distinct
  · intro text room parsed
    exact
      ⟨Json.namesDistinct_of_parse parsed, fun _ => ofFileText_eq_ok_iff parsed⟩

/--
Of a value with a file without rules, rules out of order and a note beside a
count, only the rules and their counts are stored again.
-/
theorem note_beside_count_is_left_out :
    let value : Json := .object [
      ("b.ts",
        .object [
          ("no-var",
            .object [("note", .string "later"), ("count", .integer 2)]),
          ("eqeqeq", .object [("count", .integer 0)])]),
      ("a.ts", .object [])]
    let baseline : Baseline := {
      files := {
        entries := [
          ("b.ts",
            {
              entries := [("no-var", 2), ("eqeqeq", 0)]
              keysDistinct := by decide
            }),
          ("a.ts", OrderedMap.empty)]
        keysDistinct := by decide
      }
    }
    value.NamesDistinct ∧
      ofJson value = .ok baseline ∧
      Lists value baseline ∧
      baseline.toJson =
        .object [
          ("b.ts",
            .object [
              ("eqeqeq", .object [("count", .integer 0)]),
              ("no-var", .object [("count", .integer 2)])])] ∧
      ofJson baseline.toJson = .ok baseline.sorted.pruneEmpty := by
  intro value baseline
  have namesDiffer :
      ("b.ts" : Text) ≠ "a.ts" ∧
        ("no-var" : Text) ≠ "eqeqeq" ∧ ("note" : Text) ≠ "count" := by
    decide
  have distinct : value.NamesDistinct := by
    simpa [value, Json.namesDistinct_object_iff, Json.NamesDistinct.string,
      Json.NamesDistinct.integer] using namesDiffer
  have read : ofJson value = .ok baseline := by decide
  have nonnegative : baseline.Nonnegative := by decide
  obtain ⟨_, _, ofDistinct, _, readBack⟩ := stored_value_is_read_as_listed value
  obtain ⟨readIff, storedAgain⟩ := ofDistinct distinct baseline
  exact
    ⟨distinct, read, readIff.mp read, storedAgain read,
      readBack baseline nonnegative⟩

end Tolerance.Baseline
