import Tolerance.Linter.Output
import Tolerance.Proofs.Json.LineEndings
import Tolerance.Proofs.Json.Room

namespace Tolerance.Linter

/-!
# Which decoded outputs are read

An output is read if it is an object in one of the two shapes and all its
records are objects.  One diagnostic is read for each record, in the order in
which the records stand.
-/

/-- A record is a JSON object. -/
abbrev Record := List (Text × Json)

/-- An array of objects only. -/
def HoldsRecords (value : Json) : Prop :=
  ∃ records : List Record, value = .array (records.map .object)

/-- Linter output in one of its two shapes. -/
inductive ReportsFindings : Json → Prop where
  | current
      (fields : List (Text × Json))
      (listed : Json)
      (held : Json.field? "diagnostics" fields = some listed)
      (records : HoldsRecords listed) :
      ReportsFindings (.object fields)
  | former
      (files : List (Text × Json))
      (notHeld : Json.field? "diagnostics" files = none)
      (records : ∀ file ∈ files, HoldsRecords file.2) :
      ReportsFindings (.object files)

/-- One diagnostic is read for each record, and all records are objects. -/
theorem readRecords_eq_ok_iff
    {diagnosticOfRecord : Record → Diagnostic}
    {values : List Json}
    {diagnostics : List Diagnostic} :
    readRecords diagnosticOfRecord values = .ok diagnostics ↔
      ∃ records : List Record,
        values = records.map .object ∧
          diagnostics = records.map diagnosticOfRecord := by
  induction values generalizing diagnostics with
  | nil =>
      constructor
      · intro read
        cases read
        exact ⟨[], rfl, rfl⟩
      · intro shape
        obtain ⟨records, noValues, same⟩ := shape
        obtain rfl := List.map_eq_nil_iff.mp noValues.symm
        simp [readRecords, same]
  | cons value values inductionHypothesis =>
      constructor
      · intro read
        cases value with
        | object record =>
            obtain ⟨others, readOthers, same⟩ := Outcome.bind_eq_ok_iff.mp read
            obtain ⟨records, rfl, rfl⟩ := inductionHypothesis.mp readOthers
            cases same
            exact ⟨record :: records, rfl, rfl⟩
        | _ =>
            cases read
      · intro shape
        obtain ⟨records, sameValues, same⟩ := shape
        cases records with
        | nil =>
            cases sameValues
        | cons record records =>
            cases sameValues
            subst same
            exact
              Outcome.bind_eq_ok_iff.mpr
                ⟨_, inductionHypothesis.mpr ⟨records, rfl, rfl⟩, rfl⟩

/-- The value that lists the records of a file. -/
def listRecords (file : Text × List Record) : Text × Json :=
  (file.1, .array (file.2.map .object))

/-- One diagnostic is read for each record of each file. -/
theorem readFiles_eq_ok_iff
    {values : List (Text × Json)}
    {diagnostics : List Diagnostic} :
    readFiles values = .ok diagnostics ↔
      ∃ files : List (Text × List Record),
        values = files.map listRecords ∧
          diagnostics =
            files.flatMap fun file => file.2.map (formerDiagnostic file.1) := by
  induction values generalizing diagnostics with
  | nil =>
      constructor
      · intro read
        cases read
        exact ⟨[], rfl, rfl⟩
      · intro shape
        obtain ⟨files, noValues, same⟩ := shape
        obtain rfl := List.map_eq_nil_iff.mp noValues.symm
        simp [readFiles, same]
  | cons value values inductionHypothesis =>
      obtain ⟨filename, listed⟩ := value
      constructor
      · intro read
        cases listed with
        | array items =>
            obtain ⟨first, readFirst, later⟩ := Outcome.bind_eq_ok_iff.mp read
            obtain ⟨others, readOthers, same⟩ := Outcome.bind_eq_ok_iff.mp later
            obtain ⟨records, rfl, rfl⟩ := readRecords_eq_ok_iff.mp readFirst
            obtain ⟨files, rfl, rfl⟩ := inductionHypothesis.mp readOthers
            cases same
            exact ⟨(filename, records) :: files, rfl, rfl⟩
        | _ =>
            cases read
      · intro shape
        obtain ⟨files, sameValues, same⟩ := shape
        cases files with
        | nil =>
            cases sameValues
        | cons file files =>
            cases sameValues
            subst same
            exact
              Outcome.bind_eq_ok_iff.mpr
                ⟨_, readRecords_eq_ok_iff.mpr ⟨file.2, rfl, rfl⟩,
                  Outcome.bind_eq_ok_iff.mpr
                    ⟨_, inductionHypothesis.mpr ⟨files, rfl, rfl⟩, rfl⟩⟩

/-- Files can be listed with their records if each holds an array of objects. -/
theorem exists_map_listRecords_iff
    {values : List (Text × Json)} :
    (∃ files : List (Text × List Record), values = files.map listRecords) ↔
      ∀ value ∈ values, HoldsRecords value.2 := by
  induction values with
  | nil =>
      constructor
      · intro _ value member
        cases member
      · intro _
        exact ⟨[], rfl⟩
  | cons value values inductionHypothesis =>
      rw [List.forall_mem_cons, ← inductionHypothesis]
      constructor
      · intro shape
        obtain ⟨files, same⟩ := shape
        cases files with
        | nil =>
            cases same
        | cons file files =>
            cases same
            exact ⟨⟨file.2, rfl⟩, files, rfl⟩
      · intro shapes
        obtain ⟨⟨records, sameRecords⟩, files, rfl⟩ := shapes
        refine ⟨(value.1, records) :: files, ?_⟩
        rw [List.map_cons, listRecords, ← sameRecords]

/-- What is read of the current shape. -/
theorem readDecoded_current
    {fields : List (Text × Json)}
    {records : List Record}
    (held :
      Json.field? "diagnostics" fields = some (.array (records.map .object))) :
    readDecoded (.object fields) =
      .ok (.current, records.map currentDiagnostic) := by
  have read :
      readRecords currentDiagnostic (records.map .object) =
        .ok (records.map currentDiagnostic) :=
    readRecords_eq_ok_iff.mpr ⟨records, rfl, rfl⟩
  simp only [readDecoded, recognize, held, Findings.diagnostics,
    Findings.shape, bind, Except.bind, read]
  rfl

/-- What is read of the former shape. -/
theorem readDecoded_former
    {files : List (Text × List Record)}
    (notHeld : Json.field? "diagnostics" (files.map listRecords) = none) :
    readDecoded (.object (files.map listRecords)) =
      .ok
        (.former,
          files.flatMap fun file => file.2.map (formerDiagnostic file.1)) := by
  have read := readFiles_eq_ok_iff.mpr ⟨files, rfl, rfl⟩
  simp only [readDecoded, recognize, notHeld, Findings.diagnostics,
    Findings.shape, bind, Except.bind, read]
  rfl

/-- A decoded output is read exactly if it is in one of the two shapes. -/
theorem exists_readDecoded_iff
    {value : Json} :
    (∃ read, readDecoded value = .ok read) ↔ ReportsFindings value := by
  constructor
  · intro accepted
    obtain ⟨_, accepted⟩ := accepted
    obtain ⟨findings, recognized, later⟩ := Outcome.bind_eq_ok_iff.mp accepted
    obtain ⟨diagnostics, read, _⟩ := Outcome.bind_eq_ok_iff.mp later
    unfold recognize at recognized
    split at recognized
    · next fields =>
        split at recognized
        · next records held =>
            cases recognized
            obtain ⟨objects, rfl, _⟩ := readRecords_eq_ok_iff.mp read
            exact .current fields _ held ⟨objects, rfl⟩
        · cases recognized
        · next notHeld =>
            cases recognized
            obtain ⟨files, same, _⟩ := readFiles_eq_ok_iff.mp read
            exact
              .former fields notHeld
                (exists_map_listRecords_iff.mp ⟨files, same⟩)
    · cases recognized
  · intro shape
    cases shape with
    | current fields listed held records =>
        obtain ⟨objects, rfl⟩ := records
        exact ⟨_, readDecoded_current held⟩
    | former values notHeld records =>
        obtain ⟨files, rfl⟩ := exists_map_listRecords_iff.mpr records
        exact ⟨_, readDecoded_former notHeld⟩

/-- Output is read exactly if it is blank or is JSON that reports findings. -/
theorem exists_readOutput_iff
    {stdout stderr : Text}
    {room : Nat} :
    (∃ output, readOutput stdout stderr room = .ok output) ↔
      stdout.isBlank = true ∨
        ∃ value, Json.parse stdout room = .ok value ∧ ReportsFindings value := by
  unfold readOutput
  split
  · next blank =>
      exact ⟨fun _ => Or.inl blank, fun _ => ⟨_, rfl⟩⟩
  next notBlank =>
  rw [or_iff_right notBlank]
  constructor
  · intro accepted
    obtain ⟨output, accepted⟩ := accepted
    split at accepted
    · cases accepted
    · cases accepted
    · cases accepted
    next value parsed =>
    split at accepted
    · next read =>
        exact ⟨value, parsed, exists_readDecoded_iff.mp ⟨_, read⟩⟩
    · cases accepted
  · intro reported
    obtain ⟨value, parsed, reports⟩ := reported
    obtain ⟨read, accepted⟩ := exists_readDecoded_iff.mpr reports
    simp only [parsed, accepted]
    exact ⟨_, rfl⟩

/--
Why output is not read: it is rejected, or there is a numeral in it that is too
long, or it opens more containers than there is room for.  Only the first repeats
what the linter printed.
-/
inductive Unreadable (stdout stderr : Text) (room : Nat) : OutputError → Prop where
  | rejected (fault : OutputFault) :
      Unreadable stdout stderr room (.rejected fault stdout stderr)
  | numeral (digits : Text) (long : Json.LongNumeral stdout digits) :
      Unreadable stdout stderr room (.numeral (.unreadable digits.length))
  | tooDeep (container : Json.Container) (deep : room < Json.openings stdout) :
      Unreadable stdout stderr room (.tooDeep container)

/-- Why output is not read can be seen in it. -/
theorem unreadable_of_readOutput
    {stdout stderr : Text}
    {room : Nat}
    {error : OutputError}
    (refused : readOutput stdout stderr room = .error error) :
    Unreadable stdout stderr room error := by
  unfold readOutput at refused
  split at refused
  · cases refused
  split at refused
  · next parsed =>
      cases refused
      obtain ⟨digits, long, rfl⟩ := Json.longNumeral_of_parse parsed
      exact .numeral digits long
  · next parsed =>
      cases refused
      exact .tooDeep _ (Json.lt_openings_of_parse parsed)
  · cases refused
    exact .rejected _
  · split at refused
    · cases refused
    · cases refused
      exact .rejected _

/-- Two failures of one kind; rejected outputs may differ, and so may what is wrong with them. -/
inductive OutputError.SameKind : OutputError → OutputError → Prop where
  | rejected
      (fault : OutputFault)
      (stdout stderr : Text)
      (other : OutputFault)
      (otherStdout otherStderr : Text) :
      SameKind (.rejected fault stdout stderr)
        (.rejected other otherStdout otherStderr)
  | same (error : OutputError) : SameKind error error

/--
Output is read alike whichever way its lines end and whatever stands on standard
error.
-/
theorem agree_readOutput
    (stdout stderr otherStderr : Text)
    (room : Nat) :
    Outcome.Agree OutputError.SameKind (readOutput stdout stderr room)
      (readOutput stdout.unifyLineEndings otherStderr room) := by
  unfold readOutput
  rw [Text.isBlank_unifyLineEndings]
  split
  · exact .value _
  have agree := Json.agree_parse room stdout
  generalize Json.parse stdout room = parsed at agree ⊢
  generalize Json.parse stdout.unifyLineEndings room = unified at agree ⊢
  cases agree with
  | value held =>
      dsimp only
      cases readDecoded held with
      | error fault => exact .failure _ _ (.rejected _ _ _ _ _ _)
      | ok read => exact .value _
  | failure error other sameKind =>
      cases sameKind with
      | malformed fault place other otherPlace =>
          exact .failure _ _ (.rejected _ _ _ _ _ _)
      | same error =>
          cases error with
          | malformed fault place => exact .failure _ _ (.rejected _ _ _ _ _ _)
          | numeral fault => exact .failure _ _ (.same _)
          | tooDeep container => exact .failure _ _ (.same _)

/-- With more room output is read in the same way, unless it is too deep for less. -/
theorem readOutput_of_le
    {room other : Nat}
    (less : room ≤ other)
    (stdout stderr : Text) :
    (∃ container, readOutput stdout stderr room = .error (.tooDeep container)) ∨
      readOutput stdout stderr other = readOutput stdout stderr room := by
  unfold readOutput
  split
  · exact Or.inr rfl
  · rcases Json.parse_of_le less stdout with ⟨container, deep⟩ | same
    · rw [deep]
      exact Or.inl ⟨container, rfl⟩
    · rw [same]
      exact Or.inr rfl

/-- A row of brackets is rejected if there is room for it, and it is too deep otherwise. -/
theorem readOutput_brackets
    (count : Nat)
    (stderr : Text)
    (room : Nat) :
    (count < room →
      ∃ fault,
        readOutput (Json.brackets (count + 1)) stderr room =
          .error (.rejected fault (Json.brackets (count + 1)) stderr)) ∧
      (room ≤ count →
        readOutput (Json.brackets (count + 1)) stderr room =
          .error (.tooDeep .array)) := by
  have notBlank : ¬(Json.brackets (count + 1)).isBlank = true := by
    rw [Json.brackets_succ, Text.isBlank, List.all_cons,
      show CodePoint.isBlank 0x5b = false from rfl, Bool.false_and]
    exact Bool.false_ne_true
  unfold readOutput
  rw [if_neg notBlank]
  constructor
  · intro fits
    rw [Json.parse_brackets_of_le fits]
    exact ⟨_, rfl⟩
  · intro tooMany
    rw [Json.parse_brackets_of_lt (Nat.lt_succ_of_le tooMany)]

end Tolerance.Linter
