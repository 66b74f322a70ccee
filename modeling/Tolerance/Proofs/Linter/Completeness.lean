import Tolerance.Proofs.Linter.Records

namespace Tolerance.Linter

/-!
# One diagnostic for each record

Output in one of the two shapes gives one diagnostic for each record that it
carries, in the order in which the records stand.  A single record that is no
object rejects all of it, so that no violation is lost in silence.
-/

/-- A record that stands in a decoded output, whatever kind of value it is. -/
inductive Carries : Json → Json → Prop where
  | current
      {fields : List (Text × Json)}
      {items : List Json}
      {record : Json}
      (held : Json.field? "diagnostics" fields = some (.array items))
      (member : record ∈ items) :
      Carries (.object fields) record
  | former
      {files : List (Text × Json)}
      {filename : Text}
      {items : List Json}
      {record : Json}
      (notHeld : Json.field? "diagnostics" files = none)
      (listed : (filename, .array items) ∈ files)
      (member : record ∈ items) :
      Carries (.object files) record

/-- The diagnostics of a decoded output: one for each record, in the order of the records. -/
inductive Yields : Json → Output → Prop where
  | current
      {fields : List (Text × Json)}
      {records : List Record}
      {diagnostics : List Diagnostic}
      (held :
        Json.field? "diagnostics" fields = some (.array (records.map .object)))
      (described : List.Forall₂ DescribesCurrent records diagnostics) :
      Yields (.object fields)
        { shape := some .current, diagnostics := diagnostics }
  | former
      {files : List (Text × List Record)}
      {blocks : List (List Diagnostic)}
      (notHeld : Json.field? "diagnostics" (files.map listRecords) = none)
      (described :
        List.Forall₂
          (fun file => List.Forall₂ (DescribesFormer file.1) file.2)
          files blocks) :
      Yields (.object (files.map listRecords))
        { shape := some .former, diagnostics := blocks.flatten }

/-- Where a relation is that of a function, lists are related by its image. -/
private theorem forall₂_iff_map_eq
    {Element Result : Type}
    {relation : Element → Result → Prop}
    (function : Element → Result)
    (follows : ∀ element result, relation element result ↔ function element = result)
    {elements : List Element}
    {results : List Result} :
    List.Forall₂ relation elements results ↔ elements.map function = results := by
  have isGraph : relation = fun element result => function element = result := by
    funext element result
    exact propext (follows element result)
  rw [isGraph, ← List.forall₂_map_left_iff, List.forall₂_eq_eq_eq]

private theorem forall₂_describesCurrent_iff
    {records : List Record}
    {diagnostics : List Diagnostic} :
    List.Forall₂ DescribesCurrent records diagnostics ↔
      records.map currentDiagnostic = diagnostics :=
  forall₂_iff_map_eq currentDiagnostic fun _ _ => describesCurrent_iff

private theorem forall₂_describesFormer_iff
    {files : List (Text × List Record)}
    {blocks : List (List Diagnostic)} :
    List.Forall₂ (fun file => List.Forall₂ (DescribesFormer file.1) file.2)
        files blocks ↔
      files.map (fun file => file.2.map (formerDiagnostic file.1)) = blocks :=
  forall₂_iff_map_eq
    (fun file : Text × List Record => file.2.map (formerDiagnostic file.1))
    fun file _ =>
      forall₂_iff_map_eq (formerDiagnostic file.1) fun _ _ => describesFormer_iff

/-- What is read of a decoded output are the diagnostics of its records. -/
theorem yields_of_readDecoded
    {value : Json}
    {shape : Shape}
    {diagnostics : List Diagnostic}
    (read : readDecoded value = .ok (shape, diagnostics)) :
    Yields value { shape := some shape, diagnostics := diagnostics } := by
  cases exists_readDecoded_iff.mp ⟨_, read⟩ with
  | current fields listed held records =>
      obtain ⟨objects, rfl⟩ := records
      rw [readDecoded_current held] at read
      cases read
      exact .current held (forall₂_describesCurrent_iff.mpr rfl)
  | former values notHeld records =>
      obtain ⟨files, rfl⟩ := exists_map_listRecords_iff.mpr records
      rw [readDecoded_former notHeld, List.flatMap_def] at read
      cases read
      exact .former notHeld (forall₂_describesFormer_iff.mpr rfl)

/-- The diagnostics of its records are read of a decoded output. -/
theorem Yields.readDecoded_eq
    {value : Json}
    {output : Output}
    (yields : Yields value output) :
    ∃ shape,
      output.shape = some shape ∧
        readDecoded value = .ok (shape, output.diagnostics) := by
  cases yields with
  | current held described =>
      refine ⟨.current, rfl, ?_⟩
      rw [readDecoded_current held, forall₂_describesCurrent_iff.mp described]
  | former notHeld described =>
      refine ⟨.former, rfl, ?_⟩
      rw [readDecoded_former notHeld, List.flatMap_def,
        forall₂_describesFormer_iff.mp described]

/-- Every record of an output that reports findings is an object. -/
theorem ReportsFindings.exists_eq_object
    {value record : Json}
    (reports : ReportsFindings value)
    (carries : Carries value record) :
    ∃ fields, record = .object fields := by
  cases reports with
  | current fields listed held records =>
      obtain ⟨objects, rfl⟩ := records
      cases carries with
      | current heldToo member =>
          cases held.symm.trans heldToo
          obtain ⟨fields, _, rfl⟩ := List.mem_map.mp member
          exact ⟨fields, rfl⟩
      | former notHeld => cases held.symm.trans notHeld
  | former files notHeld records =>
      cases carries with
      | current held => cases notHeld.symm.trans held
      | former _ listed member =>
          obtain ⟨objects, same⟩ := records _ listed
          cases same
          obtain ⟨fields, _, rfl⟩ := List.mem_map.mp member
          exact ⟨fields, rfl⟩

/-- No diagnostics are read only of an output that carries no record. -/
theorem Yields.diagnostics_eq_nil_iff
    {value : Json}
    {output : Output}
    (yields : Yields value output) :
    output.diagnostics = [] ↔ ∀ record, ¬Carries value record := by
  cases yields with
  | @current fields records diagnostics held described =>
      obtain rfl := forall₂_describesCurrent_iff.mp described
      rw [List.map_eq_nil_iff]
      constructor
      · rintro rfl record carries
        cases carries with
        | current heldToo member =>
            cases held.symm.trans heldToo
            cases member
        | former notHeld => cases held.symm.trans notHeld
      · intro noRecord
        refine List.eq_nil_iff_forall_not_mem.mpr fun record member => ?_
        exact noRecord _ (.current held (List.mem_map_of_mem member))
  | @former files blocks notHeld described =>
      obtain rfl := forall₂_describesFormer_iff.mp described
      rw [← List.flatMap_def, List.flatMap_eq_nil_iff]
      constructor
      · intro noDiagnostics record carries
        cases carries with
        | current held => cases notHeld.symm.trans held
        | former _ listed member =>
            obtain ⟨file, fileMember, same⟩ := List.mem_map.mp listed
            cases same
            rw [List.map_eq_nil_iff.mp (noDiagnostics file fileMember)] at member
            cases member
      · intro noRecord file fileMember
        refine List.map_eq_nil_iff.mpr ?_
        refine List.eq_nil_iff_forall_not_mem.mpr fun record member => ?_
        exact
          noRecord _
            (.former notHeld (List.mem_map_of_mem fileMember)
              (List.mem_map_of_mem member))

/-- What is read of output that is decoded depends on the decoded value alone. -/
theorem readOutput_of_parse
    {stdout : Text}
    (notBlank : stdout.isBlank = false)
    {room : Nat}
    {value : Json}
    (parsed : Json.parse stdout room = .ok value)
    (stderr : Text) :
    readOutput stdout stderr room =
      match readDecoded value with
      | .ok (shape, diagnostics) =>
          .ok { shape := some shape, diagnostics := diagnostics }
      | .error fault => .error (.rejected fault stdout stderr) := by
  cases read : readDecoded value with
  | ok found => simp [readOutput, notBlank, parsed, read]
  | error fault => simp [readOutput, notBlank, parsed, read]

/-- What is read of output that is decoded are the diagnostics of its records. -/
theorem readOutput_eq_ok_iff
    {stdout : Text}
    (notBlank : stdout.isBlank = false)
    {room : Nat}
    {value : Json}
    (parsed : Json.parse stdout room = .ok value)
    (stderr : Text)
    {output : Output} :
    readOutput stdout stderr room = .ok output ↔ Yields value output := by
  rw [readOutput_of_parse notBlank parsed]
  constructor
  · intro accepted
    split at accepted
    · next read =>
        cases accepted
        exact yields_of_readDecoded read
    · cases accepted
  · intro yields
    obtain ⟨shape, isShape, read⟩ := yields.readDecoded_eq
    rw [read]
    dsimp only
    rw [← isShape]

/-- Output that is decoded is rejected exactly if it does not report findings. -/
theorem rejected_iff
    {stdout : Text}
    (notBlank : stdout.isBlank = false)
    {room : Nat}
    {value : Json}
    (parsed : Json.parse stdout room = .ok value)
    (stderr : Text) :
    (∃ fault,
        readOutput stdout stderr room = .error (.rejected fault stdout stderr)) ↔
      ¬ReportsFindings value := by
  rw [readOutput_of_parse notBlank parsed, ← exists_readDecoded_iff]
  cases readDecoded value with
  | ok read => simp
  | error fault => simp

/--
Output that is decoded is read if and only if it is in one of the two shapes with
objects for all its records, and it is rejected otherwise, be it for one record
alone.  What is read is one diagnostic for each record in the order of the
records, each with what its own record tells field by field.  So nothing is read
only of an output that carries no record.
-/
theorem output_is_read_record_by_record
    {stdout : Text}
    (notBlank : stdout.isBlank = false)
    {room : Nat}
    {value : Json}
    (parsed : Json.parse stdout room = .ok value)
    (stderr : Text) :
    ((∃ output, readOutput stdout stderr room = .ok output) ↔
        ReportsFindings value) ∧
      ((∃ fault,
          readOutput stdout stderr room =
            .error (.rejected fault stdout stderr)) ↔
        ¬ReportsFindings value) ∧
      (∀ record,
        Carries value record →
        (∀ fields, record ≠ .object fields) →
        ∃ fault,
          readOutput stdout stderr room = .error (.rejected fault stdout stderr)) ∧
      ∀ output,
        (readOutput stdout stderr room = .ok output ↔ Yields value output) ∧
          (readOutput stdout stderr room = .ok output →
            (output.diagnostics = [] ↔ ∀ record, ¬Carries value record)) := by
  have rejects := rejected_iff notBlank parsed stderr
  have reads
      {output : Output} :
      readOutput stdout stderr room = .ok output ↔ Yields value output :=
    readOutput_eq_ok_iff notBlank parsed stderr
  refine ⟨?_, rejects, ?_, fun output => ⟨reads, ?_⟩⟩
  · simp [exists_readOutput_iff, notBlank, parsed]
  · intro record carries noObject
    refine rejects.mpr fun reports => ?_
    obtain ⟨fields, isObject⟩ := reports.exists_eq_object carries
    exact noObject fields isObject
  · intro accepted
    exact (reads.mp accepted).diagnostics_eq_nil_iff

/--
Offsets stand in for a place and a later field for an empty rule, and a record
without a field is a finding as well.
-/
theorem offsets_stand_in_for_places :
    let stdout : Text :=
      "\x7b\"a.ts\": [\x7b\"rule_id\": \"\", \"code\": \"no-var\", " ++
        "\"labels\": [\x7b\"span\": " ++
        "\x7b\"line\": true, \"start\": 4, \"end\": 9\x7d\x7d]\x7d, " ++
        "\x7b\x7d]\x7d"
    let output : Output := {
      shape := some .former
      diagnostics := [
        {
          filename := "a.ts"
          rule := "no-var"
          severity := .error
          message := []
          line := some 4
          column := some 5
          help := none
          url := none
        },
        {
          filename := "a.ts"
          rule := "unknown"
          severity := .error
          message := []
          line := none
          column := none
          help := none
          url := none
        }]
    }
    stdout.isBlank = false ∧
      ∃ value,
        Json.parse stdout = .ok value ∧
          ReportsFindings value ∧ Yields value output := by
  intro stdout output
  have notBlank : stdout.isBlank = false := by decide +kernel
  have read : readOutput stdout [] = .ok output := by decide +kernel
  obtain ⟨value, parsed, _⟩ :=
    (exists_readOutput_iff.mp ⟨output, read⟩).resolve_left (by simp [notBlank])
  obtain ⟨accepts, _, _, all⟩ :=
    output_is_read_record_by_record notBlank parsed []
  exact
    ⟨notBlank, value, parsed, accepts.mp ⟨output, read⟩,
      (all output).1.mp read⟩

end Tolerance.Linter
