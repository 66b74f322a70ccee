import Tolerance.Proofs.Json.Plain
import Tolerance.Proofs.Json.RoundTrip
import Tolerance.Report.Machine

namespace Tolerance

/-!
# What a machine report conveys

A machine report is written on one line of printable ASCII, and the report can be
read back from that line, unless one of its strings has a high surrogate right
before a low one, which together stand for another code point.
-/

namespace Json

/-! ## The strings of a value -/

mutual

/-- The strings that a value holds, but for the names of fields. -/
def strings : Json → List Text
  | .string value => [value]
  | .array items => stringsOfItems items
  | .object fields => stringsOfFields fields
  | _ => []

/-- The strings that the items hold. -/
def stringsOfItems : List Json → List Text
  | [] => []
  | item :: items => item.strings ++ stringsOfItems items

/-- The strings that the values of the fields hold. -/
def stringsOfFields : List (Text × Json) → List Text
  | [] => []
  | (_, value) :: fields => value.strings ++ stringsOfFields fields

end

/-- No string of a value has a high surrogate right before a low one. -/
def SurrogatesApart (value : Json) : Prop :=
  ∀ string ∈ value.strings, string.SurrogatesApart

instance (value : Json) : Decidable value.SurrogatesApart :=
  List.decidableBAll _ value.strings

section

variable {items : List Json} {fields : List (Text × Json)}

theorem surrogatesApart_array_iff :
    (Json.array items).SurrogatesApart ↔ ∀ item ∈ items, item.SurrogatesApart := by
  unfold SurrogatesApart
  rw [strings]
  induction items with
  | nil =>
      simp [stringsOfItems]
  | cons item items inductionHypothesis =>
      rw [stringsOfItems, List.forall_mem_append, inductionHypothesis,
        List.forall_mem_cons]

theorem surrogatesApart_object_iff :
    (Json.object fields).SurrogatesApart ↔
      ∀ field ∈ fields, field.2.SurrogatesApart := by
  unfold SurrogatesApart
  rw [strings]
  induction fields with
  | nil =>
      simp [stringsOfFields]
  | cons field fields inductionHypothesis =>
      rw [stringsOfFields, List.forall_mem_append, inductionHypothesis,
        List.forall_mem_cons]

/-- Items are told from their written form if each of them is. -/
theorem recoverableItems_iff :
    RecoverableItems items ↔ ∀ item ∈ items, item.Recoverable := by
  induction items with
  | nil =>
      simp [RecoverableItems]
  | cons item items inductionHypothesis =>
      rw [RecoverableItems, inductionHypothesis, List.forall_mem_cons]

/-- Items are no deeper than the deepest of them. -/
theorem depthOfItems_le_iff
    {limit : Nat} :
    depthOfItems items ≤ limit ↔ ∀ item ∈ items, item.depth ≤ limit := by
  induction items with
  | nil =>
      simp [depthOfItems]
  | cons item items inductionHypothesis =>
      rw [depthOfItems, Nat.max_le, inductionHypothesis, List.forall_mem_cons]

end

/-! ## Values that can be reported -/

/-- Names that are not repeated and can be told from their written forms. -/
def NamesFields (names : List Text) : Prop :=
  names.Nodup ∧ ∀ name ∈ names, name.SurrogatesApart

instance (names : List Text) : Decidable (NamesFields names) :=
  inferInstanceAs (Decidable (_ ∧ _))

/-- A value is written plainly, is not deeper than allowed, and can be told from what is written. -/
structure Reportable (level height : Nat) (value : Json) : Prop where
  plain : WritesPlain .oneLine level value
  shallow : value.depth ≤ height
  recoverable : value.SurrogatesApart → value.Recoverable

section

variable {level height : Nat}

theorem reportable_null : Reportable level height .null :=
  ⟨writesPlain_null, Nat.zero_le _, fun _ => trivial⟩

theorem reportable_integer (number : Int) :
    Reportable level height (.integer number) :=
  ⟨writesPlain_integer number, Nat.zero_le _, fun _ => trivial⟩

theorem reportable_string (text : Text) :
    Reportable level height (.string text) :=
  ⟨writesPlain_string text, Nat.zero_le _,
    fun apart => apart text (List.mem_singleton_self text)⟩

/-- An array of values that can be reported can be reported. -/
theorem reportable_array
    {items : List Json}
    (reportable : ∀ item ∈ items, Reportable (level + 1) height item) :
    Reportable level (height + 1) (.array items) where
  plain := writesPlain_array fun item member => (reportable item member).plain
  shallow :=
    Nat.succ_le_succ
      (depthOfItems_le_iff.mpr fun item member => (reportable item member).shallow)
  recoverable := fun apart =>
    recoverableItems_iff.mpr fun item member =>
      (reportable item member).recoverable
        (surrogatesApart_array_iff.mp apart item member)

/-- An object whose values can be reported can be reported, if its names can. -/
theorem reportable_object
    {fields : List (Text × Json)}
    (named : NamesFields (fields.map Prod.fst))
    (reportable : ∀ field ∈ fields, Reportable (level + 1) height field.2) :
    Reportable level (height + 1) (.object fields) where
  plain := writesPlain_object fun field member => (reportable field member).plain
  shallow :=
    Nat.succ_le_succ
      (depthOfFields_le_iff.mpr fun field member => (reportable field member).shallow)
  recoverable := fun apart =>
    ⟨named.1,
      recoverableFields_iff.mpr fun field member =>
        ⟨named.2 field.1 (List.mem_map_of_mem member),
          (reportable field member).recoverable
            (surrogatesApart_object_iff.mp apart field member)⟩⟩

end

end Json

namespace Report

open Json

section

variable {level height : Nat}

private theorem reportable_optionalInteger
    (number : Option Int) :
    Reportable level height (Diagnostic.optionalInteger number) := by
  cases number with
  | none => exact reportable_null
  | some number => exact reportable_integer number

private theorem reportable_optionalText
    (text : Option Text) :
    Reportable level height (Diagnostic.optionalText text) := by
  cases text with
  | none => exact reportable_null
  | some text => exact reportable_string text

private theorem reportable_diagnostic
    (diagnostic : Diagnostic) :
    Reportable level (height + 1) diagnostic.toJson := by
  refine reportable_object (of_decide_eq_true rfl) ?_
  simp [reportable_string, reportable_optionalInteger, reportable_optionalText]

private theorem reportable_excess
    (group : Excess) :
    Reportable level (height + 3) (excessToJson group) := by
  refine reportable_object (of_decide_eq_true rfl) ?_
  simp [reportable_string, reportable_integer, reportable_array,
    reportable_diagnostic]

private theorem reportable_change
    (change : Change) :
    Reportable level (height + 1) (changeToJson change) := by
  refine reportable_object (of_decide_eq_true rfl) ?_
  simp [reportable_string, reportable_optionalInteger]

/-- A check can be reported. -/
theorem reportable_checkToJson
    (groups : List Excess)
    (baselinePath inputSource : Text) :
    Reportable level 5 (checkToJson groups baselinePath inputSource) := by
  have excess : Reportable (level + 1) 4 (.array (groups.map excessToJson)) :=
    reportable_array (by simp [reportable_excess])
  have origin :
      Reportable (level + 1) 4
        (.object [
          ("baseline", .string baselinePath),
          ("input_source", .string inputSource),
          ("version", .string version)]) :=
    reportable_object (of_decide_eq_true rfl) (by simp [reportable_string])
  have summary :
      Reportable (level + 1) 4
        (.object [
          ("files", .integer (Excess.filenames groups).length),
          ("rules", .integer groups.length),
          ("total_excess", .integer (Excess.totalAmount groups))]) :=
    reportable_object (of_decide_eq_true rfl) (by simp [reportable_integer])
  refine reportable_object (of_decide_eq_true rfl) ?_
  simp [excess, origin, summary]

/-- An update can be reported. -/
theorem reportable_updateToJson
    (changes : List Change)
    (baselinePath : Text)
    (diagnostics : Nat) :
    Reportable level 5 (updateToJson changes baselinePath diagnostics) := by
  refine reportable_object (of_decide_eq_true rfl) ?_
  simp [reportable_string, reportable_integer, reportable_array,
    reportable_change]

/-- Where diagnostics come from has no part in whether a check can be reported. -/
theorem machine_checkToJson_cases
    (groups : List Excess)
    (baselinePath : Text) :
    (∃ reports : Text → Text,
      ∀ source,
        machine (checkToJson groups baselinePath source) = .ok (reports source)) ∨
    ∃ fault,
      ∀ source,
        machine (checkToJson groups baselinePath source) = .error fault := by
  unfold machine checkToJson write
  simp only [writeAt, writeFields]
  cases writeItems .oneLine (0 + 1 + 1) (groups.map excessToJson) with
  | error fault => exact Or.inr ⟨fault, fun _ => rfl⟩
  | ok excess =>
      cases Numeral.write (Excess.filenames groups).length with
      | error fault => exact Or.inr ⟨fault, fun _ => rfl⟩
      | ok files =>
          cases Numeral.write groups.length with
          | error fault => exact Or.inr ⟨fault, fun _ => rfl⟩
          | ok rules =>
              cases Numeral.write (Excess.totalAmount groups) with
              | error fault => exact Or.inr ⟨fault, fun _ => rfl⟩
              | ok total => exact Or.inl ⟨_, fun _ => rfl⟩

/--
What is written for a report is one line of printable ASCII, and the report is
read from it and the end of its line, if its surrogates are apart and there is room
for the five containers that it nests.
-/
theorem machine_of_reportable
    {report : Json}
    {line : Text}
    (reportable : Reportable 0 5 report)
    (wrote : machine report = .ok line) :
    Layout.oneLine.Admits line ∧
      (report.SurrogatesApart →
        ∀ room, 5 ≤ room → parse (line ++ "\n") room = .ok report) := by
  refine ⟨reportable.plain line wrote, fun apart room enough => ?_⟩
  have shallow : report.depth ≤ room :=
    reportable.shallow.trans enough
  exact parse_write (reportable.recoverable apart) wrote shallow (by decide)

end

end Report

end Tolerance
