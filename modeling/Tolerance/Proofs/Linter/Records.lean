import Mathlib.Data.List.Forall2
import Tolerance.Proofs.Linter.Output

namespace Tolerance.Linter

/-!
# What is read of each record

A diagnostic is read of its own record alone, and in the former shape of the
file that the record stands under.  A field of the wrong kind counts as missing,
and what stands in for a missing field depends on the field.  The rules are
stated here field by field, and the reader is shown to follow them.
-/

/-! ## Fields -/

/-- What a field holds, if that is of the given kind; anything else counts as nothing. -/
inductive Holds
    {Content : Type}
    (kind : Content → Json)
    (record : Record)
    (name : Text) :
    Option Content → Prop where
  | content
      (content : Content)
      (held : Json.field? name record = some (kind content)) :
      Holds kind record name (some content)
  | nothing
      (other : ∀ content, Json.field? name record ≠ some (kind content)) :
      Holds kind record name none

/-- A field holds what a reader of its kind makes of it. -/
private theorem holds_iff
    {Content : Type}
    {kind : Content → Json}
    {reader : Json → Option Content}
    (reads : ∀ value content, reader value = some content ↔ value = kind content)
    {record : Record}
    {name : Text}
    {found : Option Content} :
    Holds kind record name found ↔
      (Json.field? name record).bind reader = found := by
  constructor
  · intro holds
    cases holds with
    | content content held =>
        rw [held]
        exact (reads _ content).mpr rfl
    | nothing other =>
        refine Option.eq_none_iff_forall_ne_some.mpr fun content read => ?_
        obtain ⟨value, held, isContent⟩ := Option.bind_eq_some_iff.mp read
        exact other content (held.trans (congrArg some ((reads _ _).mp isContent)))
  · rintro rfl
    cases read : (Json.field? name record).bind reader with
    | none =>
        refine .nothing fun content held => ?_
        rw [held, Option.bind_some, (reads _ content).mpr rfl] at read
        cases read
    | some content =>
        obtain ⟨value, held, isContent⟩ := Option.bind_eq_some_iff.mp read
        exact .content content (held.trans (congrArg some ((reads _ _).mp isContent)))

theorem holds_string_iff
    {record : Record}
    {name : Text}
    {found : Option Text} :
    Holds .string record name found ↔ textField? name record = found := by
  refine holds_iff fun value content => ?_
  cases value <;> simp [Json.text?]

theorem holds_integer_iff
    {record : Record}
    {name : Text}
    {found : Option Int} :
    Holds .integer record name found ↔ integerField? name record = found := by
  refine holds_iff fun value content => ?_
  cases value <;> simp [Json.integer?]

/--
The name that the first of some fields gives that holds a text which is not
empty.
-/
inductive Names (record : Record) : List Text → Text → Prop where
  | filled
      {field : Text}
      {later : List Text}
      {name : Text}
      (held : Holds .string record field (some name))
      (notEmpty : name ≠ []) :
      Names record (field :: later) name
  | next
      {field : Text}
      {later : List Text}
      {name : Text}
      (unfilled : ∀ text, Holds .string record field (some text) → text = [])
      (named : Names record later name) :
      Names record (field :: later) name
  | unknown : Names record [] "unknown"

theorem filledField?_eq_some_iff
    {record : Record}
    {field name : Text} :
    filledField? field record = some name ↔
      Holds .string record field (some name) ∧ name ≠ [] := by
  simp [filledField?, holds_string_iff, Option.filter_eq_some_iff]

theorem filledField?_eq_none_iff
    {record : Record}
    {field : Text} :
    filledField? field record = none ↔
      ∀ text, Holds .string record field (some text) → text = [] := by
  simp [filledField?, holds_string_iff, Option.filter_eq_none_iff]

/-- The name is that of the first filled field, or else `unknown`. -/
theorem names_iff
    {record : Record}
    {fields : List Text}
    {name : Text} :
    Names record fields name ↔
      (fields.findSome? (filledField? · record)).getD Diagnostic.unknown =
        name := by
  induction fields with
  | nil =>
      constructor
      · intro named
        cases named
        rfl
      · rintro rfl
        exact .unknown
  | cons field later inductionHypothesis =>
      rw [List.findSome?_cons]
      cases found : filledField? field record with
      | none =>
          have unfilled := filledField?_eq_none_iff.mp found
          rw [← inductionHypothesis]
          constructor
          · intro named
            cases named with
            | filled held notEmpty => exact (notEmpty (unfilled _ held)).elim
            | next _ named => exact named
          · exact .next unfilled
      | some first =>
          obtain ⟨held, notEmpty⟩ := filledField?_eq_some_iff.mp found
          constructor
          · intro named
            cases named with
            | filled heldToo notEmptyToo =>
                have filledToo :=
                  filledField?_eq_some_iff.mpr ⟨heldToo, notEmptyToo⟩
                exact Option.some.inj (found.symm.trans filledToo)
            | next unfilled _ => exact (notEmpty (unfilled first held)).elim
          · rintro rfl
            exact .filled held notEmpty

private theorem names_one_iff
    {record : Record}
    {field name : Text} :
    Names record [field] name ↔
      (filledField? field record).getD Diagnostic.unknown = name := by
  rw [names_iff, List.findSome?_singleton]

private theorem names_two_iff
    {record : Record}
    {first second name : Text} :
    Names record [first, second] name ↔
      ((filledField? first record).or (filledField? second record)).getD
          Diagnostic.unknown =
        name := by
  rw [names_iff, List.findSome?_cons, List.findSome?_singleton]
  cases filledField? first record <;> exact Iff.rfl

/-- The severity of a record is the word `warning`, in any case and with blanks around it. -/
def SaysWarning (record : Record) : Prop :=
  ∃ written,
    Holds .string record "severity" (some written) ∧
      written.trimBlanks.toLowerAscii = "warning"

/-- A record that does not say that it is a warning counts as an error. -/
inductive Grades (record : Record) : Severity → Prop where
  | warning (worded : SaysWarning record) : Grades record .warning
  | error (notWorded : ¬SaysWarning record) : Grades record .error

private theorem saysWarning_iff
    {record : Record} :
    SaysWarning record ↔
      Severity.ofJson ((Json.field? "severity" record).getD .null) =
        .warning := by
  simp only [SaysWarning, holds_string_iff, textField?]
  cases Json.field? "severity" record with
  | none => simp [Severity.ofJson]
  | some value => cases value <;> simp [Severity.ofJson, Json.text?]

private theorem ofJson_cases (value : Json) :
    Severity.ofJson value = .warning ∨ Severity.ofJson value = .error := by
  unfold Severity.ofJson
  split
  · split
    · exact Or.inl rfl
    · exact Or.inr rfl
  · exact Or.inr rfl

theorem grades_iff
    {record : Record}
    {severity : Severity} :
    Grades record severity ↔
      Severity.ofJson ((Json.field? "severity" record).getD .null) =
        severity := by
  constructor
  · intro graded
    cases graded with
    | warning worded => exact saysWarning_iff.mp worded
    | error notWorded =>
        exact (ofJson_cases _).resolve_left (mt saysWarning_iff.mpr notWorded)
  · rintro rfl
    rcases ofJson_cases ((Json.field? "severity" record).getD .null) with
      isWarning | isError
    · rw [isWarning]
      exact .warning (saysWarning_iff.mpr isWarning)
    · rw [isError]
      refine .error fun worded => ?_
      rw [saysWarning_iff, isError] at worded
      cases worded

/-! ## Places -/

/-- The span of the first label of a record. -/
def FirstSpan (record span : Record) : Prop :=
  ∃ label labels,
    Json.field? "labels" record = some (.array (.object label :: labels)) ∧
      Json.field? "span" label = some (.object span)

theorem firstSpan?_eq_some_iff
    {record span : Record} :
    firstSpan? record = some span ↔ FirstSpan record span := by
  unfold firstSpan? FirstSpan
  constructor
  · intro found
    split at found
    · next label labels held =>
        split at found
        · next heldToo =>
            cases found
            exact ⟨label, labels, held, heldToo⟩
        · cases found
    · cases found
  · rintro ⟨label, labels, held, heldToo⟩
    rw [held]
    dsimp only
    rw [heldToo]

/-- Line and column in the first span of a record, if it has one. -/
inductive Place
    (line column : Record → Option Int → Prop)
    (record : Record) :
    Option Int → Option Int → Prop where
  | span
      {span : Record}
      {lineGiven columnGiven : Option Int}
      (first : FirstSpan record span)
      (lineHeld : line span lineGiven)
      (columnHeld : column span columnGiven) :
      Place line column record lineGiven columnGiven
  | nowhere (noSpan : ∀ span, ¬FirstSpan record span) :
      Place line column record none none

/-- In the former shape the start of a span stands in for a missing line. -/
inductive FormerLine (span : Record) : Option Int → Prop where
  | line
      (number : Int)
      (held : Holds .integer span "line" (some number)) :
      FormerLine span (some number)
  | start
      {start : Option Int}
      (noLine : Holds .integer span "line" none)
      (held : Holds .integer span "start" start) :
      FormerLine span start

/-- In the former shape the length of a span stands in for a missing column. -/
inductive FormerColumn (span : Record) : Option Int → Prop where
  | column
      (number : Int)
      (held : Holds .integer span "column" (some number)) :
      FormerColumn span (some number)
  | length
      (first last : Int)
      (noColumn : Holds .integer span "column" none)
      (startHeld : Holds .integer span "start" (some first))
      (endHeld : Holds .integer span "end" (some last)) :
      FormerColumn span (some (last - first))
  | missing
      (noColumn : Holds .integer span "column" none)
      (noOffset :
        Holds .integer span "start" none ∨ Holds .integer span "end" none) :
      FormerColumn span none

private theorem place_iff
    {line column : Record → Option Int → Prop}
    (lineOf columnOf : Record → Option Int)
    (lines : ∀ span found, line span found ↔ lineOf span = found)
    (columns : ∀ span found, column span found ↔ columnOf span = found)
    {record : Record}
    {place : Option Int × Option Int} :
    Place line column record place.1 place.2 ↔
      (match firstSpan? record with
        | some span => (lineOf span, columnOf span)
        | none => (none, none)) =
        place := by
  constructor
  · obtain ⟨lineGiven, columnGiven⟩ := place
    intro placed
    cases placed with
    | span first lineHeld columnHeld =>
        rw [firstSpan?_eq_some_iff.mpr first]
        exact
          Prod.ext ((lines _ _).mp lineHeld) ((columns _ _).mp columnHeld)
    | nowhere noSpan =>
        have noFirst : firstSpan? record = none :=
          Option.eq_none_iff_forall_ne_some.mpr fun span found =>
            noSpan span (firstSpan?_eq_some_iff.mp found)
        rw [noFirst]
  · rintro rfl
    cases found : firstSpan? record with
    | some span =>
        exact
          .span (firstSpan?_eq_some_iff.mp found) ((lines _ _).mpr rfl)
            ((columns _ _).mpr rfl)
    | none =>
        refine .nowhere fun span first => ?_
        rw [firstSpan?_eq_some_iff.mpr first] at found
        cases found

theorem currentPlace_iff
    {record : Record}
    {place : Option Int × Option Int} :
    Place (Holds .integer · "line") (Holds .integer · "column") record
        place.1 place.2 ↔
      currentPosition record = place :=
  place_iff (integerField? "line") (integerField? "column")
    (fun _ _ => holds_integer_iff) fun _ _ => holds_integer_iff

private theorem formerLine_iff
    {span : Record}
    {found : Option Int} :
    FormerLine span found ↔
      (integerField? "line" span).or (integerField? "start" span) = found := by
  constructor
  · intro given
    cases given with
    | line number held => rw [holds_integer_iff.mp held, Option.some_or]
    | start noLine held =>
        rw [holds_integer_iff.mp noLine, Option.none_or]
        exact holds_integer_iff.mp held
  · rintro rfl
    cases held : integerField? "line" span with
    | some number => exact .line number (holds_integer_iff.mpr held)
    | none => exact .start (holds_integer_iff.mpr held) (holds_integer_iff.mpr rfl)

/-- The column that the former shape gives to a span. -/
private def formerColumn (span : Record) : Option Int :=
  match integerField? "column" span with
  | some column => some column
  | none =>
      match integerField? "start" span, integerField? "end" span with
      | some first, some last => some (last - first)
      | _, _ => none

private theorem formerColumn_iff
    {span : Record}
    {found : Option Int} :
    FormerColumn span found ↔ formerColumn span = found := by
  unfold formerColumn
  constructor
  · intro given
    cases given with
    | column number held => rw [holds_integer_iff.mp held]
    | length first last noColumn startHeld endHeld =>
        rw [holds_integer_iff.mp noColumn, holds_integer_iff.mp startHeld,
          holds_integer_iff.mp endHeld]
    | missing noColumn noOffset =>
        rw [holds_integer_iff.mp noColumn]
        rcases noOffset with noStart | noEnd
        · rw [holds_integer_iff.mp noStart]
        · rw [holds_integer_iff.mp noEnd]
          cases integerField? "start" span <;> rfl
  · rintro rfl
    cases column : integerField? "column" span with
    | some number => exact .column number (holds_integer_iff.mpr column)
    | none =>
        have noColumn := holds_integer_iff.mpr column
        cases start : integerField? "start" span with
        | none =>
            exact .missing noColumn (Or.inl (holds_integer_iff.mpr start))
        | some first =>
            cases stop : integerField? "end" span with
            | none =>
                exact .missing noColumn (Or.inr (holds_integer_iff.mpr stop))
            | some last =>
                exact
                  .length first last noColumn (holds_integer_iff.mpr start)
                    (holds_integer_iff.mpr stop)

theorem formerPlace_iff
    {record : Record}
    {place : Option Int × Option Int} :
    Place FormerLine FormerColumn record place.1 place.2 ↔
      formerPosition record = place :=
  place_iff
    (fun span => (integerField? "line" span).or (integerField? "start" span))
    formerColumn (fun _ _ => formerLine_iff) fun _ _ => formerColumn_iff

/-! ## Records -/

/-- What a diagnostic tells of its record whatever the shape. -/
structure Describes
    (record : Record)
    (diagnostic : Diagnostic) :
    Prop where
  severity : Grades record diagnostic.severity
  message :
    ∃ message,
      Holds .string record "message" message ∧
        diagnostic.message = message.getD []
  help : Holds .string record "help" diagnostic.help
  url : Holds .string record "url" diagnostic.url

/-- What a diagnostic tells of a record in the current shape. -/
structure DescribesCurrent
    (record : Record)
    (diagnostic : Diagnostic) :
    Prop extends Describes record diagnostic where
  filename : Names record ["filename"] diagnostic.filename
  rule : Names record ["code"] diagnostic.rule
  place :
    Place (Holds .integer · "line") (Holds .integer · "column") record
      diagnostic.line diagnostic.column

/-- What a diagnostic tells of a record in the former shape that stands under a file. -/
structure DescribesFormer
    (filename : Text)
    (record : Record)
    (diagnostic : Diagnostic) :
    Prop extends Describes record diagnostic where
  filename : diagnostic.filename = filename
  rule : Names record ["rule_id", "code"] diagnostic.rule
  place :
    Place FormerLine FormerColumn record diagnostic.line diagnostic.column

private theorem describes_diagnosticOf
    (filename rule : Text)
    (place : Option Int × Option Int)
    (record : Record) :
    Describes record (diagnosticOf filename rule place record) where
  severity := grades_iff.mpr rfl
  message := ⟨_, holds_string_iff.mpr rfl, rfl⟩
  help := holds_string_iff.mpr rfl
  url := holds_string_iff.mpr rfl

private theorem diagnosticOf_eq
    {record : Record}
    {diagnostic : Diagnostic}
    (described : Describes record diagnostic)
    {filename rule : Text}
    {place : Option Int × Option Int}
    (sameFile : filename = diagnostic.filename)
    (sameRule : rule = diagnostic.rule)
    (samePlace : place = (diagnostic.line, diagnostic.column)) :
    diagnosticOf filename rule place record = diagnostic := by
  obtain ⟨severity, ⟨message, held, isMessage⟩, help, url⟩ := described
  rw [grades_iff] at severity
  rw [holds_string_iff] at held help url
  rw [diagnosticOf, severity, held, help, url, sameFile, sameRule, samePlace,
    ← isMessage]

/-- One diagnostic describes a record in the current shape, and it is the one that is read. -/
theorem describesCurrent_iff
    {record : Record}
    {diagnostic : Diagnostic} :
    DescribesCurrent record diagnostic ↔
      currentDiagnostic record = diagnostic := by
  constructor
  · rintro ⟨described, filename, rule, place⟩
    exact
      diagnosticOf_eq described (names_one_iff.mp filename)
        (names_one_iff.mp rule) (currentPlace_iff.mp place)
  · rintro rfl
    exact {
      toDescribes := describes_diagnosticOf _ _ _ _
      filename := names_one_iff.mpr rfl
      rule := names_one_iff.mpr rfl
      place := currentPlace_iff.mpr rfl
    }

/-- One diagnostic describes a record in the former shape, and it is the one that is read. -/
theorem describesFormer_iff
    {filename : Text}
    {record : Record}
    {diagnostic : Diagnostic} :
    DescribesFormer filename record diagnostic ↔
      formerDiagnostic filename record = diagnostic := by
  constructor
  · rintro ⟨described, sameFile, rule, place⟩
    exact
      diagnosticOf_eq described sameFile.symm (names_two_iff.mp rule)
        (formerPlace_iff.mp place)
  · rintro rfl
    exact {
      toDescribes := describes_diagnosticOf _ _ _ _
      filename := rfl
      rule := names_two_iff.mpr rfl
      place := formerPlace_iff.mpr rfl
    }

end Tolerance.Linter
