import Tolerance.Proofs.Json.Parts
import Tolerance.Proofs.Text.Line
import Tolerance.Proofs.Text.Utf8
import Tolerance.Text.Styled

namespace Tolerance

/-!
# Written values are plain ASCII

What is written for a value consists of printable ASCII and line feeds, and of
printable ASCII alone if it is written on one line.  So its bytes are the same in
every encoding that extends ASCII, decoding gives it back, and there is no line
ending in it that would be changed.
-/

namespace CodePoint

/-- Printable ASCII or a line feed. -/
def isPlain (point : CodePoint) : Bool :=
  point == 0x0a || (decide (0x20 ≤ point.val) && decide (point.val < 0x7f))

theorem isPlain_of_bounds
    {point : CodePoint}
    (low : 0x20 ≤ point.val)
    (high : point.val < 0x7f) :
    point.isPlain = true := by
  simp [isPlain, low, high]

theorem isSurrogate_of_isPlain
    {point : CodePoint}
    (plain : point.isPlain = true) :
    point.isSurrogate = false := by
  simp only [isPlain, Bool.or_eq_true, Bool.and_eq_true, beq_iff_eq,
    decide_eq_true_eq] at plain
  rcases plain with rfl | ⟨_, small⟩
  · decide
  · simp only [isSurrogate, Bool.and_eq_false_iff, decide_eq_false_iff_not]
    omega

end CodePoint

namespace Text

/-- Printable ASCII and line feeds. -/
def Plain (text : Text) : Prop :=
  ∀ point ∈ text, point.isPlain = true

instance (text : Text) : Decidable text.Plain :=
  decidable_of_iff (text.all CodePoint.isPlain = true) List.all_eq_true

namespace Plain

theorem append
    {left right : Text}
    (plainLeft : Plain left)
    (plainRight : Plain right) :
    Plain (left ++ right) :=
  List.forall_mem_append.mpr ⟨plainLeft, plainRight⟩

/-- A plain text is read back from its bytes. -/
theorem decode_encode
    {text : Text}
    (plain : Plain text) :
    Utf8.decode (text.flatMap Utf8.encodePoint) = .ok text :=
  Utf8.decode_flatMap_encodePoint fun point member =>
    CodePoint.isSurrogate_of_isPlain (plain point member)

/-- A plain text has no line ending but line feeds. -/
theorem unifyLineEndings_eq
    {text : Text}
    (plain : Plain text) :
    text.unifyLineEndings = text :=
  unifyLineEndings_eq_self fun member =>
    absurd (plain 0x0d member) (by decide)

/-- A plain text in front keeps its place when styles are taken out. -/
theorem withoutStyles_append
    {lead : Text}
    (plain : Plain lead)
    (text : Text) :
    (lead ++ text).withoutStyles = lead ++ text.withoutStyles := by
  rw [withoutStyles, withoutStyles]
  induction lead with
  | nil =>
      rfl
  | cons point later inductionHypothesis =>
      obtain ⟨plainPoint, plainLater⟩ := List.forall_mem_cons.mp plain
      have noEscape : point ≠ 0x1b := by
        rintro rfl
        exact absurd plainPoint (by decide)
      rw [List.cons_append, withoutSequences, if_neg noEscape,
        inductionHypothesis plainLater, List.cons_append]

/-- A plain text has no styles that would be taken out. -/
theorem withoutStyles_eq
    {text : Text}
    (plain : Plain text) :
    text.withoutStyles = text := by
  simpa [withoutStyles, withoutSequences] using plain.withoutStyles_append []

/-- A plain text in front keeps its place when surrogates are escaped. -/
theorem escapeSurrogates_append
    {lead : Text}
    (plain : Plain lead)
    (text : Text) :
    (lead ++ text).escapeSurrogates = lead ++ text.escapeSurrogates := by
  induction lead with
  | nil =>
      rfl
  | cons point later inductionHypothesis =>
      obtain ⟨plainPoint, plainLater⟩ := List.forall_mem_cons.mp plain
      have notEscaped := CodePoint.isSurrogate_of_isPlain plainPoint
      simpa [escapeSurrogates, notEscaped] using inductionHypothesis plainLater

end Plain

end Text

namespace Json

open Text CodePoint

/-- What stands in a layout: printable ASCII, and line feeds unless all is on one line. -/
def Layout.admits : Layout → CodePoint → Bool
  | .oneLine, point => decide (0x20 ≤ point.val) && decide (point.val < 0x7f)
  | .indented, point => point.isPlain

/-- A text of code points that stand in a layout. -/
def Layout.Admits (layout : Layout) (text : Text) : Prop :=
  ∀ point ∈ text, layout.admits point = true

theorem Layout.admits_of_bounds
    (layout : Layout)
    {point : CodePoint}
    (low : 0x20 ≤ point.val)
    (high : point.val < 0x7f) :
    layout.admits point = true := by
  cases layout with
  | oneLine => simp [admits, low, high]
  | indented => exact isPlain_of_bounds low high

namespace Layout.Admits

variable {layout : Layout}

theorem nil : layout.Admits [] := by
  intro point member
  cases member

theorem cons
    {point : CodePoint}
    (first : layout.admits point = true)
    {text : Text}
    (admitted : layout.Admits text) :
    layout.Admits (point :: text) :=
  List.forall_mem_cons.mpr ⟨first, admitted⟩

theorem append
    {left right : Text}
    (admittedLeft : layout.Admits left)
    (admittedRight : layout.Admits right) :
    layout.Admits (left ++ right) :=
  List.forall_mem_append.mpr ⟨admittedLeft, admittedRight⟩

/-- Texts are joined by a separator within their layout. -/
theorem join
    {separator : Text}
    (admittedSeparator : layout.Admits separator)
    {parts : List Text}
    (admittedParts : ∀ part ∈ parts, layout.Admits part) :
    layout.Admits (Text.join separator parts) := by
  induction parts with
  | nil =>
      exact nil
  | cons part parts inductionHypothesis =>
      have admittedPart := admittedParts part List.mem_cons_self
      have admittedOthers := inductionHypothesis fun other member =>
        admittedParts other (List.mem_cons_of_mem part member)
      cases parts with
      | nil =>
          exact admittedPart
      | cons next parts =>
          rw [join_cons_cons]
          exact admittedPart.append (admittedSeparator.append admittedOthers)

/-- What stands in either layout is plain. -/
theorem plain
    {text : Text}
    (admitted : layout.Admits text) :
    Plain text := by
  intro point member
  cases layout with
  | oneLine =>
      have bounds := admitted point member
      simp only [admits, Bool.and_eq_true, decide_eq_true_eq] at bounds
      exact isPlain_of_bounds bounds.1 bounds.2
  | indented => exact admitted point member

/-- What stands on one line is printable ASCII. -/
theorem bounds
    {text : Text}
    (admitted : Layout.oneLine.Admits text) :
    ∀ point ∈ text, 0x20 ≤ point.val ∧ point.val < 0x7f := by
  intro point member
  simpa [admits] using admitted point member

end Layout.Admits

section

variable (layout : Layout)

theorem admits_unicodeEscape
    {number : Nat}
    (bound : number < 0x10000) :
    layout.Admits (unicodeEscape number) := by
  have letter
      {point : CodePoint}
      (bounds : 0x20 ≤ point.val ∧ point.val < 0x7f) :
      layout.admits point = true :=
    layout.admits_of_bounds bounds.1 bounds.2
  have digit
      {value : Nat}
      (small : value < 16) :
      layout.admits (ofDigit value) = true := by
    have bounds := ofDigit_bounds value small
    exact letter (by omega)
  rw [unicodeEscape, hexadecimal_four bound]
  refine .cons (letter (by decide)) (.cons (letter (by decide)) ?_)
  exact
    .cons (digit (by omega)) (.cons (digit (by omega))
      (.cons (digit (by omega)) (.cons (digit (by omega)) .nil)))

/-- The written form of a code point stands in every layout. -/
theorem admits_writePoint (point : CodePoint) :
    layout.Admits (writePoint point) := by
  have form := pointForm_writePoint point
  have escape : layout.admits 0x5c = true :=
    layout.admits_of_bounds (by decide) (by decide)
  generalize writePoint point = written at form
  cases form with
  | plain _ _ printable =>
      exact .cons (layout.admits_of_bounds printable.1 printable.2) .nil
  | letter letter _ printable _ =>
      exact
        .cons escape
          (.cons (layout.admits_of_bounds printable.1 printable.2) .nil)
  | unit small =>
      exact admits_unicodeEscape layout small
  | pair high low highBounds lowBounds _ =>
      exact
        (admits_unicodeEscape layout (by omega)).append
          (admits_unicodeEscape layout (by omega))

theorem admits_writeString (text : Text) :
    layout.Admits (writeString text) := by
  have admittedPoints : layout.Admits (text.flatMap writePoint) := by
    intro point member
    obtain ⟨other, _, inWritten⟩ := List.mem_flatMap.mp member
    exact admits_writePoint layout other point inWritten
  have quote : layout.admits 0x22 = true :=
    layout.admits_of_bounds (by decide) (by decide)
  exact .cons quote (admittedPoints.append (.cons quote .nil))

theorem admits_ofInt (number : Int) :
    layout.Admits (Numeral.ofInt number) := by
  have admittedDigits (digits : Nat) : layout.Admits (Numeral.ofNat digits) := by
    intro point member
    have isDigit := Numeral.isDigit_of_mem_ofNat digits point member
    simp only [CodePoint.isDigit, Bool.and_eq_true, decide_eq_true_eq]
      at isDigit
    exact layout.admits_of_bounds (by omega) (by omega)
  cases number with
  | ofNat number =>
      exact admittedDigits number
  | negSucc number =>
      exact
        .cons (layout.admits_of_bounds (by decide) (by decide))
          (admittedDigits (number + 1))

private theorem admits_replicate (count : Nat) :
    Layout.indented.Admits (0x0a :: List.replicate count 0x20) := by
  intro point member
  rcases List.mem_cons.mp member with isLineFeed | inIndentation
  · exact isLineFeed ▸ rfl
  · exact (List.mem_replicate.mp inIndentation).2 ▸ rfl

theorem Layout.admits_separator (depth : Nat) :
    layout.Admits (layout.separator depth) := by
  cases layout with
  | oneLine =>
      exact .cons (by decide) (.cons (by decide) .nil)
  | indented =>
      exact .cons (by decide) (admits_replicate _)

theorem Layout.admits_edge (depth : Nat) :
    layout.Admits (layout.edge depth) := by
  cases layout with
  | oneLine =>
      exact .nil
  | indented =>
      exact admits_replicate _

/-- Parts between brackets stand in the layout of the parts. -/
theorem Layout.admits_enclose
    (depth : Nat)
    {opening closing : CodePoint}
    (openingAdmitted : layout.admits opening = true)
    (closingAdmitted : layout.admits closing = true)
    {parts : List Text}
    (admittedParts : ∀ part ∈ parts, layout.Admits part) :
    layout.Admits (layout.enclose depth opening closing parts) := by
  cases parts with
  | nil =>
      exact .cons openingAdmitted (.cons closingAdmitted .nil)
  | cons part parts =>
      rw [← List.append_nil (layout.enclose _ _ _ _),
        Layout.enclose_cons_append]
      exact
        .cons openingAdmitted
          ((layout.admits_edge _).append
            ((Layout.Admits.join (layout.admits_separator _) admittedParts).append
              ((layout.admits_edge _).append (.cons closingAdmitted .nil))))

end

/-- Whatever is written for a value stands in the layout. -/
def WritesPlain (layout : Layout) (level : Nat) (value : Json) : Prop :=
  ∀ written, writeAt layout level value = .ok written → layout.Admits written

section

variable {layout : Layout} {level : Nat}

private theorem admits_of_allBounds
    {text : Text}
    (bounds :
      (text.all fun point =>
          decide (0x20 ≤ point.val) && decide (point.val < 0x7f)) =
        true) :
    layout.Admits text := by
  intro point member
  have pointBounds := List.all_eq_true.mp bounds point member
  simp only [Bool.and_eq_true, decide_eq_true_eq] at pointBounds
  exact layout.admits_of_bounds pointBounds.1 pointBounds.2

theorem writesPlain_null : WritesPlain layout level .null := by
  rintro _ ⟨⟩
  exact admits_of_allBounds (by decide)

theorem writesPlain_integer (number : Int) :
    WritesPlain layout level (.integer number) := by
  intro written wrote
  obtain ⟨_, rfl⟩ := Numeral.write_eq_ok_iff.mp wrote
  exact admits_ofInt layout number

theorem writesPlain_string (text : Text) :
    WritesPlain layout level (.string text) := by
  rintro _ ⟨⟩
  exact admits_writeString layout text

private theorem admits_writeItems
    {items : List Json}
    {parts : List Text}
    (plainItems : ∀ item ∈ items, WritesPlain layout level item)
    (wrote : writeItems layout level items = .ok parts) :
    ∀ part ∈ parts, layout.Admits part := by
  induction items generalizing parts with
  | nil =>
      cases wrote
      intro part member
      cases member
  | cons item items inductionHypothesis =>
      obtain ⟨plainItem, plainOthers⟩ := List.forall_mem_cons.mp plainItems
      obtain ⟨part, others, wrotePart, wroteOthers, rfl⟩ :=
        writeItems_cons_eq_ok_iff.mp wrote
      exact
        List.forall_mem_cons.mpr
          ⟨plainItem part wrotePart,
            inductionHypothesis plainOthers wroteOthers⟩

private theorem admits_writeFields
    {fields : List (Text × Json)}
    {parts : List Text}
    (plainFields : ∀ field ∈ fields, WritesPlain layout level field.2)
    (wrote : writeFields layout level fields = .ok parts) :
    ∀ part ∈ parts, layout.Admits part := by
  have behindName : layout.Admits (": " : Text) :=
    admits_of_allBounds (by decide)
  induction fields generalizing parts with
  | nil =>
      cases wrote
      intro part member
      cases member
  | cons field fields inductionHypothesis =>
      obtain ⟨plainField, plainOthers⟩ := List.forall_mem_cons.mp plainFields
      obtain ⟨part, others, wrotePart, wroteOthers, rfl⟩ :=
        writeFields_cons_eq_ok_iff.mp wrote
      exact
        List.forall_mem_cons.mpr
          ⟨((admits_writeString layout _).append behindName).append
              (plainField part wrotePart),
            inductionHypothesis plainOthers wroteOthers⟩

/-- An array of values that are written in plain text is too. -/
theorem writesPlain_array
    {items : List Json}
    (plainItems : ∀ item ∈ items, WritesPlain layout (level + 1) item) :
    WritesPlain layout level (.array items) := by
  intro written wrote
  obtain ⟨parts, wroteItems, same⟩ := Outcome.bind_eq_ok_iff.mp wrote
  cases same
  exact
    layout.admits_enclose level
      (layout.admits_of_bounds (by decide) (by decide))
      (layout.admits_of_bounds (by decide) (by decide))
      (admits_writeItems plainItems wroteItems)

/-- An object whose values are written in plain text is too. -/
theorem writesPlain_object
    {fields : List (Text × Json)}
    (plainFields : ∀ field ∈ fields, WritesPlain layout (level + 1) field.2) :
    WritesPlain layout level (.object fields) := by
  intro written wrote
  obtain ⟨parts, wroteFields, same⟩ := Outcome.bind_eq_ok_iff.mp wrote
  cases same
  exact
    layout.admits_enclose level
      (layout.admits_of_bounds (by decide) (by decide))
      (layout.admits_of_bounds (by decide) (by decide))
      (admits_writeFields plainFields wroteFields)

end

mutual

private theorem writesPlain_of_recoverable
    {layout : Layout}
    {level : Nat}
    {value : Json}
    (recoverable : value.Recoverable) :
    WritesPlain layout level value := by
  cases value with
  | null => exact writesPlain_null
  | boolean value =>
      rintro _ ⟨⟩
      cases value with
      | false => exact admits_of_allBounds (by decide)
      | true => exact admits_of_allBounds (by decide)
  | integer number => exact writesPlain_integer number
  | real text => exact recoverable.elim
  | string text => exact writesPlain_string text
  | array items => exact writesPlain_array (writesPlain_items recoverable)
  | object fields =>
      exact writesPlain_object (writesPlain_fields recoverable.2)

private theorem writesPlain_items
    {layout : Layout}
    {level : Nat}
    {items : List Json}
    (recoverable : RecoverableItems items) :
    ∀ item ∈ items, WritesPlain layout level item := by
  cases items with
  | nil =>
      intro item member
      cases member
  | cons item items =>
      exact
        List.forall_mem_cons.mpr
          ⟨writesPlain_of_recoverable recoverable.1,
            writesPlain_items recoverable.2⟩

private theorem writesPlain_fields
    {layout : Layout}
    {level : Nat}
    {fields : List (Text × Json)}
    (recoverable : RecoverableFields fields) :
    ∀ field ∈ fields, WritesPlain layout level field.2 := by
  cases fields with
  | nil =>
      intro field member
      cases member
  | cons field fields =>
      exact
        List.forall_mem_cons.mpr
          ⟨writesPlain_of_recoverable recoverable.2.1,
            writesPlain_fields recoverable.2.2⟩

end

/-- What is written for a value that can be told from it is plain. -/
theorem plain_writeAt
    {layout : Layout}
    {level : Nat}
    {value : Json}
    {written : Text}
    (recoverable : value.Recoverable)
    (wrote : writeAt layout level value = .ok written) :
    Plain written :=
  (writesPlain_of_recoverable recoverable written wrote).plain

end Json

end Tolerance
