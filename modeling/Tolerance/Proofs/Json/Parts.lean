import Tolerance.Proofs.Json.Escape
import Tolerance.Proofs.Json.Scalar
import Tolerance.Proofs.Outcome

namespace Tolerance

/-!
# The parts of a written value

A value is written as a token or as parts between brackets, with blanks and
commas between them.  What gets lost in writing are two halves of a surrogate
pair that stand side by side and two fields of one name; how a number with a
fraction was written is not looked at here.
-/

theorem Text.join_cons_cons
    (separator first second : Text)
    (others : List Text) :
    join separator (first :: second :: others) =
      first ++ (separator ++ join separator (second :: others)) :=
  List.append_assoc first separator _

namespace Json

mutual

/-- A value that can be told from its written form. -/
def Recoverable : Json → Prop
  | .null => True
  | .boolean _ => True
  | .integer _ => True
  | .real _ => False
  | .string value => value.SurrogatesApart
  | .array items => RecoverableItems items
  | .object fields =>
      (fields.map Prod.fst).Nodup ∧ RecoverableFields fields

/-- Every item can be told from its written form. -/
def RecoverableItems : List Json → Prop
  | [] => True
  | item :: items => item.Recoverable ∧ RecoverableItems items

/-- Every name and every value can be told from its written form. -/
def RecoverableFields : List (Text × Json) → Prop
  | [] => True
  | (name, value) :: fields =>
      name.SurrogatesApart ∧ value.Recoverable ∧ RecoverableFields fields

end

mutual

/-- How many containers are nested in one another. -/
def depth : Json → Nat
  | .array items => depthOfItems items + 1
  | .object fields => depthOfFields fields + 1
  | _ => 0

/-- The depth of the deepest item. -/
def depthOfItems : List Json → Nat
  | [] => 0
  | item :: items => max item.depth (depthOfItems items)

/-- The depth of the deepest value. -/
def depthOfFields : List (Text × Json) → Nat
  | [] => 0
  | (_, value) :: fields => max value.depth (depthOfFields fields)

end

/-- Fields are told from their written form if each of them is. -/
theorem recoverableFields_iff
    {fields : List (Text × Json)} :
    RecoverableFields fields ↔
      ∀ field ∈ fields,
        field.1.SurrogatesApart ∧ field.2.Recoverable := by
  induction fields with
  | nil =>
      simp [RecoverableFields]
  | cons field fields inductionHypothesis =>
      rw [RecoverableFields, inductionHypothesis, List.forall_mem_cons,
        and_assoc]

/-- Fields are no deeper than the deepest of them. -/
theorem depthOfFields_le_iff
    {fields : List (Text × Json)}
    {limit : Nat} :
    depthOfFields fields ≤ limit ↔
      ∀ field ∈ fields, field.2.depth ≤ limit := by
  induction fields with
  | nil =>
      simp [depthOfFields]
  | cons field fields inductionHypothesis =>
      rw [depthOfFields, Nat.max_le, inductionHypothesis,
        List.forall_mem_cons]

/-! ## Blanks between the parts -/

/-- Nothing but blanks. -/
def Blank (text : Text) : Prop :=
  ∀ point ∈ text, isBlank point = true

instance (text : Text) : Decidable (Blank text) :=
  decidable_of_iff (text.all isBlank = true) List.all_eq_true

theorem blank_replicate (count : Nat) :
    Blank (0x0a :: List.replicate count 0x20) := by
  intro point member
  rcases List.mem_cons.mp member with isLineFeed | inIndentation
  · exact isLineFeed ▸ rfl
  · exact (List.mem_replicate.mp inIndentation).2 ▸ rfl

theorem Layout.blank_edge (layout : Layout) (depth : Nat) :
    Blank (layout.edge depth) := by
  cases layout with
  | oneLine =>
      intro point member
      cases member
  | indented =>
      exact blank_replicate _

/-- Two parts are separated by a comma with blanks behind it. -/
theorem Layout.exists_separator_eq (layout : Layout) (depth : Nat) :
    ∃ blanks,
      Blank blanks ∧ layout.separator depth = 0x2c :: blanks := by
  cases layout with
  | oneLine =>
      exact ⟨[0x20], by simp [Blank, isBlank], rfl⟩
  | indented =>
      exact ⟨_, blank_replicate _, rfl⟩

/-- Blanks at the front are skipped. -/
theorem skipBlanks_append
    {blanks : Text}
    (blank : Blank blanks)
    (text : Text) :
    skipBlanks (blanks ++ text) = skipBlanks text :=
  List.dropWhile_append_of_pos blank

/-- Nothing is skipped before a token. -/
theorem skipBlanks_cons
    {point : CodePoint}
    (token : isBlank point = false)
    (text : Text) :
    skipBlanks (point :: text) = point :: text := by
  simp [skipBlanks, token]

/-- A text that starts with neither a blank nor a closing bracket. -/
def StartsToken (text : Text) : Prop :=
  ∃ point later,
    text = point :: later ∧ isBlank point = false ∧
      point ≠ 0x5d ∧ point ≠ 0x7d

theorem StartsToken.append
    {text : Text}
    (starts : StartsToken text)
    (rest : Text) :
    StartsToken (text ++ rest) := by
  obtain ⟨point, later, rfl, token⟩ := starts
  exact ⟨point, later ++ rest, rfl, token⟩

theorem StartsToken.skipBlanks_eq
    {text : Text}
    (starts : StartsToken text) :
    skipBlanks text = text := by
  obtain ⟨point, later, rfl, token, _⟩ := starts
  exact skipBlanks_cons token later

theorem StartsToken.length_pos
    {text : Text}
    (starts : StartsToken text) :
    0 < text.length := by
  obtain ⟨point, later, rfl, _⟩ := starts
  exact Nat.succ_pos later.length

/-- Blanks do not go on with a part of a number. -/
theorem endsNumber_blank
    {blanks : Text}
    (blank : Blank blanks) :
    EndsNumber blanks := by
  intro first isFirst
  have isBlank := blank first (List.mem_of_mem_head? isFirst)
  simp only [Json.isBlank, Bool.or_eq_true, beq_iff_eq] at isBlank
  rcases isBlank with ((rfl | rfl) | rfl) | rfl <;> decide

/-- A number ends before blanks and a closing bracket. -/
theorem endsNumber_of_blank
    {blanks : Text}
    (blank : Blank blanks)
    {closing : CodePoint}
    (bracket : closing = 0x5d ∨ closing = 0x7d)
    (rest : Text) :
    EndsNumber (blanks ++ closing :: rest) := by
  cases blanks with
  | nil =>
      rintro _ ⟨⟩
      rcases bracket with rfl | rfl <;> decide
  | cons first blanks =>
      rintro _ ⟨⟩
      exact endsNumber_blank blank first rfl

theorem Layout.endsNumber_separator
    (layout : Layout)
    (depth : Nat)
    (rest : Text) :
    EndsNumber (layout.separator depth ++ rest) := by
  obtain ⟨blanks, _, comma⟩ := layout.exists_separator_eq depth
  rw [comma]
  rintro _ ⟨⟩
  decide

/-! ## Parts -/

/-- Items are written one by one. -/
theorem writeItems_cons_eq_ok_iff
    {layout : Layout}
    {depth : Nat}
    {item : Json}
    {items : List Json}
    {parts : List Text} :
    writeItems layout depth (item :: items) = .ok parts ↔
      ∃ part others,
        writeAt layout depth item = .ok part ∧
          writeItems layout depth items = .ok others ∧
            parts = part :: others := by
  simp only [writeItems, Outcome.bind_eq_ok_iff, pure, Except.pure,
    Except.ok.injEq]
  grind

/-- Fields are written one by one. -/
theorem writeFields_cons_eq_ok_iff
    {layout : Layout}
    {depth : Nat}
    {name : Text}
    {value : Json}
    {fields : List (Text × Json)}
    {parts : List Text} :
    writeFields layout depth ((name, value) :: fields) = .ok parts ↔
      ∃ part others,
        writeAt layout depth value = .ok part ∧
          writeFields layout depth fields = .ok others ∧
            parts = (writeString name ++ ": " ++ part) :: others := by
  simp only [writeFields, Outcome.bind_eq_ok_iff, pure, Except.pure,
    Except.ok.injEq]
  grind

private theorem exists_writeFields_iff
    {layout : Layout}
    {depth : Nat}
    {fields : List (Text × Json)} :
    (∃ parts, writeFields layout depth fields = .ok parts) ↔
      ∀ field ∈ fields, ∃ part, writeAt layout depth field.2 = .ok part := by
  induction fields with
  | nil =>
      simp [writeFields]
  | cons field fields inductionHypothesis =>
      rw [List.forall_mem_cons, ← inductionHypothesis]
      constructor
      · rintro ⟨_, wrote⟩
        obtain ⟨part, others, wrotePart, wroteOthers, _⟩ :=
          writeFields_cons_eq_ok_iff.mp wrote
        exact ⟨⟨part, wrotePart⟩, others, wroteOthers⟩
      · rintro ⟨⟨part, wrotePart⟩, others, wroteOthers⟩
        exact
          ⟨_, writeFields_cons_eq_ok_iff.mpr
            ⟨part, others, wrotePart, wroteOthers, rfl⟩⟩

/-- An object is written if the values of all its fields are. -/
theorem exists_writeAt_object_iff
    {layout : Layout}
    {depth : Nat}
    {fields : List (Text × Json)} :
    (∃ text, writeAt layout depth (.object fields) = .ok text) ↔
      ∀ field ∈ fields,
        ∃ part, writeAt layout (depth + 1) field.2 = .ok part := by
  rw [← exists_writeFields_iff, writeAt]
  constructor
  · rintro ⟨_, wrote⟩
    obtain ⟨parts, wroteParts, _⟩ := Outcome.bind_eq_ok_iff.mp wrote
    exact ⟨parts, wroteParts⟩
  · rintro ⟨parts, wroteParts⟩
    exact ⟨_, Outcome.bind_eq_ok_iff.mpr ⟨parts, wroteParts, rfl⟩⟩

theorem startsToken_join
    (separator : Text)
    {part : Text}
    (starts : StartsToken part)
    (others : List Text) :
    StartsToken (Text.join separator (part :: others)) := by
  cases others with
  | nil =>
      exact starts
  | cons next others =>
      rw [Text.join_cons_cons]
      exact starts.append _

/-- How parts stand between their brackets. -/
theorem Layout.enclose_cons_append
    (layout : Layout)
    (depth : Nat)
    (opening closing : CodePoint)
    (part : Text)
    (others : List Text)
    (rest : Text) :
    layout.enclose depth opening closing (part :: others) ++ rest =
      opening ::
        (layout.edge (depth + 1) ++
          (Text.join (layout.separator (depth + 1)) (part :: others) ++
            (layout.edge depth ++ closing :: rest))) := by
  simp only [enclose, List.cons_append, List.append_assoc, List.nil_append]

/-- Parts are shorter than what is written for them with their brackets. -/
theorem Layout.length_join_lt
    (layout : Layout)
    (depth : Nat)
    (opening closing : CodePoint)
    (part : Text)
    (others : List Text) :
    (Text.join (layout.separator (depth + 1)) (part :: others)).length + 1 <
      (layout.enclose depth opening closing (part :: others)).length := by
  simp only [enclose, List.length_append, List.length_cons, List.length_nil]
  omega

theorem Layout.startsToken_enclose
    (layout : Layout)
    (depth : Nat)
    {opening : CodePoint}
    (token :
      isBlank opening = false ∧ opening ≠ 0x5d ∧ opening ≠ 0x7d)
    (closing : CodePoint)
    (parts : List Text) :
    StartsToken (layout.enclose depth opening closing parts) := by
  cases parts with
  | nil =>
      exact ⟨opening, _, rfl, token⟩
  | cons part parts =>
      exact ⟨opening, _, rfl, token⟩

theorem startsToken_ofInt (number : Int) :
    StartsToken (Numeral.ofInt number) := by
  obtain ⟨digit, later, isDigit, unsigned | negative⟩ :=
    exists_ofInt_eq number
  · have other
        {point : CodePoint}
        (noDigit : point.isDigit = false) :
        digit ≠ point :=
      CodePoint.ne_of_isDigit isDigit noDigit
    refine
      ⟨digit, later, unsigned, ?_, other (by decide), other (by decide)⟩
    simp only [isBlank, Bool.or_eq_false_iff, beq_eq_false_iff_ne]
    exact
      ⟨⟨⟨other (by decide), other (by decide)⟩, other (by decide)⟩,
        other (by decide)⟩
  · exact ⟨0x2d, digit :: later, negative, by decide⟩

/-- What is written for a value starts a token. -/
theorem startsToken_writeAt
    {layout : Layout}
    {depth : Nat}
    {value : Json}
    {written : Text}
    (recoverable : value.Recoverable)
    (wrote : writeAt layout depth value = .ok written) :
    StartsToken written := by
  cases value with
  | null =>
      cases wrote
      exact ⟨0x6e, _, rfl, by decide⟩
  | boolean value =>
      cases wrote
      cases value with
      | false =>
          exact ⟨0x66, _, rfl, by decide⟩
      | true =>
          exact ⟨0x74, _, rfl, by decide⟩
  | integer number =>
      obtain ⟨_, rfl⟩ := Numeral.write_eq_ok_iff.mp wrote
      exact startsToken_ofInt number
  | real text =>
      exact recoverable.elim
  | string text =>
      cases wrote
      exact ⟨0x22, _, rfl, by decide⟩
  | array items =>
      obtain ⟨parts, _, same⟩ := Outcome.bind_eq_ok_iff.mp wrote
      cases same
      exact layout.startsToken_enclose depth (by decide) _ _
  | object fields =>
      obtain ⟨parts, _, same⟩ := Outcome.bind_eq_ok_iff.mp wrote
      cases same
      exact layout.startsToken_enclose depth (by decide) _ _

theorem startsToken_writeString (text : Text) :
    StartsToken (writeString text) :=
  ⟨0x22, _, rfl, by decide⟩

end Json

end Tolerance
