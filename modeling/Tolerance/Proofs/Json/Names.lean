import Tolerance.Json.Reader
import Tolerance.Proofs.OrderedMap

namespace Tolerance.Json

/-!
# No name twice in an object

A text can name a field of an object more than once.  In the value that is read
of it the field stands once, with what was written last, and this holds of every
object in the value, however deep it stands.
-/

/-- No object in a value, nor the value itself, has two fields of one name. -/
inductive NamesDistinct : Json → Prop where
  | null : NamesDistinct .null
  | boolean (value : Bool) : NamesDistinct (.boolean value)
  | integer (value : Int) : NamesDistinct (.integer value)
  | real (written : Text) : NamesDistinct (.real written)
  | string (value : Text) : NamesDistinct (.string value)
  | array
      {items : List Json}
      (inside : ∀ item ∈ items, NamesDistinct item) :
      NamesDistinct (.array items)
  | object
      {fields : List (Text × Json)}
      (distinct : (fields.map Prod.fst).Nodup)
      (inside : ∀ field ∈ fields, NamesDistinct field.2) :
      NamesDistinct (.object fields)

theorem namesDistinct_object_iff
    {fields : List (Text × Json)} :
    NamesDistinct (.object fields) ↔
      (fields.map Prod.fst).Nodup ∧ ∀ field ∈ fields, field.2.NamesDistinct := by
  constructor
  · intro named
    cases named with
    | object distinct inside => exact ⟨distinct, inside⟩
  · rintro ⟨distinct, inside⟩
    exact .object distinct inside

/-! ## Fields -/

/-- A field is given its value in an object as a key is in a map. -/
theorem setField_eq_put
    (name : Text)
    (value : Json)
    (fields : List (Text × Json)) :
    setField name value fields = OrderedMap.put name value fields := by
  induction fields with
  | nil =>
      rfl
  | cons field fields inductionHypothesis =>
      rw [setField, OrderedMap.put, inductionHypothesis]

/-- Giving a field a value changes this field only. -/
theorem field?_setField
    (name query : Text)
    (value : Json)
    (fields : List (Text × Json)) :
    field? query (setField name value fields) =
      if name = query then some value else field? query fields := by
  rw [field?, setField_eq_put, OrderedMap.find?_put]
  split <;> rfl

/-- A field of a new name goes last. -/
theorem setField_of_not_mem
    {name : Text}
    {fields : List (Text × Json)}
    (new : name ∉ fields.map Prod.fst)
    (value : Json) :
    setField name value fields = fields ++ [(name, value)] := by
  rw [setField_eq_put, OrderedMap.put_of_not_mem new]

private theorem mem_setField
    {name : Text}
    {value : Json}
    {fields : List (Text × Json)}
    {field : Text × Json}
    (member : field ∈ setField name value fields) :
    field = (name, value) ∨ field ∈ fields := by
  induction fields with
  | nil =>
      exact Or.inl (List.mem_singleton.mp member)
  | cons first later inductionHypothesis =>
      unfold setField at member
      split at member
      · rcases List.mem_cons.mp member with isNew | inLater
        · exact Or.inl isNew
        · exact Or.inr (List.mem_cons_of_mem first inLater)
      · rcases List.mem_cons.mp member with rfl | inLater
        · exact Or.inr List.mem_cons_self
        · exact (inductionHypothesis inLater).imp_right
            (List.mem_cons_of_mem first)

/-- A name is not there twice after its field was given a value. -/
theorem NamesDistinct.setField
    {value : Json}
    {fields : List (Text × Json)}
    (held : value.NamesDistinct)
    (name : Text)
    (before : NamesDistinct (.object fields)) :
    NamesDistinct (.object (setField name value fields)) := by
  obtain ⟨distinct, inside⟩ := namesDistinct_object_iff.mp before
  refine .object ?_ fun field member => ?_
  · rw [setField_eq_put]
    exact
      ((OrderedMap.mk fields distinct).insert name value).keysDistinct
  · rcases mem_setField member with rfl | wasThere
    · exact held
    · exact inside field wasThere

/-! ## Reading -/

private theorem namesDistinct_readNumber
    {text after : Text}
    {value : Json}
    (read : readNumber text = .ok (value, after)) :
    value.NamesDistinct := by
  unfold readNumber at read
  split at read
  next negative unsigned _ =>
  dsimp only at read
  split at read
  · cases read
  split at read
  · split at read
    · cases read
      exact .integer _
    · cases read
  · cases read
    exact .real _

private theorem namesDistinct_readScalar
    {text after : Text}
    {value : Json}
    (read : readScalar text = .ok (value, after)) :
    value.NamesDistinct := by
  unfold readScalar at read
  split at read
  · cases read
    exact .null
  iterate 2
    split at read
    · cases read
      exact .boolean _
  iterate 3
    split at read
    · cases read
      exact .real _
  exact namesDistinct_readNumber read

/-- A value has no name twice if the parts inside of it have none. -/
private theorem namesDistinct_readValue_succ
    {fuel : Nat}
    (items :
      ∀ {room text items after},
        readItems fuel room text = .ok (items, after) →
        NamesDistinct (.array items))
    (fields :
      ∀ {room before text fields after},
        NamesDistinct (.object before) →
        readFields fuel room before text = .ok (fields, after) →
        NamesDistinct (.object fields))
    {room : Nat}
    {text after : Text}
    {value : Json}
    (read : readValue (fuel + 1) room text = .ok (value, after)) :
    value.NamesDistinct := by
  have noFields : NamesDistinct (.object []) :=
    .object List.nodup_nil (List.forall_mem_nil _)
  rcases text with _ | ⟨point, rest⟩
  · cases read
  rw [readValue] at read
  split at read
  · split at read
    · cases read
      exact .string _
    · cases read
  split at read
  · split at read
    · cases read
    split at read
    · cases read
      exact noFields
    split at read
    · next inside =>
        cases read
        exact fields noFields inside
    · cases read
  split at read
  · split at read
    · cases read
    split at read
    · cases read
      exact .array (List.forall_mem_nil _)
    split at read
    · next inside =>
        cases read
        exact items inside
    · cases read
  · exact namesDistinct_readScalar read

private theorem namesDistinct_readItems_succ
    {fuel : Nat}
    (values :
      ∀ {room text value after},
        readValue fuel room text = .ok (value, after) →
        value.NamesDistinct)
    (items :
      ∀ {room text items after},
        readItems fuel room text = .ok (items, after) →
        NamesDistinct (.array items))
    {room : Nat}
    {text after : Text}
    {found : List Json}
    (read : readItems (fuel + 1) room text = .ok (found, after)) :
    NamesDistinct (.array found) := by
  rw [readItems] at read
  split at read
  · cases read
  next first afterFirst readFirst =>
  have firstDistinct := values readFirst
  split at read
  · cases read
    exact .array (by simpa using firstDistinct)
  · split at read
    · next readOthers =>
        cases read
        cases items readOthers with
        | array inside =>
            exact .array (List.forall_mem_cons.mpr ⟨firstDistinct, inside⟩)
    · cases read
  · cases read

private theorem namesDistinct_readFields_succ
    {fuel : Nat}
    (values :
      ∀ {room text value after},
        readValue fuel room text = .ok (value, after) →
        value.NamesDistinct)
    (fields :
      ∀ {room before text fields after},
        NamesDistinct (.object before) →
        readFields fuel room before text = .ok (fields, after) →
        NamesDistinct (.object fields))
    {room : Nat}
    {before found : List (Text × Json)}
    {text after : Text}
    (distinct : NamesDistinct (.object before))
    (read : readFields (fuel + 1) room before text = .ok (found, after)) :
    NamesDistinct (.object found) := by
  unfold readFields at read
  split at read
  · split at read
    · cases read
    next name _ _ =>
    split at read
    · split at read
      · cases read
      next readHeld =>
      have extended := (values readHeld).setField name distinct
      split at read
      · cases read
        exact extended
      · exact fields extended read
      · cases read
    · cases read
  · cases read

/-- Nothing that is read has a name twice, if the fields before it have none. -/
theorem namesDistinct_read (fuel : Nat) :
    (∀ {room text value after},
        readValue fuel room text = .ok (value, after) →
        value.NamesDistinct) ∧
      (∀ {room text items after},
          readItems fuel room text = .ok (items, after) →
          NamesDistinct (.array items)) ∧
        ∀ {room before text fields after},
          NamesDistinct (.object before) →
          readFields fuel room before text = .ok (fields, after) →
          NamesDistinct (.object fields) := by
  induction fuel with
  | zero =>
      exact ⟨nofun, nofun, fun _ => nofun⟩
  | succ fuel inductionHypothesis =>
      obtain ⟨values, items, fields⟩ := inductionHypothesis
      exact
        ⟨namesDistinct_readValue_succ items fields,
          namesDistinct_readItems_succ values items,
          namesDistinct_readFields_succ values fields⟩

/-- No object of a value that a text is read as has two fields of one name. -/
theorem namesDistinct_of_parse
    {text : Text}
    {room : Nat}
    {value : Json}
    (parsed : parse text room = .ok value) :
    value.NamesDistinct := by
  unfold parse at parsed
  split at parsed
  · next read =>
      cases parsed
      unfold readDocument at read
      split at read
      · cases read
      split at read
      · cases read
      next readWhole =>
      split at read
      · cases read
        exact (namesDistinct_read _).1 readWhole
      · cases read
  all_goals cases parsed

end Tolerance.Json
