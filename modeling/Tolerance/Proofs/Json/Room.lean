import Tolerance.Proofs.Json.Limits

namespace Tolerance.Json

/-!
# Room for nested containers

With more room a text is read as it is with less, unless there it was refused
for a container that is too deep.  The text that tells two rooms apart is a row
of brackets, one more than fit into the smaller one.
-/

/-! ## More room -/

/-- What comes of less room comes of more room too, unless something is too deep for less. -/
def TooDeepOrSame {α : Type} (less more : Except Stop α) : Prop :=
  (∃ container, less = .error (.tooDeep container)) ∨ more = less

/-- What holds of something too deep and anything, and of anything twice, holds of both. -/
@[elab_as_elim]
theorem TooDeepOrSame.elim
    {α : Type}
    {motive : Except Stop α → Except Stop α → Prop}
    {less more : Except Stop α}
    (related : TooDeepOrSame less more)
    (tooDeep : ∀ container more, motive (.error (.tooDeep container)) more)
    (same : ∀ read, motive read read) :
    motive less more := by
  rcases related with ⟨container, rfl⟩ | rfl
  · exact tooDeep container more
  · exact same more

variable {fuel : Nat}

private theorem tooDeepOrSame_readValue_succ
    (items :
      ∀ {room other} text,
        room ≤ other →
        TooDeepOrSame (readItems fuel room text) (readItems fuel other text))
    (fields :
      ∀ {room other} before text,
        room ≤ other →
        TooDeepOrSame (readFields fuel room before text)
          (readFields fuel other before text))
    {room other : Nat}
    (text : Text)
    (less : room ≤ other) :
    TooDeepOrSame (readValue (fuel + 1) room text)
      (readValue (fuel + 1) other text) := by
  rcases text with _ | ⟨point, rest⟩
  · exact Or.inr rfl
  cases room with
  | zero =>
      simp only [readValue]
      split_ifs
      · exact Or.inr rfl
      · exact Or.inl ⟨.object, rfl⟩
      · exact Or.inl ⟨.array, rfl⟩
      · exact Or.inr rfl
  | succ inner =>
      obtain ⟨otherInner, rfl⟩ := Nat.exists_eq_add_of_lt less
      simp only [readValue, enter]
      generalize skipBlanks rest = inside
      split_ifs
      · exact Or.inr rfl
      · split
        · exact Or.inr rfl
        · exact
            (fields [] inside (Nat.le_add_right inner otherInner)).elim
              (fun container _ => Or.inl ⟨container, rfl⟩) fun _ => Or.inr rfl
      · split
        · exact Or.inr rfl
        · exact
            (items inside (Nat.le_add_right inner otherInner)).elim
              (fun container _ => Or.inl ⟨container, rfl⟩) fun _ => Or.inr rfl
      · exact Or.inr rfl

private theorem tooDeepOrSame_readItems_succ
    (values :
      ∀ {room other} text,
        room ≤ other →
        TooDeepOrSame (readValue fuel room text) (readValue fuel other text))
    (items :
      ∀ {room other} text,
        room ≤ other →
        TooDeepOrSame (readItems fuel room text) (readItems fuel other text))
    {room other : Nat}
    (text : Text)
    (less : room ≤ other) :
    TooDeepOrSame (readItems (fuel + 1) room text)
      (readItems (fuel + 1) other text) := by
  rw [readItems, readItems]
  refine
    (values text less).elim (fun container _ => Or.inl ⟨container, rfl⟩) fun read => ?_
  split
  · exact Or.inr rfl
  split
  · exact Or.inr rfl
  · next following _ =>
      exact
        (items (skipBlanks following) less).elim
          (fun container _ => Or.inl ⟨container, rfl⟩) fun _ => Or.inr rfl
  · exact Or.inr rfl

private theorem tooDeepOrSame_readFields_succ
    (values :
      ∀ {room other} text,
        room ≤ other →
        TooDeepOrSame (readValue fuel room text) (readValue fuel other text))
    (fields :
      ∀ {room other} before text,
        room ≤ other →
        TooDeepOrSame (readFields fuel room before text)
          (readFields fuel other before text))
    {room other : Nat}
    (before : List (Text × Json))
    (text : Text)
    (less : room ≤ other) :
    TooDeepOrSame (readFields (fuel + 1) room before text)
      (readFields (fuel + 1) other before text) := by
  unfold readFields
  split
  · split
    · exact Or.inr rfl
    split
    · next afterColon _ =>
        refine
          (values (skipBlanks afterColon) less).elim
            (fun container _ => Or.inl ⟨container, rfl⟩) fun read => ?_
        split
        · exact Or.inr rfl
        split
        · exact Or.inr rfl
        · exact fields _ _ less
        · exact Or.inr rfl
    · exact Or.inr rfl
  · exact Or.inr rfl

/-- Whatever is read of a value, an array or an object is read with more room, or too deep. -/
theorem tooDeepOrSame_read (fuel : Nat) :
    (∀ {room other} text,
      room ≤ other →
      TooDeepOrSame (readValue fuel room text) (readValue fuel other text)) ∧
      (∀ {room other} text,
        room ≤ other →
        TooDeepOrSame (readItems fuel room text) (readItems fuel other text)) ∧
        ∀ {room other} before text,
          room ≤ other →
          TooDeepOrSame (readFields fuel room before text)
            (readFields fuel other before text) := by
  induction fuel with
  | zero =>
      exact
        ⟨fun _ _ => Or.inr rfl, fun _ _ => Or.inr rfl, fun _ _ _ => Or.inr rfl⟩
  | succ fuel inductionHypothesis =>
      obtain ⟨values, items, fields⟩ := inductionHypothesis
      exact
        ⟨tooDeepOrSame_readValue_succ items fields,
          tooDeepOrSame_readItems_succ values items,
          tooDeepOrSame_readFields_succ values fields⟩

theorem tooDeepOrSame_readDocument
    {room other : Nat}
    (less : room ≤ other)
    (text : Text) :
    TooDeepOrSame (readDocument room text) (readDocument other text) := by
  unfold readDocument
  split
  · exact Or.inr rfl
  · exact
      ((tooDeepOrSame_read (stepBound text)).1 (skipBlanks text) less).elim
        (fun container _ => Or.inl ⟨container, rfl⟩) fun _ => Or.inr rfl

/-- With more room a text is read in the same way, unless it is too deep for less. -/
theorem parse_of_le
    {room other : Nat}
    (less : room ≤ other)
    (text : Text) :
    (∃ container, parse text room = .error (.tooDeep container)) ∨
      parse text other = parse text room := by
  unfold parse
  rcases tooDeepOrSame_readDocument less text with ⟨container, deep⟩ | same
  · rw [deep]
    exact Or.inl ⟨container, rfl⟩
  · rw [same]
    exact Or.inr rfl

/-! ## A row of brackets -/

/-- A row of opening brackets. -/
def brackets (count : Nat) : Text :=
  List.replicate count 0x5b

theorem brackets_succ (count : Nat) :
    brackets (count + 1) = 0x5b :: brackets count :=
  rfl

theorem skipBlanks_brackets (count : Nat) :
    skipBlanks (brackets count) = brackets count := by
  cases count <;> rfl

/--
Brackets that are never closed are read to the end if there is room for all of
them, and otherwise up to the first for which there is none.
-/
theorem readValue_brackets
    {count fuel : Nat}
    (enough : 2 * count < fuel)
    (room : Nat) :
    readValue fuel room (brackets count) =
      if count ≤ room then
        .error (.fault .expectingValue [])
      else
        .error (.tooDeep .array) := by
  induction count generalizing fuel room with
  | zero =>
      obtain ⟨fuel, rfl⟩ := Nat.exists_eq_add_of_lt enough
      rfl
  | succ count inductionHypothesis =>
      obtain ⟨fuel, rfl⟩ : ∃ rest, fuel = rest + 2 := ⟨fuel - 2, by omega⟩
      cases room with
      | zero => rfl
      | succ inner =>
          have behind := inductionHypothesis (show 2 * count < fuel by omega) inner
          have noClosing (after : Text) : brackets count ≠ 0x5d :: after := by
            cases count <;> simp [brackets, List.replicate_succ]
          rw [brackets_succ, readValue, if_neg (by decide), if_neg (by decide),
            if_pos rfl, enter, skipBlanks_brackets]
          dsimp only
          split
          · next closed => exact absurd closed (noClosing _)
          rw [readItems, behind]
          by_cases fits : count ≤ inner
          · rw [if_pos fits, if_pos (Nat.succ_le_succ fits)]
          · rw [if_neg fits, if_neg (fun le => fits (Nat.le_of_succ_le_succ le))]

theorem readDocument_brackets
    (count room : Nat) :
    readDocument room (brackets count) =
      if count ≤ room then
        .error (.fault .expectingValue [])
      else
        .error (.tooDeep .array) := by
  have enough : 2 * count < stepBound (brackets count) := by
    rw [stepBound, brackets, List.length_replicate]
    omega
  have noMark (rest : Text) : brackets count ≠ 0xfeff :: rest := by
    cases count <;> simp [brackets, List.replicate_succ]
  unfold readDocument
  split
  · next marked => exact absurd marked (noMark _)
  rw [skipBlanks_brackets, readValue_brackets enough]
  by_cases fits : count ≤ room
  · rw [if_pos fits, if_pos fits]
  · rw [if_neg fits, if_neg fits]

/-- A row of brackets that there is room for is no JSON. -/
theorem parse_brackets_of_le
    {room count : Nat}
    (fits : count ≤ room) :
    parse (brackets count) room =
      .error (.malformed .expectingValue (Place.ofRest (brackets count) [])) := by
  rw [parse, readDocument_brackets, if_pos fits]

/-- A row of brackets that there is no room for is too deep. -/
theorem parse_brackets_of_lt
    {room count : Nat}
    (tooMany : room < count) :
    parse (brackets count) room = .error (.tooDeep .array) := by
  rw [parse, readDocument_brackets, if_neg (Nat.not_le_of_lt tooMany)]

end Tolerance.Json
