import Tolerance.Proofs.Json.Tokens
import Tolerance.Proofs.Outcome

namespace Tolerance.Json

/-!
# The line endings of a JSON text

A line ending stands between the tokens of a JSON text or nowhere, and there one
is as good as another.  So a text holds the same value however its lines end.
-/

open Text

/-! ## Values -/

variable {fuel room : Nat} {text rest : Text}

private theorem readValue_closed_object
    {after : Text}
    (closed : skipBlanks rest = 0x7d :: after) :
    readValue (fuel + 1) (room + 1) (0x7b :: rest) = .ok (.object [], after) := by
  rw [readValue, if_neg (by decide), if_pos rfl]
  simp only [enter, closed]

private theorem readValue_open_object
    (notClosed : ¬∃ after, skipBlanks rest = 0x7d :: after) :
    readValue (fuel + 1) (room + 1) (0x7b :: rest) =
      match readFields fuel room [] (skipBlanks rest) with
      | .ok (fields, after) => .ok (.object fields, after)
      | .error stop => .error stop := by
  rw [readValue, if_neg (by decide), if_pos rfl]
  dsimp only [enter]
  split
  · next closed => exact (notClosed ⟨_, closed⟩).elim
  · rfl

private theorem readValue_closed_array
    {after : Text}
    (closed : skipBlanks rest = 0x5d :: after) :
    readValue (fuel + 1) (room + 1) (0x5b :: rest) = .ok (.array [], after) := by
  rw [readValue, if_neg (by decide), if_neg (by decide), if_pos rfl]
  simp only [enter, closed]

private theorem readValue_open_array
    (notClosed : ¬∃ after, skipBlanks rest = 0x5d :: after) :
    readValue (fuel + 1) (room + 1) (0x5b :: rest) =
      match readItems fuel room (skipBlanks rest) with
      | .ok (items, after) => .ok (.array items, after)
      | .error stop => .error stop := by
  rw [readValue, if_neg (by decide), if_neg (by decide), if_pos rfl]
  dsimp only [enter]
  split
  · next closed => exact (notClosed ⟨_, closed⟩).elim
  · rfl

/-- An object is read alike if its fields are. -/
private theorem alike_object
    (fields :
      ∀ room before text,
        Alike (readFields fuel room before text)
          (readFields fuel room before text.unifyLineEndings))
    (room : Nat)
    (rest : Text) :
    Alike (readValue (fuel + 1) room (0x7b :: rest))
      (readValue (fuel + 1) room (0x7b :: unifyLineEndings rest)) := by
  cases room with
  | zero =>
      exact .neither _ _ (.same _)
  | succ inner =>
      by_cases closed : ∃ after, skipBlanks rest = 0x7d :: after
      · obtain ⟨after, closed⟩ := closed
        rw [readValue_closed_object closed,
          readValue_closed_object
            (skipBlanks_unifyLineEndings_eq_cons (by decide) closed)]
        exact .both _ _
      · have notClosed := noToken_unifyLineEndings (by decide) closed
        rw [readValue_open_object closed, readValue_open_object notClosed,
          skipBlanks_unifyLineEndings]
        have inside := fields inner [] (skipBlanks rest)
        exact inside.elim (fun _ _ => .both _ _) fun _ _ => .neither _ _

/-- An array is read alike if its items are. -/
private theorem alike_array
    (items :
      ∀ room text,
        Alike (readItems fuel room text)
          (readItems fuel room text.unifyLineEndings))
    (room : Nat)
    (rest : Text) :
    Alike (readValue (fuel + 1) room (0x5b :: rest))
      (readValue (fuel + 1) room (0x5b :: unifyLineEndings rest)) := by
  cases room with
  | zero =>
      exact .neither _ _ (.same _)
  | succ inner =>
      by_cases closed : ∃ after, skipBlanks rest = 0x5d :: after
      · obtain ⟨after, closed⟩ := closed
        rw [readValue_closed_array closed,
          readValue_closed_array
            (skipBlanks_unifyLineEndings_eq_cons (by decide) closed)]
        exact .both _ _
      · have notClosed := noToken_unifyLineEndings (by decide) closed
        rw [readValue_open_array closed, readValue_open_array notClosed,
          skipBlanks_unifyLineEndings]
        have inside := items inner (skipBlanks rest)
        exact inside.elim (fun _ _ => .both _ _) fun _ _ => .neither _ _

/-- A value is read alike if the parts inside of it are. -/
private theorem alike_readValue_succ
    (items :
      ∀ room text,
        Alike (readItems fuel room text)
          (readItems fuel room text.unifyLineEndings))
    (fields :
      ∀ room before text,
        Alike (readFields fuel room before text)
          (readFields fuel room before text.unifyLineEndings))
    (room : Nat)
    (text : Text) :
    Alike (readValue (fuel + 1) room text)
      (readValue (fuel + 1) room text.unifyLineEndings) := by
  rcases text with _ | ⟨point, rest⟩
  · exact .faults _ _ _ _
  have scalar := alike_readScalar (point :: rest)
  by_cases isReturn : point = 0x0d
  · subst isReturn
    obtain ⟨later, unified⟩ := exists_unifyLineEndings_return rest
    rw [unified] at scalar ⊢
    exact scalar
  rw [unifyLineEndings_cons isReturn] at scalar ⊢
  by_cases brace : point = 0x7b
  · subst brace
    exact alike_object fields room rest
  by_cases bracket : point = 0x5b
  · subst bracket
    exact alike_array items room rest
  rw [readValue, readValue]
  simp only [if_neg brace, if_neg bracket]
  split
  · have string :=
      alike_readString (point :: rest) (point :: unifyLineEndings rest) rest
    exact string.elim (fun _ _ => .both _ _) fun _ _ => .neither _ _
  · exact scalar

/--
What stands behind a part of a container whichever way the lines end: the end of
the container, a comma, or neither of them.
-/
private inductive Behind (closing : CodePoint) (text : Text) : Prop where
  | closed
      (after : Text)
      (here : skipBlanks text = closing :: after)
      (unified :
        skipBlanks text.unifyLineEndings = closing :: unifyLineEndings after)
  | comma
      (next : Text)
      (here : skipBlanks text = 0x2c :: next)
      (unified :
        skipBlanks text.unifyLineEndings = 0x2c :: unifyLineEndings next)
  | neither
      (notClosed : ¬∃ after, skipBlanks text = closing :: after)
      (noComma : ¬∃ next, skipBlanks text = 0x2c :: next)
      (notClosedUnified :
        ¬∃ after, skipBlanks text.unifyLineEndings = closing :: after)
      (noCommaUnified :
        ¬∃ next, skipBlanks text.unifyLineEndings = 0x2c :: next)

private theorem behind_cases
    {closing : CodePoint}
    (notReturn : closing ≠ 0x0d)
    (notFeed : closing ≠ 0x0a)
    (text : Text) :
    Behind closing text := by
  by_cases closed : ∃ after, skipBlanks text = closing :: after
  · obtain ⟨after, here⟩ := closed
    exact
      .closed after here (skipBlanks_unifyLineEndings_eq_cons notReturn here)
  by_cases comma : ∃ next, skipBlanks text = 0x2c :: next
  · obtain ⟨next, here⟩ := comma
    exact .comma next here (skipBlanks_unifyLineEndings_eq_cons (by decide) here)
  · exact
      .neither closed comma (noToken_unifyLineEndings notFeed closed)
        (noToken_unifyLineEndings (by decide) comma)

private theorem alike_readItems_succ
    (values :
      ∀ room text,
        Alike (readValue fuel room text)
          (readValue fuel room text.unifyLineEndings))
    (items :
      ∀ room text,
        Alike (readItems fuel room text)
          (readItems fuel room text.unifyLineEndings))
    (room : Nat)
    (text : Text) :
    Alike (readItems (fuel + 1) room text)
      (readItems (fuel + 1) room text.unifyLineEndings) := by
  rw [readItems, readItems]
  have value := values room text
  generalize readValue fuel room text = reading at value ⊢
  generalize readValue fuel room _ = unified at value ⊢
  cases value with
  | neither stop otherStop sameKind =>
      exact .neither _ _ sameKind
  | both item afterItem =>
      dsimp only
      have behind : Behind 0x5d afterItem :=
        behind_cases (by decide) (by decide) afterItem
      cases behind with
      | closed after here unified =>
          rw [here, unified]
          exact .both _ _
      | comma next here unified =>
          simp only [here, unified, skipBlanks_unifyLineEndings]
          have others := items room (skipBlanks next)
          exact others.elim (fun _ _ => .both _ _) fun _ _ => .neither _ _
      | neither notClosed noComma notClosedUnified noCommaUnified =>
          split
          · next here => exact (notClosed ⟨_, here⟩).elim
          · next here => exact (noComma ⟨_, here⟩).elim
          split
          · next here => exact (notClosedUnified ⟨_, here⟩).elim
          · next here => exact (noCommaUnified ⟨_, here⟩).elim
          exact .faults _ _ _ _

/-- Read on behind the value of a field; `fields` are all that have been read. -/
private def readBehindField
    (fuel room : Nat)
    (fields : List (Text × Json))
    (text : Text) :
    Reading (List (Text × Json)) :=
  match skipBlanks text with
  | 0x7d :: after => .ok (fields, after)
  | 0x2c :: next => readFields fuel room fields (skipBlanks next)
  | other => .error (.fault .expectingComma other)

/-- Read a field behind its name, and those that follow it. -/
private def readBehindName
    (fuel room : Nat)
    (before : List (Text × Json))
    (name text : Text) :
    Reading (List (Text × Json)) :=
  match skipBlanks text with
  | 0x3a :: afterColon =>
      match readValue fuel room (skipBlanks afterColon) with
      | .error stop => .error stop
      | .ok (value, afterValue) =>
          readBehindField fuel room (setField name value before) afterValue
  | other => .error (.fault .expectingColon other)

private theorem readFields_quoted
    (before : List (Text × Json))
    (rest : Text) :
    readFields (fuel + 1) room before (0x22 :: rest) =
      match readString (0x22 :: rest) 0 rest with
      | .error stop => .error stop
      | .ok (name, afterName) =>
          readBehindName fuel room before name afterName := by
  rw [readFields]
  rfl

private theorem readFields_unquoted
    (before : List (Text × Json))
    (unquoted : ¬∃ rest, text = 0x22 :: rest) :
    readFields (fuel + 1) room before text =
      .error (.fault .expectingFieldName text) := by
  unfold readFields
  split
  · exact (unquoted ⟨_, rfl⟩).elim
  · rfl

private theorem alike_readBehindField
    (fields :
      ∀ room before text,
        Alike (readFields fuel room before text)
          (readFields fuel room before text.unifyLineEndings))
    (room : Nat)
    (known : List (Text × Json))
    (text : Text) :
    Alike (readBehindField fuel room known text)
      (readBehindField fuel room known text.unifyLineEndings) := by
  unfold readBehindField
  have behind : Behind 0x7d text := behind_cases (by decide) (by decide) text
  cases behind with
  | closed after here unified =>
      rw [here, unified]
      exact .both _ _
  | comma next here unified =>
      simp only [here, unified, skipBlanks_unifyLineEndings]
      exact fields room known (skipBlanks next)
  | neither notClosed noComma notClosedUnified noCommaUnified =>
      split
      · next here => exact (notClosed ⟨_, here⟩).elim
      · next here => exact (noComma ⟨_, here⟩).elim
      split
      · next here => exact (notClosedUnified ⟨_, here⟩).elim
      · next here => exact (noCommaUnified ⟨_, here⟩).elim
      exact .faults _ _ _ _

private theorem alike_readBehindName
    (values :
      ∀ room text,
        Alike (readValue fuel room text)
          (readValue fuel room text.unifyLineEndings))
    (fields :
      ∀ room before text,
        Alike (readFields fuel room before text)
          (readFields fuel room before text.unifyLineEndings))
    (room : Nat)
    (before : List (Text × Json))
    (name text : Text) :
    Alike (readBehindName fuel room before name text)
      (readBehindName fuel room before name text.unifyLineEndings) := by
  unfold readBehindName
  by_cases colon : ∃ afterColon, skipBlanks text = 0x3a :: afterColon
  · obtain ⟨afterColon, here⟩ := colon
    have unified := skipBlanks_unifyLineEndings_eq_cons (by decide) here
    simp only [here, unified, skipBlanks_unifyLineEndings]
    have value := values room (skipBlanks afterColon)
    refine value.elim (fun held afterValue => ?_) fun _ _ => .neither _ _
    exact alike_readBehindField fields room (setField name held before) afterValue
  · have noColon := noToken_unifyLineEndings (by decide) colon
    split
    · next here => exact (colon ⟨_, here⟩).elim
    split
    · next here => exact (noColon ⟨_, here⟩).elim
    exact .faults _ _ _ _

private theorem alike_readFields_succ
    (values :
      ∀ room text,
        Alike (readValue fuel room text)
          (readValue fuel room text.unifyLineEndings))
    (fields :
      ∀ room before text,
        Alike (readFields fuel room before text)
          (readFields fuel room before text.unifyLineEndings))
    (room : Nat)
    (before : List (Text × Json))
    (text : Text) :
    Alike (readFields (fuel + 1) room before text)
      (readFields (fuel + 1) room before text.unifyLineEndings) := by
  by_cases quoted : ∃ rest, text = 0x22 :: rest
  · obtain ⟨rest, rfl⟩ := quoted
    rw [unifyLineEndings_cons (by decide), readFields_quoted, readFields_quoted]
    have string :=
      alike_readString (0x22 :: rest) (0x22 :: unifyLineEndings rest) rest
    refine string.elim (fun name afterName => ?_) fun _ _ => .neither _ _
    exact alike_readBehindName values fields room before name afterName
  · have unquoted : ¬∃ rest, text.unifyLineEndings = 0x22 :: rest := by
      rintro ⟨later, unified⟩
      obtain ⟨rest, same, _⟩ :=
        exists_eq_cons_of_unifyLineEndings (by decide) unified
      exact quoted ⟨rest, same⟩
    rw [readFields_unquoted before quoted, readFields_unquoted before unquoted]
    exact .faults _ _ _ _

/-- Whatever is read of a value, an array or an object is read alike. -/
theorem alike_read (fuel : Nat) :
    (∀ room text,
      Alike (readValue fuel room text)
        (readValue fuel room text.unifyLineEndings)) ∧
      (∀ room text,
        Alike (readItems fuel room text)
          (readItems fuel room text.unifyLineEndings)) ∧
        ∀ room before text,
          Alike (readFields fuel room before text)
            (readFields fuel room before text.unifyLineEndings) := by
  induction fuel with
  | zero =>
      exact
        ⟨fun _ _ => .faults _ _ _ _, fun _ _ => .faults _ _ _ _,
          fun _ _ _ => .faults _ _ _ _⟩
  | succ fuel inductionHypothesis =>
      obtain ⟨values, items, fields⟩ := inductionHypothesis
      exact
        ⟨alike_readValue_succ items fields, alike_readItems_succ values items,
          alike_readFields_succ values fields⟩

/-! ## Documents -/

/-- A document without a mark is one value and nothing behind it but blanks. -/
private theorem readDocument_eq
    (noMark : ¬∃ rest, text = 0xfeff :: rest)
    (room : Nat) :
    readDocument room text =
      match readValue (stepBound text) room (skipBlanks text) with
      | .error stop => .error stop
      | .ok (value, after) =>
          match skipBlanks after with
          | [] => .ok value
          | other => .error (.fault .extraData other) := by
  unfold readDocument
  split
  · exact (noMark ⟨_, rfl⟩).elim
  · rfl

/-- A document is read alike whichever way its lines end. -/
theorem agree_readDocument (room : Nat) (text : Text) :
    Outcome.Agree Stop.SameKind (readDocument room text)
      (readDocument room text.unifyLineEndings) := by
  by_cases mark : ∃ rest, text = 0xfeff :: rest
  · obtain ⟨rest, rfl⟩ := mark
    rw [unifyLineEndings_cons (by decide)]
    exact .failure _ _ (.faults _ _ _ _)
  have noMark : ¬∃ rest, text.unifyLineEndings = 0xfeff :: rest := by
    rintro ⟨later, unified⟩
    obtain ⟨rest, same, _⟩ :=
      exists_eq_cons_of_unifyLineEndings (by decide) unified
    exact mark ⟨rest, same⟩
  have enough : stepBound text.unifyLineEndings ≤ stepBound text := by
    have shorter := length_unifyLineEndings_le text
    simp only [stepBound]
    omega
  have alike := (alike_read (stepBound text)).1 room (skipBlanks text)
  rw [readDocument_eq mark, readDocument_eq noMark, ← readValue_stepBound enough,
    skipBlanks_unifyLineEndings]
  generalize readValue (stepBound text) _ (skipBlanks text) = reading at alike ⊢
  generalize readValue (stepBound text) _ _ = unified at alike ⊢
  cases alike with
  | neither stop otherStop sameKind =>
      exact .failure _ _ sameKind
  | both held after =>
      dsimp only
      rw [skipBlanks_unifyLineEndings]
      cases behind : skipBlanks after with
      | nil =>
          exact .value held
      | cons point later =>
          have something := mt unifyLineEndings_eq_nil_iff.mp
            (List.cons_ne_nil point later)
          obtain ⟨first, others, unified⟩ :=
            List.exists_cons_of_ne_nil something
          rw [unified]
          exact .failure _ _ (.faults _ _ _ _)

/-- Two refusals of one kind; only malformed texts may differ, in what is wrong and where. -/
inductive ReadError.SameKind : ReadError → ReadError → Prop where
  | malformed (fault : Fault) (place : Place) (other : Fault) (otherPlace : Place) :
      SameKind (.malformed fault place) (.malformed other otherPlace)
  | same (error : ReadError) : SameKind error error

/-- A JSON text is read alike whichever way its lines end. -/
theorem agree_parse (room : Nat) (text : Text) :
    Outcome.Agree ReadError.SameKind (parse text room)
      (parse text.unifyLineEndings room) := by
  have agree := agree_readDocument room text
  unfold parse
  generalize readDocument room text = reading at agree ⊢
  generalize readDocument room text.unifyLineEndings = unified at agree ⊢
  cases agree with
  | value held =>
      exact .value held
  | failure stop other sameKind =>
      cases sameKind with
      | faults fault rest other otherRest =>
          exact .failure _ _ (.malformed _ _ _ _)
      | same stop =>
          cases stop with
          | fault fault rest => exact .failure _ _ (.malformed _ _ _ _)
          | numeral fault => exact .failure _ _ (.same _)
          | tooDeep container => exact .failure _ _ (.same _)

/-- A JSON text holds the same value whichever way its lines end. -/
theorem parse_unifyLineEndings_eq_ok_iff
    {room : Nat}
    {value : Json} :
    parse text.unifyLineEndings room = .ok value ↔ parse text room = .ok value :=
  (agree_parse room text).eq_ok_iff

/-- Line endings open no container. -/
theorem openings_unifyLineEndings (text : Text) :
    openings text.unifyLineEndings = openings text := by
  induction text using unifyLineEndings.induct with
  | case1 => rfl
  | case2 rest inductionHypothesis =>
      simpa [unifyLineEndings, openings] using inductionHypothesis
  | case3 rest notFeed inductionHypothesis =>
      simpa [unifyLineEndings.eq_3 rest notFeed, openings] using
        inductionHypothesis
  | case4 point rest _ notReturn inductionHypothesis =>
      simpa [unifyLineEndings_cons notReturn, openings, List.countP_cons] using
        inductionHypothesis

end Tolerance.Json
