import Tolerance.Proofs.Json.Names
import Tolerance.Proofs.Json.Plain

namespace Tolerance

/-!
# Written values are read back

A value is read back from its written form in either layout, whatever stands
behind it, if there is room for its nesting and the steps are as many as the
code points of its written form.
-/

namespace Json

/-! ## Steps of the reader -/

/-- What starts with neither a quote nor a bracket is a word or a number. -/
theorem readValue_of_readScalar
    {room : Nat}
    {text rest : Text}
    {value : Json}
    (scalar :
      ∀ point ∈ text.head?, point ≠ 0x22 ∧ point ≠ 0x7b ∧ point ≠ 0x5b)
    (read : readScalar text = .ok (value, rest))
    (fuel : Nat) :
    readValue (fuel + 1) room text = .ok (value, rest) := by
  cases text with
  | nil =>
      cases read
  | cons point later =>
      obtain ⟨notQuote, notBrace, notBracket⟩ := scalar point rfl
      rw [readValue, if_neg notQuote, if_neg notBrace, if_neg notBracket,
        read]

theorem readValue_null (fuel room : Nat) (rest : Text) :
    readValue (fuel + 1) room ("null" ++ rest) = .ok (.null, rest) := by
  refine readValue_of_readScalar ?_ (readScalar_null rest) fuel
  intro point isFirst
  cases isFirst
  decide

theorem readValue_boolean
    (value : Bool)
    (fuel room : Nat)
    (rest : Text) :
    readValue (fuel + 1) room
        ((if value then "true" else "false" : Text) ++ rest) =
      .ok (.boolean value, rest) := by
  refine readValue_of_readScalar ?_ (readScalar_boolean value rest) fuel
  intro point isFirst
  cases value <;>
    · cases isFirst
      decide

theorem readValue_ofInt
    {number : Int}
    (small : number.natAbs < Numeral.bound)
    {rest : Text}
    (ended : EndsNumber rest)
    (fuel room : Nat) :
    readValue (fuel + 1) room (Numeral.ofInt number ++ rest) =
      .ok (.integer number, rest) := by
  refine readValue_of_readScalar ?_ (readScalar_ofInt small ended) fuel
  intro point isFirst
  rcases head?_ofInt_append number rest point isFirst with
    isDigit | isMinus
  · exact
      ⟨CodePoint.ne_of_isDigit isDigit (by decide),
        CodePoint.ne_of_isDigit isDigit (by decide),
        CodePoint.ne_of_isDigit isDigit (by decide)⟩
  · rw [isMinus]
    decide

theorem readValue_writeString
    {text : Text}
    (apart : text.SurrogatesApart)
    (fuel room : Nat)
    (rest : Text) :
    readValue (fuel + 1) room (writeString text ++ rest) =
      .ok (.string text, rest) := by
  rw [writeString, List.cons_append, List.append_assoc,
    List.singleton_append, readValue, if_pos rfl,
    readString_flatMap_writePoint apart]

theorem readValue_emptyArray (fuel room : Nat) (rest : Text) :
    readValue (fuel + 1) (room + 1) (0x5b :: 0x5d :: rest) =
      .ok (.array [], rest) := by
  rw [readValue, if_neg (by decide), if_neg (by decide), if_pos rfl]
  rfl

theorem readValue_emptyObject (fuel room : Nat) (rest : Text) :
    readValue (fuel + 1) (room + 1) (0x7b :: 0x7d :: rest) =
      .ok (.object [], rest) := by
  rw [readValue, if_neg (by decide), if_pos rfl]
  rfl

/-- Items are read inside the brackets of an array. -/
theorem readValue_encloseItems
    {layout : Layout}
    {level fuel room : Nat}
    {part rest : Text}
    {others : List Text}
    {items : List Json}
    (starts : StartsToken part)
    (read :
      readItems fuel room
          (Text.join (layout.separator (level + 1)) (part :: others) ++
            (layout.edge level ++ 0x5d :: rest)) =
        .ok (items, rest)) :
    readValue (fuel + 1) (room + 1)
        (layout.enclose level 0x5b 0x5d (part :: others) ++ rest) =
      .ok (.array items, rest) := by
  have startsParts :=
    (startsToken_join (layout.separator (level + 1)) starts others).append
      (layout.edge level ++ 0x5d :: rest)
  rw [Layout.enclose_cons_append, readValue, if_neg (by decide),
    if_neg (by decide), if_pos rfl]
  simp only [enter, skipBlanks_append (layout.blank_edge (level + 1)),
    startsParts.skipBlanks_eq]
  split
  · next after isClosing =>
      obtain ⟨point, later, shape, _, notClosing, _⟩ := startsParts
      rw [shape] at isClosing
      exact (notClosing (List.cons.inj isClosing).1).elim
  · rw [read]

/-- Fields are read inside the braces of an object. -/
theorem readValue_encloseFields
    {layout : Layout}
    {level fuel room : Nat}
    {part rest : Text}
    {others : List Text}
    {fields : List (Text × Json)}
    (starts : StartsToken part)
    (read :
      readFields fuel room []
          (Text.join (layout.separator (level + 1)) (part :: others) ++
            (layout.edge level ++ 0x7d :: rest)) =
        .ok (fields, rest)) :
    readValue (fuel + 1) (room + 1)
        (layout.enclose level 0x7b 0x7d (part :: others) ++ rest) =
      .ok (.object fields, rest) := by
  have startsParts :=
    (startsToken_join (layout.separator (level + 1)) starts others).append
      (layout.edge level ++ 0x7d :: rest)
  rw [Layout.enclose_cons_append, readValue, if_neg (by decide),
    if_pos rfl]
  simp only [enter, skipBlanks_append (layout.blank_edge (level + 1)),
    startsParts.skipBlanks_eq]
  split
  · next after isClosing =>
      obtain ⟨point, later, shape, _, _, notClosing⟩ := startsParts
      rw [shape] at isClosing
      exact (notClosing (List.cons.inj isClosing).1).elim
  · rw [read]

/-- The last item stands before the closing bracket. -/
theorem readItems_last
    {fuel room : Nat}
    {text blanks rest : Text}
    {item : Json}
    (blank : Blank blanks)
    (read :
      readValue fuel room text = .ok (item, blanks ++ 0x5d :: rest)) :
    readItems (fuel + 1) room text = .ok ([item], rest) := by
  simp only [readItems, read, skipBlanks_append blank,
    skipBlanks_cons (show isBlank 0x5d = false by decide)]

/-- Another item stands behind a separator. -/
theorem readItems_next
    {layout : Layout}
    {level fuel room : Nat}
    {text others rest : Text}
    {item : Json}
    {items : List Json}
    (starts : StartsToken others)
    (read :
      readValue fuel room text =
        .ok (item, layout.separator level ++ others))
    (readOthers : readItems fuel room others = .ok (items, rest)) :
    readItems (fuel + 1) room text = .ok (item :: items, rest) := by
  obtain ⟨blanks, blank, comma⟩ := layout.exists_separator_eq level
  rw [comma, List.cons_append] at read
  simp only [readItems, read, skipBlanks_append blank,
    skipBlanks_cons (show isBlank 0x2c = false by decide),
    starts.skipBlanks_eq, readOthers]

/-- The last field stands before the closing brace. -/
theorem readFields_last
    {fuel room : Nat}
    {name text blanks rest : Text}
    {value : Json}
    {before : List (Text × Json)}
    (apart : name.SurrogatesApart)
    (new : name ∉ before.map Prod.fst)
    (blank : Blank blanks)
    (starts : StartsToken text)
    (read :
      readValue fuel room text = .ok (value, blanks ++ 0x7d :: rest)) :
    readFields (fuel + 1) room before
        (writeString name ++ (": " ++ text)) =
      .ok (before ++ [(name, value)], rest) := by
  have colon : skipBlanks ((": " : Text) ++ text) = 0x3a :: 0x20 :: text :=
    skipBlanks_cons (by decide) _
  have behind : skipBlanks (0x20 :: text) = text :=
    starts.skipBlanks_eq
  rw [writeString, List.cons_append, List.append_assoc,
    List.singleton_append]
  simp only [readFields, readString_flatMap_writePoint apart, colon, behind,
    read, skipBlanks_append blank,
    skipBlanks_cons (show isBlank 0x7d = false by decide),
    setField_of_not_mem new]

/-- Another field stands behind a separator. -/
theorem readFields_next
    {layout : Layout}
    {level fuel room : Nat}
    {name text others rest : Text}
    {value : Json}
    {before fields : List (Text × Json)}
    (apart : name.SurrogatesApart)
    (new : name ∉ before.map Prod.fst)
    (starts : StartsToken text)
    (startsOthers : StartsToken others)
    (read :
      readValue fuel room text =
        .ok (value, layout.separator level ++ others))
    (readOthers :
      readFields fuel room (before ++ [(name, value)]) others =
        .ok (fields, rest)) :
    readFields (fuel + 1) room before
        (writeString name ++ (": " ++ text)) =
      .ok (fields, rest) := by
  obtain ⟨blanks, blank, comma⟩ := layout.exists_separator_eq level
  rw [comma, List.cons_append] at read
  have colon : skipBlanks ((": " : Text) ++ text) = 0x3a :: 0x20 :: text :=
    skipBlanks_cons (by decide) _
  have behind : skipBlanks (0x20 :: text) = text :=
    starts.skipBlanks_eq
  rw [writeString, List.cons_append, List.append_assoc,
    List.singleton_append]
  simp only [readFields, readString_flatMap_writePoint apart, colon, behind,
    read, skipBlanks_append blank,
    skipBlanks_cons (show isBlank 0x2c = false by decide),
    startsOthers.skipBlanks_eq, setField_of_not_mem new, readOthers]

/-! ## The round trip -/

mutual

/-- A value is read back from its written form. -/
theorem readValue_writeAt
    (fuel room : Nat)
    {layout : Layout}
    {level : Nat}
    {value : Json}
    {written rest : Text}
    (recoverable : value.Recoverable)
    (wrote : writeAt layout level value = .ok written)
    (enough : written.length ≤ fuel)
    (fits : value.depth ≤ room)
    (ended : EndsNumber rest) :
    readValue fuel room (written ++ rest) = .ok (value, rest) := by
  have starts := startsToken_writeAt recoverable wrote
  obtain ⟨steps, rfl⟩ : ∃ steps, fuel = steps + 1 :=
    ⟨fuel - 1, by have := starts.length_pos; omega⟩
  cases value with
  | null =>
      cases wrote
      exact readValue_null steps room rest
  | boolean value =>
      cases wrote
      exact readValue_boolean value steps room rest
  | integer number =>
      obtain ⟨small, rfl⟩ := Numeral.write_eq_ok_iff.mp wrote
      exact readValue_ofInt small ended steps room
  | real text =>
      exact recoverable.elim
  | string text =>
      cases wrote
      exact readValue_writeString recoverable steps room rest
  | array items =>
      obtain ⟨parts, wroteItems, same⟩ := Outcome.bind_eq_ok_iff.mp wrote
      cases same
      obtain ⟨inner, rfl⟩ : ∃ inner, room = inner + 1 :=
        ⟨room - 1, by rw [depth] at fits; omega⟩
      have fitsItems := Nat.le_of_succ_le_succ fits
      cases items with
      | nil =>
          cases wroteItems
          exact readValue_emptyArray steps inner rest
      | cons item items =>
          obtain ⟨part, others, wrotePart, _, rfl⟩ :=
            writeItems_cons_eq_ok_iff.mp wroteItems
          have longer := layout.length_join_lt level 0x5b 0x5d part others
          exact
            readValue_encloseItems
              (startsToken_writeAt recoverable.1 wrotePart)
              (readItems_writeItems steps inner (List.cons_ne_nil _ _)
                recoverable wroteItems (by omega) fitsItems
                (layout.blank_edge level) rest)
  | object fields =>
      obtain ⟨parts, wroteFields, same⟩ := Outcome.bind_eq_ok_iff.mp wrote
      cases same
      obtain ⟨inner, rfl⟩ : ∃ inner, room = inner + 1 :=
        ⟨room - 1, by rw [depth] at fits; omega⟩
      have fitsFields := Nat.le_of_succ_le_succ fits
      cases fields with
      | nil =>
          cases wroteFields
          exact readValue_emptyObject steps inner rest
      | cons field fields =>
          obtain ⟨part, others, _, _, rfl⟩ :=
            writeFields_cons_eq_ok_iff.mp wroteFields
          have longer :=
            layout.length_join_lt level 0x7b 0x7d
              (writeString field.1 ++ ": " ++ part) others
          exact
            readValue_encloseFields
              (((startsToken_writeString field.1).append ": ").append part)
              (readFields_writeFields steps inner [] (List.cons_ne_nil _ _)
                recoverable.2 recoverable.1 wroteFields (by omega)
                fitsFields (layout.blank_edge level) rest)

/-- The items of an array are read back. -/
theorem readItems_writeItems
    (fuel room : Nat)
    {layout : Layout}
    {level : Nat}
    {items : List Json}
    {parts : List Text}
    {blanks : Text}
    (some : items ≠ [])
    (recoverable : RecoverableItems items)
    (wrote : writeItems layout level items = .ok parts)
    (enough : (Text.join (layout.separator level) parts).length < fuel)
    (fits : depthOfItems items ≤ room)
    (blank : Blank blanks)
    (rest : Text) :
    readItems fuel room
        (Text.join (layout.separator level) parts ++
          (blanks ++ 0x5d :: rest)) =
      .ok (items, rest) := by
  obtain ⟨steps, rfl⟩ : ∃ steps, fuel = steps + 1 :=
    ⟨fuel - 1, by omega⟩
  cases items with
  | nil =>
      exact (some rfl).elim
  | cons item items =>
      obtain ⟨part, others, wrotePart, wroteOthers, rfl⟩ :=
        writeItems_cons_eq_ok_iff.mp wrote
      have fitsBoth := Nat.max_le.mp fits
      cases items with
      | nil =>
          cases wroteOthers
          rw [Text.join] at enough ⊢
          exact
            readItems_last blank
              (readValue_writeAt steps room recoverable.1 wrotePart
                (by omega) fitsBoth.1 (endsNumber_of_blank blank (by simp) rest))
      | cons next items =>
          obtain ⟨nextPart, otherParts, wroteNext, _, rfl⟩ :=
            writeItems_cons_eq_ok_iff.mp wroteOthers
          have partSome :=
            (startsToken_writeAt recoverable.1 wrotePart).length_pos
          rw [Text.join_cons_cons, List.length_append, List.length_append]
            at enough
          have readPart
              (behind : Text) :=
            readValue_writeAt steps room recoverable.1 wrotePart (by omega)
              fitsBoth.1
              (layout.endsNumber_separator level behind)
          have readOthers :=
            readItems_writeItems steps room (List.cons_ne_nil _ _)
              recoverable.2 wroteOthers (by omega) fitsBoth.2 blank rest
          have startsOthers :=
            startsToken_join (layout.separator level)
              (startsToken_writeAt recoverable.2.1 wroteNext) otherParts
          rw [Text.join_cons_cons, List.append_assoc, List.append_assoc]
          exact
            readItems_next (startsOthers.append _) (readPart _) readOthers

/-- The fields of an object are read back behind those before them. -/
theorem readFields_writeFields
    (fuel room : Nat)
    (before : List (Text × Json))
    {layout : Layout}
    {level : Nat}
    {fields : List (Text × Json)}
    {parts : List Text}
    {blanks : Text}
    (some : fields ≠ [])
    (recoverable : RecoverableFields fields)
    (distinct : ((before ++ fields).map Prod.fst).Nodup)
    (wrote : writeFields layout level fields = .ok parts)
    (enough : (Text.join (layout.separator level) parts).length < fuel)
    (fits : depthOfFields fields ≤ room)
    (blank : Blank blanks)
    (rest : Text) :
    readFields fuel room before
        (Text.join (layout.separator level) parts ++
          (blanks ++ 0x7d :: rest)) =
      .ok (before ++ fields, rest) := by
  obtain ⟨steps, rfl⟩ : ∃ steps, fuel = steps + 1 :=
    ⟨fuel - 1, by omega⟩
  cases fields with
  | nil =>
      exact (some rfl).elim
  | cons field fields =>
      obtain ⟨name, value⟩ := field
      obtain ⟨part, others, wrotePart, wroteOthers, rfl⟩ :=
        writeFields_cons_eq_ok_iff.mp wrote
      obtain ⟨apart, recoverableValue, recoverableOthers⟩ := recoverable
      have startsPart := startsToken_writeAt recoverableValue wrotePart
      have fitsBoth := Nat.max_le.mp fits
      have new := OrderedMap.not_mem_of_nodup_append distinct
      cases fields with
      | nil =>
          cases wroteOthers
          rw [Text.join, List.length_append] at enough
          rw [Text.join, List.append_assoc, List.append_assoc]
          exact
            readFields_last apart new blank (startsPart.append _)
              (readValue_writeAt steps room recoverableValue wrotePart
                (by omega) fitsBoth.1
                (endsNumber_of_blank blank (by simp) rest))
      | cons next fields =>
          obtain ⟨nextPart, otherParts, wroteNext, _, rfl⟩ :=
            writeFields_cons_eq_ok_iff.mp wroteOthers
          rw [Text.join_cons_cons, List.length_append, List.length_append,
            List.length_append, List.length_append, writeString,
            List.length_cons] at enough
          have readPart
              (behind : Text) :=
            readValue_writeAt steps room recoverableValue wrotePart
              (by omega) fitsBoth.1
              (layout.endsNumber_separator level behind)
          have distinctOthers :
              ((before ++ [(name, value)] ++ next :: fields).map
                Prod.fst).Nodup := by
            rw [List.append_assoc]
            exact distinct
          have readOthers :=
            readFields_writeFields steps room (before ++ [(name, value)])
              (List.cons_ne_nil _ _) recoverableOthers distinctOthers
              wroteOthers (by omega) fitsBoth.2 blank rest
          have startsOthers :=
            startsToken_join (layout.separator level)
              (((startsToken_writeString next.1).append ": ").append
                nextPart)
              otherParts
          rw [Text.join_cons_cons, List.append_assoc, List.append_assoc,
            List.append_assoc, List.append_assoc,
            List.append_cons before (name, value)]
          exact
            readFields_next apart new (startsPart.append _)
              (startsOthers.append _) (readPart _) readOthers

end

/-- A text is read from what is written for a value and blanks around it. -/
theorem parse_write
    {layout : Layout}
    {value : Json}
    {written blanks : Text}
    {room : Nat}
    (recoverable : value.Recoverable)
    (wrote : write layout value = .ok written)
    (shallow : value.depth ≤ room)
    (blank : Blank blanks) :
    parse (written ++ blanks) room = .ok value := by
  have starts := startsToken_writeAt recoverable wrote
  have plain := plain_writeAt recoverable wrote
  have enough : written.length ≤ stepBound (written ++ blanks) := by
    rw [stepBound, List.length_append]
    omega
  have read :=
    readValue_writeAt (stepBound (written ++ blanks)) room
      recoverable wrote enough shallow (endsNumber_blank blank)
  have nothing : skipBlanks blanks = [] := by
    rw [← List.append_nil blanks, skipBlanks_append blank]
    rfl
  have document : readDocument room (written ++ blanks) = .ok value := by
    unfold readDocument
    split
    · next later isMark =>
        obtain ⟨point, others, rfl, _⟩ := starts
        have printable := plain point List.mem_cons_self
        rw [(List.cons.inj isMark).1] at printable
        exact absurd printable (by decide)
    · rw [(starts.append blanks).skipBlanks_eq, read]
      simp only [nothing]
  rw [parse, document]

end Json

end Tolerance
