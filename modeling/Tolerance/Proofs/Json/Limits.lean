import Mathlib.Data.List.TakeWhile
import Mathlib.Tactic.SplitIfs
import Tolerance.Json.Reader

namespace Tolerance

/-!
# The limits of the reader

Besides what is wrong with it, a text is refused for two things only: a numeral
in it with too many digits, and containers in it that are nested too deep.  Both
can be seen in the text: every part of a value that is read leaves an end of the
text, so that whatever stops the reader stands in the text it started from.  The
bound on the number of steps is no third limit, because it is never reached.
-/

theorem Text.suffix_of_dropBeginning?
    {text beginning after : Text}
    (dropped : text.dropBeginning? beginning = some after) :
    after <:+ text := by
  induction beginning generalizing text with
  | nil =>
      cases text <;>
        · cases dropped
          exact List.suffix_refl _
  | cons expected beginning inductionHypothesis =>
      cases text with
      | nil =>
          cases dropped
      | cons point text =>
          simp only [dropBeginning?] at dropped
          split at dropped
          · exact (inductionHypothesis dropped).trans (List.suffix_cons point text)
          · cases dropped

namespace Json

/-- How many brackets and braces a text opens. -/
def openings (text : Text) : Nat :=
  text.countP fun point => point == 0x7b || point == 0x5b

/-- Digits in a row, somewhere in a text, that are too many for a numeral. -/
structure LongNumeral (text digits : Text) : Prop where
  inside : digits <:+: text
  allDigits : ∀ point ∈ digits, point.isDigit = true
  tooLong : Numeral.digitLimit < digits.length

/--
What a text has to hold for the reader to stop: nothing in particular for a
fault, a numeral that is too long, or more openings than there is room for.
-/
inductive StopsFor (room : Nat) (text : Text) : Stop → Prop where
  | fault (fault : Fault) (rest : Text) :
      StopsFor room text (.fault fault rest)
  | numeral (digits : Text) (long : LongNumeral text digits) :
      StopsFor room text (.numeral (.unreadable digits.length))
  | tooDeep (container : Container) (deep : room < openings text) :
      StopsFor room text (.tooDeep container)

/-- A reading leaves an end of the text, or stops for what the text holds. -/
inductive Accounts {α : Type} (room : Nat) (text : Text) : Reading α → Prop where
  | leaves (part : α) (after : Text) (ending : after <:+ text) :
      Accounts room text (.ok (part, after))
  | stops (stop : Stop) (stopped : StopsFor room text stop) :
      Accounts room text (.error stop)

variable {α β : Type} {room : Nat} {text later : Text}

theorem LongNumeral.of_suffix
    {digits : Text}
    (long : LongNumeral later digits)
    (ending : later <:+ text) :
    LongNumeral text digits :=
  { long with inside := long.inside.trans ending.isInfix }

/-- What stops the reader in an end of a text stops it in the text. -/
theorem StopsFor.of_suffix
    {stop : Stop}
    (stopped : StopsFor room later stop)
    (ending : later <:+ text) :
    StopsFor room text stop := by
  cases stopped with
  | fault fault rest =>
      exact .fault fault rest
  | numeral digits long =>
      exact .numeral digits (long.of_suffix ending)
  | tooDeep container deep =>
      exact
        .tooDeep container
          (Nat.lt_of_lt_of_le deep ending.sublist.countP_le)

/-- Inside a container that was opened there is room for one less. -/
theorem StopsFor.of_inside
    {stop : Stop}
    {point : CodePoint}
    (opens : point = 0x7b ∨ point = 0x5b)
    (stopped : StopsFor room later stop) :
    StopsFor (room + 1) (point :: later) stop := by
  have counted : openings (point :: later) = openings later + 1 := by
    apply List.countP_cons_of_pos
    rcases opens with rfl | rfl <;> decide
  have ending : later <:+ point :: later :=
    List.suffix_cons point later
  cases stopped with
  | fault fault rest =>
      exact .fault fault rest
  | numeral digits long =>
      exact .numeral digits (long.of_suffix ending)
  | tooDeep container deep =>
      exact .tooDeep container (by omega)

/-- The bracket of a container that there is no room for is in the text. -/
theorem StopsFor.of_enter
    {container : Container}
    {stop : Stop}
    {point : CodePoint}
    (opens : point = 0x7b ∨ point = 0x5b)
    (entered : enter container room = .error stop) :
    StopsFor room (point :: later) stop := by
  cases room with
  | zero =>
      cases entered
      refine .tooDeep container (List.countP_pos_iff.mpr ⟨point, ?_, ?_⟩)
      · exact List.mem_cons_self
      · rcases opens with rfl | rfl <;> decide
  | succ inner =>
      cases entered

theorem Accounts.ending
    {part : α}
    (accounts : Accounts room text (.ok (part, later))) :
    later <:+ text := by
  cases accounts with
  | leaves _ _ ending => exact ending

theorem Accounts.stopped
    {stop : Stop}
    (accounts : Accounts room text (.error stop : Reading α)) :
    StopsFor room text stop := by
  cases accounts with
  | stops _ stopped => exact stopped

/-- What is read in an end of a text is read in the text. -/
theorem Accounts.of_suffix
    {reading : Reading α}
    (accounts : Accounts room later reading)
    (ending : later <:+ text) :
    Accounts room text reading := by
  cases accounts with
  | leaves part after inner =>
      exact .leaves part after (inner.trans ending)
  | stops stop stopped =>
      exact .stops stop (stopped.of_suffix ending)

theorem Accounts.fault
    (fault : Fault)
    (rest : Text) :
    Accounts room text (.error (.fault fault rest) : Reading α) :=
  .stops _ (.fault fault rest)

theorem skipBlanks_suffix (text : Text) :
    skipBlanks text <:+ text :=
  List.dropWhile_suffix isBlank

/-- What stands behind the first token of a text is an end of the text. -/
theorem suffix_of_skipBlanks
    {point : CodePoint}
    {after : Text}
    (behind : skipBlanks text = point :: after) :
    after <:+ text :=
  (List.suffix_cons point after).trans (behind ▸ skipBlanks_suffix text)

/-- Behind a token there is less of the text. -/
private theorem length_skipBlanks_lt
    {point : CodePoint}
    {after : Text}
    (ending : later <:+ text)
    (behind : skipBlanks later = point :: after) :
    (skipBlanks after).length < text.length := by
  have shorterAfter := (skipBlanks_suffix after).length_le
  have shorterLater := (skipBlanks_suffix later).length_le
  rw [behind, List.length_cons] at shorterLater
  have shorter := ending.length_le
  omega

/-! ## Strings -/

/-- An escape stops the reader for a fault only. -/
theorem exists_fault_of_readEscape
    {opening slash : Text}
    {stop : Stop}
    (stopped : readEscape opening slash text = .error stop) :
    ∃ fault rest, stop = .fault fault rest := by
  unfold readEscape readUnicodeEscape at stopped
  grind

/-- A string leaves an end of the text, or stops the reader for a fault. -/
theorem accounts_readString
    (room : Nat)
    (opening : Text)
    (skip : Nat)
    (text : Text) :
    Accounts room text (readString opening skip text) := by
  induction text generalizing skip with
  | nil =>
      cases skip <;> exact .fault _ _
  | cons point rest inductionHypothesis =>
      have ending : rest <:+ point :: rest :=
        List.suffix_cons point rest
      cases skip with
      | succ skip =>
          exact (inductionHypothesis skip).of_suffix ending
      | zero =>
          rw [readString]
          split
          · exact .leaves _ _ ending
          split
          · split
            · next stop stopped =>
                obtain ⟨fault, behind, rfl⟩ := exists_fault_of_readEscape stopped
                exact .fault fault behind
            · next escaped count _ =>
                have others := (inductionHypothesis count).of_suffix ending
                split
                · next read => exact .leaves _ _ (read ▸ others).ending
                · next read => exact .stops _ (read ▸ others).stopped
          split
          · exact .fault _ _
          · have others := (inductionHypothesis 0).of_suffix ending
            split
            · next read => exact .leaves _ _ (read ▸ others).ending
            · next read => exact .stops _ (read ▸ others).stopped

/-! ## Words and numbers -/

theorem digitsOf_snd_suffix (text : Text) :
    (digitsOf text).2 <:+ text :=
  List.dropWhile_suffix CodePoint.isDigit

theorem fractionOf_snd_suffix (text : Text) :
    (fractionOf text).2 <:+ text := by
  unfold fractionOf
  split
  · next rest =>
      dsimp only
      split
      · exact List.suffix_refl _
      · exact (digitsOf_snd_suffix rest).trans (List.suffix_cons _ rest)
  · exact List.suffix_refl _

theorem exponentOf_snd_suffix (text : Text) :
    (exponentOf text).2 <:+ text := by
  unfold exponentOf
  split
  · next letter rest =>
      have behindDigits
          {unsigned : Text}
          (ending : unsigned <:+ rest) :
          (digitsOf unsigned).2 <:+ letter :: rest :=
        (digitsOf_snd_suffix unsigned).trans
          (ending.trans (List.suffix_cons letter rest))
      split
      · split
        next sign unsigned signed =>
        have ending : unsigned <:+ rest := by
          split at signed
          · split at signed <;> cases signed
            · exact List.suffix_cons _ _
            · exact List.suffix_refl _
          · cases signed
            exact List.suffix_refl _
        dsimp only
        split
        · exact List.suffix_refl _
        · exact behindDigits ending
      · exact List.suffix_refl _
  · exact List.suffix_refl _

/-- The whole part of a number is a run of digits, and it leaves the end. -/
theorem wholePartOf_append (text : Text) :
    (wholePartOf text).1 ++ (wholePartOf text).2 = text ∧
      ∀ point ∈ (wholePartOf text).1, point.isDigit = true := by
  unfold wholePartOf
  split
  · exact ⟨rfl, List.forall_mem_singleton.mpr rfl⟩
  · exact
      ⟨List.takeWhile_append_dropWhile, fun _ member =>
        List.mem_takeWhile_imp member⟩

/-- A number leaves an end of the text, or it has too many digits. -/
theorem accounts_readNumber
    (room : Nat)
    (text : Text) :
    Accounts room text (readNumber text) := by
  have leavesEnd
      {unsigned : Text}
      (ending : unsigned <:+ text) :
      (exponentOf (fractionOf (wholePartOf unsigned).2).2).2 <:+ text := by
    have behindWhole : (wholePartOf unsigned).2 <:+ unsigned :=
      ⟨_, (wholePartOf_append unsigned).1⟩
    exact
      (exponentOf_snd_suffix _).trans
        ((fractionOf_snd_suffix _).trans (behindWhole.trans ending))
  have tooLong
      {unsigned : Text}
      (ending : unsigned <:+ text)
      {fault : Numeral.Fault}
      (refused :
        Numeral.ofDigits (digitValues (wholePartOf unsigned).1) =
          .error fault) :
      StopsFor room text (.numeral fault) := by
    obtain ⟨parts, allDigits⟩ := wholePartOf_append unsigned
    unfold Numeral.ofDigits at refused
    split at refused
    · cases refused
    · next tooMany =>
        cases refused
        rw [digitValues, List.length_map] at tooMany ⊢
        have beginning : (wholePartOf unsigned).1 <+: unsigned :=
          ⟨_, parts⟩
        have long : LongNumeral unsigned (wholePartOf unsigned).1 :=
          ⟨beginning.isInfix, allDigits, Nat.lt_of_not_le tooMany⟩
        exact .numeral _ (long.of_suffix ending)
  unfold readNumber
  split
  next negative unsigned signed =>
  have ending : unsigned <:+ text := by
    split at signed <;> cases signed
    · exact List.suffix_cons _ _
    · exact List.suffix_refl _
  dsimp only
  split
  · exact .fault _ _
  split
  · split
    · exact .leaves _ _ (leavesEnd ending)
    · next refused => exact .stops _ (tooLong ending refused)
  · exact .leaves _ _ (leavesEnd ending)

theorem accounts_readScalar
    (room : Nat)
    (text : Text) :
    Accounts room text (readScalar text) := by
  unfold readScalar
  iterate 6
    split
    · next dropped => exact .leaves _ _ (Text.suffix_of_dropBeginning? dropped)
  exact accounts_readNumber room text

/-! ## Values -/

/-- What is read behind the bracket of a container is read with less room. -/
theorem Accounts.of_inside
    {reading : Reading α}
    {point : CodePoint}
    (opens : point = 0x7b ∨ point = 0x5b)
    (accounts : Accounts room later reading) :
    Accounts (room + 1) (point :: later) reading := by
  cases accounts with
  | leaves part after ending =>
      exact .leaves part after (ending.trans (List.suffix_cons point later))
  | stops stop stopped =>
      exact .stops stop (stopped.of_inside opens)

/-- A value accounts for its text if the parts inside of it do. -/
private theorem accounts_readValue_succ
    {fuel : Nat}
    (items : ∀ room text, Accounts room text (readItems fuel room text))
    (fields :
      ∀ room before text,
        Accounts room text (readFields fuel room before text))
    (room : Nat)
    (text : Text) :
    Accounts room text (readValue (fuel + 1) room text) := by
  rcases text with _ | ⟨point, rest⟩
  · exact .fault _ _
  have behindPoint : rest <:+ point :: rest :=
    List.suffix_cons point rest
  rw [readValue]
  split
  · have string := (accounts_readString room (point :: rest) 0 rest).of_suffix
      behindPoint
    split
    · next read => exact .leaves _ _ (read ▸ string).ending
    · next read => exact .stops _ (read ▸ string).stopped
  split
  · next opens =>
      split
      · next entered => exact .stops _ (.of_enter (Or.inl opens) entered)
      next inner entered =>
      cases room with
      | zero => cases entered
      | succ inner =>
      cases entered
      split
      · next behind =>
          exact .leaves _ _ ((suffix_of_skipBlanks behind).trans behindPoint)
      · have inside :=
          ((fields inner [] (skipBlanks rest)).of_suffix
            (skipBlanks_suffix rest)).of_inside (Or.inl opens)
        split
        · next read => exact .leaves _ _ (read ▸ inside).ending
        · next read => exact .stops _ (read ▸ inside).stopped
  split
  · next opens =>
      split
      · next entered => exact .stops _ (.of_enter (Or.inr opens) entered)
      next inner entered =>
      cases room with
      | zero => cases entered
      | succ inner =>
      cases entered
      split
      · next behind =>
          exact .leaves _ _ ((suffix_of_skipBlanks behind).trans behindPoint)
      · have inside :=
          ((items inner (skipBlanks rest)).of_suffix
            (skipBlanks_suffix rest)).of_inside (Or.inr opens)
        split
        · next read => exact .leaves _ _ (read ▸ inside).ending
        · next read => exact .stops _ (read ▸ inside).stopped
  · exact accounts_readScalar room (point :: rest)

private theorem accounts_readItems_succ
    {fuel : Nat}
    (values : ∀ room text, Accounts room text (readValue fuel room text))
    (items : ∀ room text, Accounts room text (readItems fuel room text))
    (room : Nat)
    (text : Text) :
    Accounts room text (readItems (fuel + 1) room text) := by
  have item := values room text
  rw [readItems]
  split
  · next read => exact .stops _ (read ▸ item).stopped
  next first afterItem read =>
  have behindItem : afterItem <:+ text :=
    (read ▸ item).ending
  split
  · next behind =>
      exact .leaves _ _ ((suffix_of_skipBlanks behind).trans behindItem)
  · next following behind =>
      have behindComma : skipBlanks following <:+ text :=
        (skipBlanks_suffix following).trans
          ((suffix_of_skipBlanks behind).trans behindItem)
      have others := (items room (skipBlanks following)).of_suffix behindComma
      split
      · next readOthers => exact .leaves _ _ (readOthers ▸ others).ending
      · next readOthers => exact .stops _ (readOthers ▸ others).stopped
  · exact .fault _ _

private theorem accounts_readFields_succ
    {fuel : Nat}
    (values : ∀ room text, Accounts room text (readValue fuel room text))
    (fields :
      ∀ room before text,
        Accounts room text (readFields fuel room before text))
    (room : Nat)
    (before : List (Text × Json))
    (text : Text) :
    Accounts room text (readFields (fuel + 1) room before text) := by
  unfold readFields
  split
  · next rest =>
      have string :=
        (accounts_readString room (0x22 :: rest) 0 rest).of_suffix
          (List.suffix_cons 0x22 rest)
      split
      · next read => exact .stops _ (read ▸ string).stopped
      next name afterName readName =>
      have behindName := (readName ▸ string).ending
      split
      · next afterColon behind =>
          have behindColon : skipBlanks afterColon <:+ 0x22 :: rest :=
            (skipBlanks_suffix afterColon).trans
              ((suffix_of_skipBlanks behind).trans behindName)
          have value :=
            (values room (skipBlanks afterColon)).of_suffix behindColon
          split
          · next read => exact .stops _ (read ▸ value).stopped
          next held afterValue readValue =>
          have behindValue := (readValue ▸ value).ending
          split
          · next behind =>
              exact .leaves _ _ ((suffix_of_skipBlanks behind).trans behindValue)
          · next following behind =>
              have behindComma :=
                (skipBlanks_suffix following).trans
                  ((suffix_of_skipBlanks behind).trans behindValue)
              exact (fields room _ _).of_suffix behindComma
          · exact .fault _ _
      · exact .fault _ _
  · exact .fault _ _

/-- Whatever is read of a value, an array or an object accounts for its text. -/
theorem accounts_read (fuel : Nat) :
    (∀ room text, Accounts room text (readValue fuel room text)) ∧
      (∀ room text, Accounts room text (readItems fuel room text)) ∧
        ∀ room before text,
          Accounts room text (readFields fuel room before text) := by
  induction fuel with
  | zero =>
      exact
        ⟨fun _ _ => .fault _ _, fun _ _ => .fault _ _, fun _ _ _ => .fault _ _⟩
  | succ fuel inductionHypothesis =>
      obtain ⟨values, items, fields⟩ := inductionHypothesis
      exact
        ⟨accounts_readValue_succ items fields,
          accounts_readItems_succ values items,
          accounts_readFields_succ values fields⟩

/-! ## Steps -/

variable {fuel other : Nat}

private theorem readValue_of_enough
    (items :
      ∀ room text,
        2 * text.length + 2 ≤ fuel →
        2 * text.length + 2 ≤ other →
        readItems fuel room text = readItems other room text)
    (fields :
      ∀ room before text,
        2 * text.length + 2 ≤ fuel →
        2 * text.length + 2 ≤ other →
        readFields fuel room before text = readFields other room before text)
    (room : Nat)
    (text : Text)
    (enough : 2 * text.length + 1 ≤ fuel + 1)
    (enoughOther : 2 * text.length + 1 ≤ other + 1) :
    readValue (fuel + 1) room text = readValue (other + 1) room text := by
  rcases text with _ | ⟨point, rest⟩
  · rfl
  rw [List.length_cons] at enough enoughOther
  have shorter := (skipBlanks_suffix rest).length_le
  have sameItems (inner : Nat) :=
    items inner (skipBlanks rest) (by omega) (by omega)
  have sameFields (inner : Nat) :=
    fields inner [] (skipBlanks rest) (by omega) (by omega)
  simp only [readValue]
  cases room with
  | zero =>
      rfl
  | succ inner =>
      simp only [enter]
      generalize skipBlanks rest = inside at sameItems sameFields ⊢
      split_ifs
      · rfl
      · split
        · rfl
        · rw [sameFields]
      · split
        · rfl
        · rw [sameItems]
      · rfl

private theorem readItems_of_enough
    (values :
      ∀ room text,
        2 * text.length + 1 ≤ fuel →
        2 * text.length + 1 ≤ other →
        readValue fuel room text = readValue other room text)
    (items :
      ∀ room text,
        2 * text.length + 2 ≤ fuel →
        2 * text.length + 2 ≤ other →
        readItems fuel room text = readItems other room text)
    (room : Nat)
    (text : Text)
    (enough : 2 * text.length + 2 ≤ fuel + 1)
    (enoughOther : 2 * text.length + 2 ≤ other + 1) :
    readItems (fuel + 1) room text = readItems (other + 1) room text := by
  have item := (accounts_read other).1 room text
  rw [readItems, readItems, values room text (by omega) (by omega)]
  split
  · rfl
  next first afterItem read =>
  have behindItem := (read ▸ item).ending
  split
  · rfl
  · next following behind =>
      have shorter := length_skipBlanks_lt behindItem behind
      rw [items room (skipBlanks following) (by omega) (by omega)]
  · rfl

private theorem readFields_of_enough
    (values :
      ∀ room text,
        2 * text.length + 1 ≤ fuel →
        2 * text.length + 1 ≤ other →
        readValue fuel room text = readValue other room text)
    (fields :
      ∀ room before text,
        2 * text.length + 2 ≤ fuel →
        2 * text.length + 2 ≤ other →
        readFields fuel room before text = readFields other room before text)
    (room : Nat)
    (before : List (Text × Json))
    (text : Text)
    (enough : 2 * text.length + 2 ≤ fuel + 1)
    (enoughOther : 2 * text.length + 2 ≤ other + 1) :
    readFields (fuel + 1) room before text =
      readFields (other + 1) room before text := by
  unfold readFields
  split
  · next rest =>
      have string :=
        (accounts_readString room (0x22 :: rest) 0 rest).of_suffix
          (List.suffix_cons 0x22 rest)
      split
      · rfl
      next name afterName readName =>
      have behindName := (readName ▸ string).ending
      split
      · next afterColon behind =>
          have shorter := length_skipBlanks_lt behindName behind
          have value :=
            (accounts_read other).1 room (skipBlanks afterColon)
          rw [values room (skipBlanks afterColon) (by omega) (by omega)]
          split
          · rfl
          next held afterValue readValue =>
          have behindValue := (readValue ▸ value).ending
          split
          · rfl
          · next following behind =>
              have shorterStill := length_skipBlanks_lt behindValue behind
              rw [fields room _ (skipBlanks following) (by omega) (by omega)]
          · rfl
      · rfl
  · rfl

/-- Numbers of steps that are enough for a text read the same in it. -/
theorem read_of_enough (fuel other : Nat) :
    (∀ room text,
      2 * text.length + 1 ≤ fuel →
      2 * text.length + 1 ≤ other →
      readValue fuel room text = readValue other room text) ∧
      (∀ room text,
        2 * text.length + 2 ≤ fuel →
        2 * text.length + 2 ≤ other →
        readItems fuel room text = readItems other room text) ∧
        ∀ room before text,
          2 * text.length + 2 ≤ fuel →
          2 * text.length + 2 ≤ other →
          readFields fuel room before text =
            readFields other room before text := by
  induction fuel generalizing other with
  | zero =>
      refine ⟨?_, ?_, ?_⟩ <;> intros <;> omega
  | succ fuel inductionHypothesis =>
      cases other with
      | zero =>
          refine ⟨?_, ?_, ?_⟩ <;> intros <;> omega
      | succ other =>
          obtain ⟨values, items, fields⟩ := inductionHypothesis other
          exact
            ⟨readValue_of_enough items fields,
              readItems_of_enough values items,
              readFields_of_enough values fields⟩

/-- No text is refused because the steps run out: with more of them it is read as it is. -/
theorem readValue_stepBound
    (enough : stepBound text ≤ fuel)
    (room : Nat) :
    readValue fuel room (skipBlanks text) =
      readValue (stepBound text) room (skipBlanks text) := by
  have shorter := (skipBlanks_suffix text).length_le
  rw [stepBound] at enough ⊢
  exact (read_of_enough fuel _).1 room _ (by omega) (by omega)

/-! ## Documents -/

/-- Why a text is refused can be seen in it. -/
theorem stopsFor_of_readDocument
    {room : Nat}
    {stop : Stop}
    (refused : readDocument room text = .error stop) :
    StopsFor room text stop := by
  unfold readDocument at refused
  split at refused
  · cases refused
    exact .fault _ _
  split at refused
  · next read =>
      cases refused
      have value :=
        (accounts_read (stepBound text)).1 room (skipBlanks text)
      exact ((read ▸ value).stopped).of_suffix (skipBlanks_suffix text)
  split at refused
  · cases refused
  · cases refused
    exact .fault _ _

/-- A numeral that keeps a text from being read stands in it. -/
theorem longNumeral_of_parse
    {room : Nat}
    {fault : Numeral.Fault}
    (refused : parse text room = .error (.numeral fault)) :
    ∃ digits, LongNumeral text digits ∧ fault = .unreadable digits.length := by
  unfold parse at refused
  split at refused
  · cases refused
  · cases refused
  · next stopped =>
      cases refused
      cases stopsFor_of_readDocument stopped with
      | numeral digits long => exact ⟨digits, long, rfl⟩
  · cases refused

/-- A text that nests containers too deep opens too many of them. -/
theorem lt_openings_of_parse
    {room : Nat}
    {container : Container}
    (refused : parse text room = .error (.tooDeep container)) :
    room < openings text := by
  unfold parse at refused
  split at refused
  · cases refused
  · cases refused
  · cases refused
  · next stopped =>
      cases refused
      cases stopsFor_of_readDocument stopped with
      | tooDeep _ deep => exact deep

end Json

end Tolerance
