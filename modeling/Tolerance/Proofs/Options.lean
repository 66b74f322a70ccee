import Tolerance.CommandLine.Options

namespace Tolerance.CommandLine

/-!
# Words of a command line

Words that are complete are read by themselves, whatever stands behind them.  Of
the words that belong to another program, a group of letters is the only kind in
which an option of this program may be found, because there it is found anywhere.
-/

/-! ## Complete words -/

namespace Parsed

/-- The command line that goes on with another one. -/
def followedBy (first second : Parsed) : Parsed where
  occurrences := first.occurrences ++ second.occurrences
  linterArguments := first.linterArguments ++ second.linterArguments

theorem followedBy_behind
    (first second : Parsed)
    (word : Word) :
    (first.followedBy second).behind word =
      (first.behind word).followedBy second := by
  simp [followedBy, behind]

end Parsed

/--
Words of which the last one waits for no value, and none of which ends the
options, unless one of them is misused.
-/
inductive Complete : List Text → Prop where
  | nil : Complete []
  | misused
      (word : Text)
      (rest : List Text)
      (fault : OptionFault)
      (notEnd : word ≠ [0x2d, 0x2d])
      (refused : readWord word = .error fault) :
      Complete (word :: rest)
  | alone
      (word : Text)
      (rest : List Text)
      (read : Word)
      (notEnd : word ≠ [0x2d, 0x2d])
      (understood : readWord word = .ok read)
      (settled : read.awaiting = none)
      (complete : Complete rest) :
      Complete (word :: rest)
  | withValue
      (word value : Text)
      (rest : List Text)
      (read : Word)
      (option : Text × (Text → Occurrence))
      (notEnd : word ≠ [0x2d, 0x2d])
      (understood : readWord word = .ok read)
      (awaits : read.awaiting = some option)
      (complete : Complete rest) :
      Complete (word :: value :: rest)

section

variable {word value : Text} {rest : List Text} {read : Word}

theorem parse_misused
    {fault : OptionFault}
    (notEnd : word ≠ [0x2d, 0x2d])
    (refused : readWord word = .error fault) :
    parse (word :: rest) = .error fault := by
  rw [parse.eq_def]
  simp only [if_neg notEnd, refused]

theorem parse_alone
    (notEnd : word ≠ [0x2d, 0x2d])
    (understood : readWord word = .ok read)
    (settled : read.awaiting = none) :
    parse (word :: rest) =
      (parse rest).map fun parsed => parsed.behind read := by
  rw [parse.eq_def]
  simp only [if_neg notEnd, understood, settled]

theorem parse_withValue
    {option : Text × (Text → Occurrence)}
    (notEnd : word ≠ [0x2d, 0x2d])
    (understood : readWord word = .ok read)
    (awaits : read.awaiting = some option) :
    parse (word :: value :: rest) =
      (parse rest).map fun parsed =>
        parsed.behind
          { read with
            occurrences := read.occurrences ++ [option.2 value] } := by
  rw [parse.eq_def]
  simp only [if_neg notEnd, understood, awaits]

end

/-- One command line after another, unless one of them is misused. -/
def andThen
    (first second : Except OptionFault Parsed) :
    Except OptionFault Parsed := do
  let front ← first
  let back ← second
  return front.followedBy back

private theorem map_behind_andThen
    (word : Word)
    (first second : Except OptionFault Parsed) :
    andThen (first.map fun parsed => parsed.behind word) second =
      (andThen first second).map fun parsed => parsed.behind word := by
  cases first with
  | error fault => rfl
  | ok front =>
      cases second with
      | error fault => rfl
      | ok back =>
          exact congrArg Except.ok (front.followedBy_behind back word).symm

/-- What stands behind complete words is read as if it stood alone. -/
theorem Complete.parse_append
    {front : List Text}
    (complete : Complete front)
    (back : List Text) :
    parse (front ++ back) = andThen (parse front) (parse back) := by
  induction complete with
  | nil =>
      rw [List.nil_append, parse.eq_def []]
      cases parse back <;> rfl
  | misused word rest fault notEnd refused =>
      rw [List.cons_append, parse_misused notEnd refused,
        parse_misused notEnd refused]
      rfl
  | alone word rest read notEnd understood settled complete inductionHypothesis =>
      rw [List.cons_append, parse_alone notEnd understood settled,
        parse_alone notEnd understood settled, inductionHypothesis,
        map_behind_andThen]
  | withValue word value rest read option notEnd understood awaits complete
      inductionHypothesis =>
      rw [List.cons_append, List.cons_append,
        parse_withValue notEnd understood awaits,
        parse_withValue notEnd understood awaits, inductionHypothesis,
        map_behind_andThen]

/-! ## Words that belong to another program -/

/--
A word that neither begins nor is named as an option of this program: no option
at all, an option with a long name, or a group of letters behind one dash.
-/
inductive Foreign : Text → Prop where
  | positional
      (word : Text)
      (undashed : ∀ point rest, word ≠ 0x2d :: point :: rest) :
      Foreign word
  | long
      (first : CodePoint)
      (rest : Text)
      (unknown :
        longOption? (splitAtEquals (0x2d :: 0x2d :: first :: rest)).1 = none)
      (notHelp :
        (splitAtEquals (0x2d :: 0x2d :: first :: rest)).1 ≠ Text.ofString "--help") :
      Foreign (0x2d :: 0x2d :: first :: rest)
  | letters
      (first : CodePoint)
      (rest : Text)
      (oneDash : first ≠ 0x2d)
      (unknown : shortOption? first = none) :
      Foreign (0x2d :: first :: rest)

/-- A group of letters behind one dash, one of which is an option of this program. -/
def HoldsOwnLetter (word : Text) : Prop :=
  ∃ first rest,
    word = 0x2d :: first :: rest ∧
      first ≠ 0x2d ∧
        ∃ letter ∈ first :: rest, (shortOption? letter).isSome = true

/-- The long names of this program begin with two dashes. -/
theorem longOption?_eq_none
    {name : Text}
    (oneDash : name.take 2 ≠ [0x2d, 0x2d]) :
    longOption? name = none := by
  have dashed :
      ∀ entry ∈ longOptions, entry.1.take 2 = [0x2d, 0x2d] := by
    decide +kernel
  rw [longOption?, Option.map_eq_none_iff, List.find?_eq_none]
  intro entry member same
  rw [← of_decide_eq_true same] at oneDash
  exact oneDash (dashed entry member)

/-- A word with one dash is read letter by letter. -/
theorem readWord_letters
    {first : CodePoint}
    (oneDash : first ≠ 0x2d)
    (rest : Text) :
    readWord (0x2d :: first :: rest) = .ok (readLetters [] (first :: rest)) := by
  have unnamed :
      longOption? (splitAtEquals (0x2d :: first :: rest)).1 = none := by
    apply longOption?_eq_none
    have front :
        (splitAtEquals (0x2d :: first :: rest)).1.take 2 ≠ [0x2d, 0x2d] := by
      unfold splitAtEquals
      split
      · by_cases equals : first = 0x3d
        · subst equals
          simp
        · simpa [List.takeWhile_cons, equals] using oneDash
      · simpa using oneDash
    exact front
  have dashed :
      readWord (0x2d :: first :: rest) = readDashed (0x2d :: first :: rest) :=
    rfl
  rw [dashed, readDashed.eq_def]
  dsimp only
  rw [unnamed]
  dsimp only
  split
  · next same =>
      injection same with _ tail
      injection tail with twoDashes
      exact (oneDash twoDashes).elim
  · rfl

/-- Letters that are no options of this program stay together. -/
theorem readLetters_of_unknown
    {letters : Text}
    (unknown : ∀ letter ∈ letters, shortOption? letter = none)
    (seen : Text) :
    readLetters seen letters =
      { passedOn := if (seen ++ letters).isEmpty then [] else [0x2d :: (seen ++ letters)] } := by
  induction letters generalizing seen with
  | nil =>
      simp [readLetters]
  | cons letter letters inductionHypothesis =>
      obtain ⟨here, later⟩ := List.forall_mem_cons.mp unknown
      rw [readLetters]
      simp only [here]
      rw [inductionHypothesis later, List.append_assoc, List.singleton_append]

/-- A letter that is an option of this program is found wherever it stands. -/
theorem uses_of_readLetters
    {letters : Text}
    (own : ∃ letter ∈ letters, (shortOption? letter).isSome = true)
    (seen : Text) :
    (readLetters seen letters).occurrences ≠ [] ∨
      (readLetters seen letters).awaiting ≠ none := by
  induction letters generalizing seen with
  | nil =>
      obtain ⟨_, member, _⟩ := own
      exact (List.not_mem_nil member).elim
  | cons letter letters inductionHypothesis =>
      rw [readLetters]
      split
      · next unknown =>
          obtain ⟨other, member, isOwn⟩ := own
          refine inductionHypothesis ⟨other, ?_, isOwn⟩ _
          rcases List.mem_cons.mp member with rfl | later
          · rw [unknown] at isOwn
            cases isOwn
          · exact later
      · exact Or.inl (List.cons_ne_nil _ _)
      · dsimp only
        split
        · exact Or.inr (Option.some_ne_none _)
        · exact Or.inl (List.cons_ne_nil _ _)

/-- Two dashes alone belong to no other program. -/
theorem Foreign.not_end
    {word : Text}
    (foreign : Foreign word) :
    word ≠ [0x2d, 0x2d] := by
  cases foreign with
  | positional _ undashed => exact undashed _ _
  | long first rest unknown notHelp => simp
  | letters first rest oneDash unknown => simp [oneDash]

/-- A word of another program without letters of this one is passed on as it is. -/
theorem Foreign.readWord_eq
    {word : Text}
    (foreign : Foreign word)
    (noOwn : ¬HoldsOwnLetter word) :
    readWord word = .ok { passedOn := [word] } := by
  cases foreign with
  | positional _ undashed =>
      unfold readWord
      split
      · exact (undashed _ _ rfl).elim
      · rfl
  | long first rest unknown notHelp =>
      simp only [readWord, readDashed, unknown]
  | letters first rest oneDash _ =>
      have unknown :
          ∀ letter ∈ first :: rest, shortOption? letter = none := by
        intro letter member
        rw [← Option.not_isSome_iff_eq_none]
        exact fun own => noOwn ⟨first, rest, rfl, oneDash, letter, member, own⟩
      rw [readWord_letters oneDash, readLetters_of_unknown unknown]
      rfl

/-- Words of another program are passed on as they are if they hold no letter of this one. -/
theorem parse_eq_self
    {words : List Text}
    (foreign : ∀ word ∈ words, Foreign word)
    (noOwn : ∀ word ∈ words, ¬HoldsOwnLetter word) :
    parse words = .ok { linterArguments := words } := by
  induction words with
  | nil =>
      rfl
  | cons word words inductionHypothesis =>
      obtain ⟨here, later⟩ := List.forall_mem_cons.mp foreign
      obtain ⟨noOwnHere, noOwnLater⟩ := List.forall_mem_cons.mp noOwn
      rw [parse_alone here.not_end (here.readWord_eq noOwnHere) rfl,
        inductionHypothesis later noOwnLater]
      rfl

/-- An option in one word is an option of the command line. -/
theorem uses_of_parse
    {word : Text}
    {rest : List Text}
    {read : Word}
    {parsed : Parsed}
    (notEnd : word ≠ [0x2d, 0x2d])
    (understood : readWord word = .ok read)
    (uses : read.occurrences ≠ [] ∨ read.awaiting ≠ none)
    (whole : parse (word :: rest) = .ok parsed) :
    parsed.occurrences ≠ [] := by
  cases awaits : read.awaiting with
  | none =>
      have occurs : read.occurrences ≠ [] :=
        uses.resolve_right (absurd awaits)
      rw [parse_alone notEnd understood awaits] at whole
      cases others : parse rest with
      | error fault =>
          rw [others] at whole
          cases whole
      | ok found =>
          rw [others] at whole
          cases whole
          exact List.append_ne_nil_of_left_ne_nil occurs _
  | some option =>
      cases rest with
      | nil =>
          rw [parse.eq_def] at whole
          simp only [if_neg notEnd, understood, awaits] at whole
          cases whole
      | cons value rest =>
          rw [parse_withValue notEnd understood awaits] at whole
          cases others : parse rest with
          | error fault =>
              rw [others] at whole
              cases whole
          | ok found =>
              rw [others] at whole
              cases whole
              simp [Parsed.behind]

/-- Words of another program in which this one finds no option hold no letter of it. -/
theorem noOwnLetter_of_parse
    {words : List Text}
    {parsed : Parsed}
    (foreign : ∀ word ∈ words, Foreign word)
    (understood : parse words = .ok parsed)
    (unused : parsed.occurrences = []) :
    ∀ word ∈ words, ¬HoldsOwnLetter word := by
  induction words generalizing parsed with
  | nil =>
      exact fun _ member => (List.not_mem_nil member).elim
  | cons word words inductionHypothesis =>
      obtain ⟨here, later⟩ := List.forall_mem_cons.mp foreign
      have noOwnHere : ¬HoldsOwnLetter word := by
        rintro ⟨first, rest, rfl, oneDash, holds⟩
        exact
          uses_of_parse here.not_end (readWord_letters oneDash rest)
            (uses_of_readLetters holds []) understood unused
      rw [parse_alone here.not_end (here.readWord_eq noOwnHere) rfl]
        at understood
      cases others : parse words with
      | error fault =>
          rw [others] at understood
          cases understood
      | ok found =>
          rw [others] at understood
          cases understood
          exact
            List.forall_mem_cons.mpr
              ⟨noOwnHere, inductionHypothesis later others unused⟩

end Tolerance.CommandLine
