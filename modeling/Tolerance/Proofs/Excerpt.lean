import Mathlib.Data.List.Forall2
import Tolerance.Proofs.Presentation
import Tolerance.Proofs.Source

namespace Tolerance

/-!
# The lines of an excerpt

An excerpt is cut around a line that its file has, and it shows the lines of the
file that are no further from this one than the context is wide.  Each of them
stands in the report once, in the order of the file, unaltered and behind its
own number, and the pointer is the line right behind the diagnosed one.
-/

open Outcome

namespace Workspace

/-- A file can be read as text, and these are the pieces between its line feeds. -/
def HasLines
    (workspace : Workspace)
    (path : Path)
    (lines : List Text) :
    Prop :=
  ∃ bytes text,
    workspace.readFile path = .ok bytes ∧
      Utf8.decode bytes = .ok text ∧
      lines = text.unifyLineEndings.lines

theorem HasLines.readLines_eq
    {workspace : Workspace}
    {path : Path}
    {lines : List Text}
    (hasLines : workspace.HasLines path lines) :
    SourceReader.readLines workspace path = .ok (some lines) := by
  obtain ⟨bytes, text, found, decoded, rfl⟩ := hasLines
  simp only [SourceReader.readLines, found, decoded]

end Workspace

/-! ## Cutting lines out of a file -/

namespace Excerpt

variable {lines : List Text} {index context : Nat} {column : Option Int}
  {found : Excerpt}

/-- An excerpt is cut around each line that a file has. -/
theorem cut?_succ :
    cut? lines (index + 1) column context =
      lines[index]?.map fun target => {
        line := index + 1
        column := column.getD 0
        before := (lines.take index).drop (index - context)
        target := target
        after := (lines.take (index + 1 + context)).drop (index + 1) } := by
  have isIndex : ((index : Int) + 1 - 1).toNat = index := by omega
  have start : ((index : Int) - (context : Int)).toNat = index - context := by
    omega
  have notNegative : ¬(index : Int) + 1 + context < 0 := by omega
  have stop :
      ((index : Int) + 1 + context).toNat = index + 1 + context := by
    omega
  unfold cut? linesBefore linesAfter
  dsimp only
  rw [isIndex, start, if_neg notNegative, stop]
  cases lines[index]? <;> rfl

theorem cut?_eq_none_iff :
    cut? lines (index + 1) column context = none ↔ lines.length ≤ index := by
  rw [cut?_succ, Option.map_eq_none_iff, List.getElem?_eq_none_iff]

end Excerpt

namespace SourceReader

variable {workspace : Workspace} {reader : SourceReader}
  {diagnostic : Diagnostic}

/-- Without a line that a file can have no file is read. -/
theorem excerpt?_of_not_placed
    (notPlaced : ¬diagnostic.Placed) :
    reader.excerpt? workspace diagnostic = .ok (none, reader) := by
  unfold excerpt?
  split
  · rfl
  next line isLine =>
  split
  · rfl
  next positive =>
  exact (notPlaced ⟨line, isLine, by omega⟩).elim

/-- An excerpt is cut out of the lines that the file has. -/
theorem excerpt?_of_hasLines
    {lines : List Text}
    {index : Nat}
    (faithful : reader.Faithful workspace)
    (hasLines : workspace.HasLines (reader.pathOf diagnostic.filename) lines)
    (isLine : diagnostic.line = some ((index : Int) + 1)) :
    ∃ after,
      reader.excerpt? workspace diagnostic =
          .ok
            (Excerpt.cut? lines (index + 1) diagnostic.column reader.context,
              after) ∧
        Continues workspace reader after := by
  have positive : ¬(index : Int) + 1 < 1 := by omega
  rcases (Continues.refl faithful).lines diagnostic.filename with
    ⟨fault, refused, _⟩ | ⟨view, after, read, ran, continues⟩
  · rw [hasLines.readLines_eq] at refused
    cases refused
  · rw [hasLines.readLines_eq] at read
    cases read
    refine ⟨after, ?_, continues⟩
    simp only [excerpt?, isLine, if_neg positive, ran]

end SourceReader

namespace Report

/-! ## Lines behind their numbers -/

/-- What stands in front of a line: its number and the bar behind it. -/
def margin (line : Int) : Text :=
  (Style.coloured .brightBlack).apply ((Numeral.ofInt line).padLeft 4) ++ bar

theorem numberedLine_eq_ok_iff
    {line : Int}
    {text shown : Text} :
    numberedLine line text = .ok shown ↔
      Writable line ∧ shown = margin line ++ text := by
  unfold numberedLine
  rw [bind_eq_ok_iff]
  simp only [number_eq_ok_iff, pure, Except.pure, Except.ok.injEq]
  constructor
  · rintro ⟨_, ⟨writable, rfl⟩, rfl⟩
    exact ⟨writable, rfl⟩
  · rintro ⟨writable, rfl⟩
    exact ⟨_, ⟨writable, rfl⟩, rfl⟩

theorem numberedLines_cons_eq_ok_iff
    {first : Int}
    {text : Text}
    {rest shown : List Text} :
    numberedLines first (text :: rest) = .ok shown ↔
      ∃ line others,
        numberedLine first text = .ok line ∧
          numberedLines (first + 1) rest = .ok others ∧
          shown = line :: others := by
  rw [numberedLines, bind_eq_ok_iff]
  simp only [bind_eq_ok_iff, pure, Except.pure, Except.ok.injEq]
  constructor
  · rintro ⟨line, wrote, others, wroteOthers, rfl⟩
    exact ⟨line, others, wrote, wroteOthers, rfl⟩
  · rintro ⟨line, others, wrote, wroteOthers, rfl⟩
    exact ⟨line, wrote, others, wroteOthers, rfl⟩

/-- Each line is shown once. -/
theorem length_of_numberedLines
    {first : Int}
    {texts shown : List Text}
    (numbered : numberedLines first texts = .ok shown) :
    shown.length = texts.length := by
  induction texts generalizing first shown with
  | nil =>
      cases numbered
      rfl
  | cons text rest inductionHypothesis =>
      obtain ⟨line, others, _, wroteOthers, rfl⟩ :=
        numberedLines_cons_eq_ok_iff.mp numbered
      rw [List.length_cons, List.length_cons, inductionHypothesis wroteOthers]

/-- A line of a file as it is shown behind its number; lines are counted from one. -/
def ShowsLine
    (lines : List Text)
    (number : Nat)
    (shown : Text) :
    Prop :=
  ∃ text, lines[number - 1]? = some text ∧ shown = margin number ++ text

/-- Lines of a file that follow one another are shown behind their own numbers. -/
theorem showsLine_of_numberedLines
    {lines texts shown : List Text}
    {start : Nat}
    (inFile : texts <+: lines.drop start)
    (numbered : numberedLines (start + 1) texts = .ok shown) :
    List.Forall₂ (ShowsLine lines)
      (List.range' (start + 1) texts.length) shown := by
  induction texts generalizing start shown with
  | nil =>
      cases numbered
      exact .nil
  | cons text rest inductionHypothesis =>
      obtain ⟨line, others, wrote, wroteOthers, rfl⟩ :=
        numberedLines_cons_eq_ok_iff.mp numbered
      obtain ⟨_, rfl⟩ := numberedLine_eq_ok_iff.mp wrote
      obtain ⟨later, inFile⟩ := inFile
      have atStart : lines[start]? = some text := by
        rw [← List.head?_drop, ← inFile]
        rfl
      have restInFile : rest <+: lines.drop (start + 1) := by
        refine ⟨later, ?_⟩
        simpa using congrArg (List.drop 1) inFile
      rw [List.length_cons, List.range'_succ]
      refine .cons ⟨text, atStart, rfl⟩ (inductionHypothesis restInFile ?_)
      simpa using wroteOthers

/-! ## The parts of an excerpt -/

/-- The lines in front of the numbered ones say what was found, and where. -/
def opening
    (diagnostic : Diagnostic)
    (place : Text) :
    List Text := [
  "  " ++ (Style.boldColoured .red).apply "x" ++ " " ++
    (Style.coloured .red).apply diagnostic.rule ++ ": " ++ diagnostic.message,
  "     " ++ (Style.coloured .brightBlack).apply ",-" ++
    (Style.coloured .blue).apply ("[" ++ place ++ "]")]

/-- The lines behind the numbered ones close the frame and give the help. -/
def closing (diagnostic : Diagnostic) : List Text :=
  ("     " ++ (Style.coloured .brightBlack).apply "`----") ::
    helpLines diagnostic.help

/-- The parts that an excerpt is put together of. -/
theorem exists_parts_of_excerpt_eq_ok
    {found : Excerpt}
    {diagnostic : Diagnostic}
    {memory : Nat}
    {shown : Text}
    (wrote : excerpt found diagnostic memory = .ok shown) :
    ∃ place above target pointer below,
      location diagnostic = .ok place ∧
        numberedLines found.firstLine found.before = .ok above ∧
        numberedLine found.line found.target = .ok target ∧
        pointerLine memory found.column diagnostic.message = .ok pointer ∧
        numberedLines (found.line + 1) found.after = .ok below ∧
        shown =
          Text.join "\n"
            (opening diagnostic place ++ above ++ [target, pointer] ++ below ++
              closing diagnostic) := by
  unfold excerpt excerptLines at wrote
  simp only [bind_eq_ok_iff, pure, Except.pure, Except.ok.injEq] at wrote
  obtain
    ⟨_, ⟨place, located, above, numberedAbove, target, numbered, pointer, pointed,
      below, numberedBelow, rfl⟩, rfl⟩ := wrote
  refine
    ⟨place, above, target, pointer, below, located, numberedAbove, numbered,
      pointed, numberedBelow, ?_⟩
  simp only [opening, closing, List.append_assoc, List.cons_append,
    List.nil_append]

/-! ## Excerpts of a file -/

/--
A text shows the lines of a file from a first to a last one, in their order and
each once, and the pointer right behind a given one of them.
-/
def ShowsLinesAround
    (memory : Nat)
    (lines : List Text)
    (diagnostic : Diagnostic)
    (first number last : Nat)
    (shown : Text) :
    Prop :=
  ∃ place above target pointer below,
    location diagnostic = .ok place ∧
      pointerLine memory (diagnostic.column.getD 0) diagnostic.message = .ok pointer ∧
      List.Forall₂ (ShowsLine lines) (List.range' first (number - first)) above ∧
      ShowsLine lines number target ∧
      List.Forall₂ (ShowsLine lines) (List.range' (number + 1) (last - number))
        below ∧
      shown =
        Text.join "\n"
          (opening diagnostic place ++ above ++ [target, pointer] ++ below ++
            closing diagnostic)

section Cut

variable {lines : List Text} {index context : Nat} {diagnostic : Diagnostic}
  {found : Excerpt} {memory : Nat}

/-- An excerpt of a file shows the lines around the one it was cut around. -/
theorem showsLinesAround_of_cut?
    {shown : Text}
    (cut :
      Excerpt.cut? lines (index + 1) diagnostic.column context = some found)
    (wrote : excerpt found diagnostic memory = .ok shown) :
    ShowsLinesAround memory lines diagnostic (max 1 (index + 1 - context)) (index + 1)
      (min lines.length (index + 1 + context)) shown := by
  rw [Excerpt.cut?_succ, Option.map_eq_some_iff] at cut
  obtain ⟨target, present, rfl⟩ := cut
  obtain ⟨inside, _⟩ := List.getElem?_eq_some_iff.mp present
  obtain
    ⟨place, above, line, pointer, below, located, numberedAbove, numbered, pointed,
      numberedBelow, rfl⟩ := exists_parts_of_excerpt_eq_ok wrote
  obtain ⟨-, rfl⟩ := numberedLine_eq_ok_iff.mp numbered
  -- Numbers count from one, so the first one is one more than the lines in front of it.
  have first : max 1 (index + 1 - context) = index - context + 1 := by
    omega
  have countAbove :
      ((lines.take index).drop (index - context)).length =
        index + 1 - (index - context + 1) := by
    rw [List.length_drop, List.length_take]
    omega
  have countBelow :
      ((lines.take (index + 1 + context)).drop (index + 1)).length =
        min lines.length (index + 1 + context) - (index + 1) := by
    rw [List.length_drop, List.length_take]
    omega
  have firstNumber :
      (index : Int) + 1 - (index + 1 - (index - context + 1) : Nat) =
        (index - context : Nat) + 1 := by
    omega
  refine
    ⟨place, above, _, pointer, below, located, pointed, ?_, ⟨target, present, rfl⟩,
      ?_, rfl⟩
  · rw [first, ← countAbove]
    refine showsLine_of_numberedLines ?_ ?_
    · rw [List.drop_take]
      exact List.take_prefix _ _
    · rw [Excerpt.firstLine, countAbove, firstNumber] at numberedAbove
      exact numberedAbove
  · rw [← countBelow]
    refine showsLine_of_numberedLines ?_ numberedBelow
    rw [List.drop_take]
    exact List.take_prefix _ _

/-- An excerpt of a file is shown if its place, its last number and its pointer can be. -/
theorem exists_excerpt_eq_ok_iff_of_cut?
    (cut :
      Excerpt.cut? lines (index + 1) diagnostic.column context = some found) :
    (∃ shown, excerpt found diagnostic memory = .ok shown) ↔
      Locatable diagnostic ∧
        Pointable memory (diagnostic.column.getD 0) ∧
        Writable (min lines.length (index + 1 + context) : Nat) := by
  rw [(givenIff_excerpt memory found diagnostic).exists_eq_ok_iff]
  rw [Excerpt.cut?_succ, Option.map_eq_some_iff] at cut
  obtain ⟨target, present, rfl⟩ := cut
  obtain ⟨inside, _⟩ := List.getElem?_eq_some_iff.mp present
  refine and_congr_right fun _ => ?_
  constructor
  · rintro ⟨numbers, pointer⟩
    refine ⟨pointer, numbers _ ?_ ?_⟩
    · simp only [Excerpt.firstLine, List.length_drop, List.length_take]
      omega
    · simp only [List.length_drop, List.length_take]
      omega
  · rintro ⟨pointer, lastWritable⟩
    refine ⟨fun line notBefore notAfter => ?_, pointer⟩
    simp only [Excerpt.firstLine, List.length_drop, List.length_take]
      at notBefore notAfter
    have notLarger :
        line.natAbs ≤
          ((min lines.length (index + 1 + context) : Nat) : Int).natAbs := by
      omega
    exact Nat.lt_of_le_of_lt notLarger lastWritable

end Cut

/--
For a file that can be read as text an excerpt is found exactly if the diagnostic
has a line and the file has this line.  It can be shown exactly if the line and
the column have no more digits than are written, nor has the last number shown,
and a text can have the blanks in front of the pointer, for which the machine has
memory as well.  Then the lines of the file that are no further from the diagnosed
one than the context is wide are shown once each, ascending, unaltered and behind
their own numbers, and the pointer stands right behind the diagnosed line.
-/
theorem excerpt_shows_lines_around
    {workspace : Workspace}
    {reader : SourceReader}
    {context : Nat}
    {lines : List Text}
    (diagnostic : Diagnostic)
    (faithful : reader.Faithful workspace)
    (width : reader.context = context)
    (hasLines :
      workspace.HasLines (reader.pathOf diagnostic.filename) lines)
    (memory : Nat) :
    ∃ found after,
      reader.excerpt? workspace diagnostic = .ok (found, after) ∧
        SourceReader.Continues workspace reader after ∧
        (found = none ↔
          diagnostic.line = none ∨
            ∃ line,
              diagnostic.line = some line ∧
                (line < 1 ∨ (lines.length : Int) < line)) ∧
        ∀ cut,
          found = some cut →
          ∃ number : Nat,
            diagnostic.line = some (number : Int) ∧
              ((∃ shown, excerpt cut diagnostic memory = .ok shown) ↔
                Locatable diagnostic ∧
                  Pointable memory (diagnostic.column.getD 0) ∧
                  Writable (min lines.length (number + context) : Nat)) ∧
              ∀ shown,
                excerpt cut diagnostic memory = .ok shown →
                ShowsLinesAround memory lines diagnostic (max 1 (number - context))
                  number (min lines.length (number + context)) shown := by
  by_cases placed : diagnostic.Placed
  · obtain ⟨line, isLine, positive⟩ := placed
    obtain ⟨index, rfl⟩ : ∃ index : Nat, line = index + 1 :=
      ⟨(line - 1).toNat, by omega⟩
    obtain ⟨after, ran, continues⟩ :=
      SourceReader.excerpt?_of_hasLines faithful hasLines isLine
    rw [width] at ran
    refine ⟨_, after, ran, continues, ?_, fun cut isCut => ?_⟩
    · rw [Excerpt.cut?_eq_none_iff, isLine]
      simp only [reduceCtorEq, Option.some.injEq, exists_eq_left', false_or]
      omega
    · exact
        ⟨index + 1, isLine, exists_excerpt_eq_ok_iff_of_cut? isCut,
          fun shown => showsLinesAround_of_cut? isCut⟩
  · refine
      ⟨none, reader, SourceReader.excerpt?_of_not_placed placed,
        SourceReader.Continues.refl faithful, ?_, by simp⟩
    rw [eq_self, true_iff]
    cases isLine : diagnostic.line with
    | none => exact Or.inl rfl
    | some line =>
        refine Or.inr ⟨line, rfl, Or.inl ?_⟩
        by_contra positive
        exact placed ⟨line, isLine, by omega⟩

/-- The first line of a file is shown with the one behind it. -/
theorem context_is_clipped_at_first_line :
    let workspace :=
      (Workspace.fresh "/w" []).withFile "a.ts" [0x61, 0x0d, 0x0a, 0x62, 0x0a, 0x63]
    let reader : SourceReader := { context := 1 }
    let lines : List Text := ["a", "b", "c"]
    let diagnostic : Diagnostic := {
      filename := "a.ts"
      rule := "no-var"
      line := some 1
    }
    reader.Faithful workspace ∧
      reader.context = (1 : Nat) ∧
      workspace.HasLines (reader.pathOf diagnostic.filename) lines ∧
        ∃ found after shown,
          reader.excerpt? workspace diagnostic = .ok (some found, after) ∧
            excerpt found diagnostic = .ok shown ∧
            ShowsLinesAround usualMemory lines diagnostic 1 1 2 shown := by
  intro workspace reader lines diagnostic
  have faithful : reader.Faithful workspace :=
    SourceReader.faithful_of_unread rfl workspace
  have hasLines : workspace.HasLines (reader.pathOf diagnostic.filename) lines :=
    ⟨[0x61, 0x0d, 0x0a, 0x62, 0x0a, 0x63], Text.ofString "a\r\nb\nc", by decide +kernel⟩
  obtain ⟨found, after, ran, _, isNone, shows⟩ :=
    excerpt_shows_lines_around diagnostic faithful rfl hasLines usualMemory
  cases found with
  | none =>
      rcases isNone.mp rfl with noLine | ⟨line, isLine, outside⟩
      · cases noLine
      · cases isLine
        exact absurd outside (by decide)
  | some found =>
      obtain ⟨number, isLine, canBeShown, showsAround⟩ := shows found rfl
      obtain rfl : number = 1 :=
        Int.natCast_inj.mp (Option.some.inj isLine).symm
      obtain ⟨shown, wrote⟩ :=
        canBeShown.mpr
          ⟨by decide +kernel, by decide +kernel, by decide +kernel⟩
      exact
        ⟨faithful, rfl, hasLines, found, after, shown, ran, wrote,
          showsAround shown wrote⟩

/-- A column that no text is as long as keeps an excerpt from being shown. -/
theorem huge_column_is_not_shown :
    let workspace := (Workspace.fresh "/w" []).withFile "a.ts" [0x78]
    let diagnostic : Diagnostic := {
      filename := "a.ts"
      rule := "no-var"
      line := some 1
      column := some 9223372036854775808
    }
    workspace.HasLines (SourceReader.pathOf {} diagnostic.filename) ["x"] ∧
      ∃ found after,
        SourceReader.excerpt? {} workspace diagnostic = .ok (some found, after) ∧
          excerpt found diagnostic = .error .columnTooLarge := by
  intro workspace diagnostic
  refine ⟨⟨[0x78], "x", by decide +kernel⟩, ?_⟩
  refine
    ⟨{ line := 1, column := 9223372036854775808, target := "x" },
      { views := OrderedMap.empty.insert "a.ts" (some ["x"]) }, ?_⟩
  decide +kernel

end Report

end Tolerance
