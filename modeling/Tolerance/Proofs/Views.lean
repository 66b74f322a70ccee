import Tolerance.Proofs.Excerpt

namespace Tolerance

/-!
# One reader of changing files

While a reader is in use the files may change in any way.  What it answers of a
file is settled by what was in the file when its lines were needed first; what
becomes of the file afterwards, and what is read of others, does not matter.
-/

open Workspace

namespace SourceReader

/-! ## What a reader is asked -/

/-- Files are written, deleted or changed in any other way, or a reader is asked for something. -/
inductive Event where
  | change (next : Workspace → Workspace)
  | lines (filename : Text)
  | excerpt (diagnostic : Diagnostic)

/-- What a reader answers. -/
inductive Answer where
  | nothing
  | lines (view : Option (List Text))
  | excerpt (found : Option Excerpt)
  deriving Repr, DecidableEq

namespace Event

/-- The lines of a file are needed; an excerpt needs them if there is a line that a file can have. -/
inductive AsksFor : Event → Text → Prop where
  | lines (filename : Text) : AsksFor (.lines filename) filename
  | excerpt (diagnostic : Diagnostic) (placed : diagnostic.Placed) :
      AsksFor (.excerpt diagnostic) diagnostic.filename

theorem asksFor_lines_iff
    {filename other : Text} :
    AsksFor (.lines filename) other ↔ filename = other := by
  constructor
  · intro asks
    cases asks
    rfl
  · rintro rfl
    exact .lines filename

/-- The files behind an event. -/
def filesAfter : Event → Workspace → Workspace
  | .change next, files => next files
  | .lines _, files => files
  | .excerpt _, files => files

/-- What a reader answers, and what it has come to. -/
def answer
    (reader : SourceReader)
    (files : Workspace) :
    Event → Except Path.Fault (Answer × SourceReader)
  | .change _ => .ok (.nothing, reader)
  | .lines filename =>
      (reader.lines files filename).map fun (view, after) => (.lines view, after)
  | .excerpt diagnostic =>
      (reader.excerpt? files diagnostic).map fun (found, after) =>
        (.excerpt found, after)

/-- The reader behind an event; one that failed is as it was. -/
def readerAfter
    (reader : SourceReader)
    (files : Workspace)
    (event : Event) :
    SourceReader :=
  match event.answer reader files with
  | .error _ => reader
  | .ok (_, after) => after

/-- What is answered out of the lines that a file had, if it could be read. -/
def answerFrom (context : Int) (view : Option (List Text)) : Event → Answer
  | .change _ => .nothing
  | .lines _ => .lines view
  | .excerpt diagnostic =>
      .excerpt
        (view.bind fun lines =>
          diagnostic.line.bind fun line =>
            Excerpt.cut? lines line diagnostic.column context)

end Event

/-- The files behind several events. -/
def filesAfter (files : Workspace) (events : List Event) : Workspace :=
  events.foldl (fun present event => event.filesAfter present) files

/-- The reader behind several events. -/
def readerAfter
    (reader : SourceReader)
    (files : Workspace) :
    List Event → SourceReader
  | [] => reader
  | event :: later =>
      readerAfter (event.readerAfter reader files) (event.filesAfter files) later

/-- Several events, each with what the reader answers to it; after a failure it goes on. -/
def answers
    (reader : SourceReader)
    (files : Workspace) :
    List Event → List (Event × Except Path.Fault Answer)
  | [] => []
  | event :: later =>
      (event, (event.answer reader files).map Prod.fst) ::
        answers (event.readerAfter reader files) (event.filesAfter files) later

/-! ## One file -/

section Lines

variable {reader : SourceReader} {files : Workspace} {filename : Text}
  {view : Option (List Text)} {fault : Path.Fault} {path : Path}

/-- A path that cannot be looked up is refused whatever is in the files. -/
theorem readLines_eq_error_iff :
    readLines files path = .error fault ↔ path.encode = .error fault := by
  cases encoded : path.encode with
  | error refusal =>
      simp only [readLines, readFile, status, locate, encoded, Except.error.injEq]
  | ok bytes =>
      have reads := reads_readLines files path
      constructor
      · intro refused
        rw [refused] at reads
        cases reads with
        | unusable _ notAccepted => exact (notAccepted ⟨bytes, encoded⟩).elim
      · intro refused
        cases refused

/-- What a reader remembers of a file stands for what is in it. -/
theorem map_fst_lines :
    (reader.lines files filename).map Prod.fst =
      match reader.views.get? filename with
      | some view => .ok view
      | none => readLines files (reader.pathOf filename) := by
  unfold lines
  cases reader.views.get? filename with
  | some view => rfl
  | none => cases readLines files (reader.pathOf filename) <;> rfl

/-- Whatever is in the files, a reader has the same view of one of them. -/
def Fixed
    (reader : SourceReader)
    (filename : Text)
    (view : Except Path.Fault (Option (List Text))) :
    Prop :=
  ∀ files, (reader.lines files filename).map Prod.fst = view

theorem map_fst_lines_of_unread
    (unread : reader.views.get? filename = none) :
    (reader.lines files filename).map Prod.fst =
      readLines files (reader.pathOf filename) := by
  rw [map_fst_lines, unread]

theorem fixed_of_remembered
    (remembered : reader.views.get? filename = some view) :
    reader.Fixed filename (.ok view) := by
  intro files
  rw [map_fst_lines, remembered]

theorem fixed_of_refused
    (unread : reader.views.get? filename = none)
    (refused : (reader.pathOf filename).encode = .error fault) :
    reader.Fixed filename (.error fault) := by
  intro files
  rw [map_fst_lines, unread]
  exact readLines_eq_error_iff.mpr refused

end Lines

/-! ## One event -/

section Step

variable {reader : SourceReader} {files : Workspace} {filename : Text}
  {event : Event} {view : Except Path.Fault (Option (List Text))}

/-- What needs the lines of a file is answered out of them. -/
theorem answer_of_asksFor
    (asks : event.AsksFor filename) :
    event.answer reader files =
      (reader.lines files filename).map fun (view, after) =>
        (event.answerFrom reader.context view, after) := by
  cases asks with
  | lines filename =>
      rfl
  | excerpt diagnostic placed =>
      obtain ⟨line, isLine, positive⟩ := placed
      have notEarly : ¬line < 1 := by omega
      simp only [Event.answer, excerpt?, isLine, if_neg notEarly, Event.answerFrom,
        Option.bind_some]
      cases reader.lines files diagnostic.filename with
      | error fault => rfl
      | ok outcome =>
          obtain ⟨lines | lines, after⟩ := outcome <;> rfl

/-- What needs no lines leaves the reader as it is. -/
theorem readerAfter_of_not_asksFor
    (asksForNone : ∀ filename, ¬event.AsksFor filename) :
    event.readerAfter reader files = reader := by
  cases event with
  | change next =>
      rfl
  | lines filename =>
      exact (asksForNone filename (.lines filename)).elim
  | excerpt diagnostic =>
      have notPlaced : ¬diagnostic.Placed := fun placed =>
        asksForNone diagnostic.filename (.excerpt diagnostic placed)
      simp only [Event.readerAfter, Event.answer, excerpt?_of_not_placed notPlaced]
      rfl

/-- A reader goes on as it was, or it has read a file that is needed and remembers it. -/
theorem readerAfter_cases
    (reader : SourceReader)
    (files : Workspace)
    (event : Event) :
    event.readerAfter reader files = reader ∨
      ∃ filename view,
        event.AsksFor filename ∧
          reader.views.get? filename = none ∧
          readLines files (reader.pathOf filename) = .ok view ∧
          event.readerAfter reader files =
            { reader with views := reader.views.insert filename view } := by
  by_cases asksForSome : ∃ filename, event.AsksFor filename
  · obtain ⟨filename, asks⟩ := asksForSome
    unfold Event.readerAfter
    rw [answer_of_asksFor asks]
    unfold lines
    cases unread : reader.views.get? filename with
    | some view => exact Or.inl rfl
    | none =>
        cases read : readLines files (reader.pathOf filename) with
        | error fault => exact Or.inl rfl
        | ok view => exact Or.inr ⟨filename, view, asks, unread, read, rfl⟩
  · exact Or.inl (readerAfter_of_not_asksFor (not_exists.mp asksForSome))

theorem readerAfter_root : (event.readerAfter reader files).root = reader.root := by
  rcases readerAfter_cases reader files event with same | ⟨_, _, _, _, _, read⟩
  · rw [same]
  · rw [read]

theorem readerAfter_context :
    (event.readerAfter reader files).context = reader.context := by
  rcases readerAfter_cases reader files event with same | ⟨_, _, _, _, _, read⟩
  · rw [same]
  · rw [read]

theorem readerAfter_pathOf :
    (event.readerAfter reader files).pathOf filename = reader.pathOf filename := by
  rw [pathOf, readerAfter_root, pathOf]

/-- What is remembered of a file changes only when its lines are needed. -/
theorem get?_readerAfter_of_not_asksFor
    (notAsked : ¬event.AsksFor filename) :
    (event.readerAfter reader files).views.get? filename =
      reader.views.get? filename := by
  rcases readerAfter_cases reader files event with
    same | ⟨other, view, asks, _, _, read⟩
  · rw [same]
  · have different : other ≠ filename := fun same => notAsked (same ▸ asks)
    rw [read, OrderedMap.get?_insert, if_neg different]

/-- What is remembered stays remembered. -/
theorem get?_readerAfter_of_remembered
    {seen : Option (List Text)}
    (remembered : reader.views.get? filename = some seen) :
    (event.readerAfter reader files).views.get? filename = some seen := by
  rcases readerAfter_cases reader files event with
    same | ⟨other, view, _, unread, _, read⟩
  · rw [same, remembered]
  · have different : other ≠ filename := by
      rintro rfl
      rw [remembered] at unread
      cases unread
    rw [read, OrderedMap.get?_insert, if_neg different, remembered]

/-- The first reading of a file fixes the view of it. -/
theorem fixed_readerAfter_of_asksFor
    (asks : event.AsksFor filename)
    (unread : reader.views.get? filename = none) :
    (event.readerAfter reader files).Fixed filename
      (readLines files (reader.pathOf filename)) := by
  unfold Event.readerAfter
  rw [answer_of_asksFor asks]
  unfold lines
  rw [unread]
  cases read : readLines files (reader.pathOf filename) with
  | error fault =>
      exact fixed_of_refused unread (readLines_eq_error_iff.mp read)
  | ok view =>
      exact fixed_of_remembered (OrderedMap.get?_insert_self _ _ _)

/-- No event changes a view that is fixed. -/
theorem Fixed.readerAfter
    (fixed : reader.Fixed filename view)
    (event : Event)
    (files : Workspace) :
    (event.readerAfter reader files).Fixed filename view := by
  have isView (present : Workspace) := map_fst_lines.symm.trans (fixed present)
  cases remembered : reader.views.get? filename with
  | some seen =>
      simp only [remembered] at isView
      rw [← isView files]
      exact fixed_of_remembered (get?_readerAfter_of_remembered remembered)
  | none =>
      simp only [remembered] at isView
      by_cases asks : event.AsksFor filename
      · rw [← isView files]
        exact fixed_readerAfter_of_asksFor asks remembered
      · intro present
        rw [map_fst_lines, get?_readerAfter_of_not_asksFor asks, remembered,
          readerAfter_pathOf]
        exact isView present

/-- The answer to an event that needs lines comes out of the fixed view. -/
theorem Fixed.answer
    (fixed : reader.Fixed filename view)
    (asks : event.AsksFor filename)
    (files : Workspace) :
    (event.answer reader files).map Prod.fst =
      view.map (event.answerFrom reader.context) := by
  rw [answer_of_asksFor asks, ← fixed files]
  cases reader.lines files filename <;> rfl

end Step

/-! ## Many events -/

section Run

variable {reader : SourceReader} {files : Workspace} {filename : Text}
  {events : List Event} {view : Except Path.Fault (Option (List Text))}

theorem readerAfter_root_all
    (reader : SourceReader)
    (files : Workspace)
    (events : List Event) :
    (reader.readerAfter files events).root = reader.root ∧
      (reader.readerAfter files events).context = reader.context := by
  induction events generalizing reader files with
  | nil =>
      exact ⟨rfl, rfl⟩
  | cons event later inductionHypothesis =>
      obtain ⟨sameRoot, sameContext⟩ :=
        inductionHypothesis (event.readerAfter reader files) (event.filesAfter files)
      exact
        ⟨sameRoot.trans readerAfter_root, sameContext.trans readerAfter_context⟩

/-- Nothing is remembered of a file that nobody has asked for. -/
theorem get?_readerAfter_of_unasked
    (unasked : ∀ event ∈ events, ¬event.AsksFor filename) :
    (reader.readerAfter files events).views.get? filename =
      reader.views.get? filename := by
  induction events generalizing reader files with
  | nil =>
      rfl
  | cons event later inductionHypothesis =>
      obtain ⟨notAsked, unaskedLater⟩ := List.forall_mem_cons.mp unasked
      rw [readerAfter, inductionHypothesis unaskedLater,
        get?_readerAfter_of_not_asksFor notAsked]

theorem answers_append
    (reader : SourceReader)
    (files : Workspace)
    (first second : List Event) :
    answers reader files (first ++ second) =
      answers reader files first ++
        answers (reader.readerAfter files first) (filesAfter files first) second := by
  induction first generalizing reader files with
  | nil =>
      rfl
  | cons event later inductionHypothesis =>
      rw [List.cons_append, answers, answers, inductionHypothesis, List.cons_append]
      rfl

/-- Every event is answered, in the order of the events. -/
theorem map_fst_answers
    (reader : SourceReader)
    (files : Workspace)
    (events : List Event) :
    (answers reader files events).map Prod.fst = events := by
  induction events generalizing reader files with
  | nil =>
      rfl
  | cons event later inductionHypothesis =>
      rw [answers, List.map_cons, inductionHypothesis]

/-- Only an event that happened is answered. -/
theorem mem_of_mem_answers
    {exchange : Event × Except Path.Fault Answer}
    (member : exchange ∈ answers reader files events) :
    exchange.1 ∈ events := by
  rw [← map_fst_answers reader files events]
  exact List.mem_map_of_mem member

/-- From a fixed view on every answer comes out of it. -/
theorem Fixed.answers
    (fixed : reader.Fixed filename view)
    (files : Workspace)
    (events : List Event) :
    ∀ exchange ∈ answers reader files events,
      exchange.1.AsksFor filename →
      exchange.2 = view.map (exchange.1.answerFrom reader.context) := by
  induction events generalizing reader files with
  | nil =>
      intro exchange member
      cases member
  | cons event later inductionHypothesis =>
      rw [SourceReader.answers]
      refine List.forall_mem_cons.mpr ⟨fun asks => fixed.answer asks files, ?_⟩
      intro exchange member asks
      have answered :=
        inductionHypothesis (fixed.readerAfter event files) _ exchange member asks
      rw [readerAfter_context] at answered
      exact answered

/-- Every answer is given by some reader. -/
theorem exists_answer_of_mem
    {exchange : Event × Except Path.Fault Answer}
    (member : exchange ∈ answers reader files events) :
    ∃ present presentFiles,
      exchange.2 = (exchange.1.answer present presentFiles).map Prod.fst := by
  induction events generalizing reader files with
  | nil =>
      cases member
  | cons event later inductionHypothesis =>
      rcases List.mem_cons.mp member with rfl | inLater
      · exact ⟨reader, files, rfl⟩
      · exact inductionHypothesis inLater

/-- An excerpt is found only for a line that a file can have. -/
theorem placed_of_found
    {diagnostic : Diagnostic}
    {found : Excerpt}
    (answered :
      (.excerpt diagnostic, .ok (.excerpt (some found))) ∈
        answers reader files events) :
    diagnostic.Placed := by
  by_contra notPlaced
  obtain ⟨present, presentFiles, same⟩ := exists_answer_of_mem answered
  simp only [Event.answer, excerpt?_of_not_placed notPlaced] at same
  cases same

/-- An excerpt that is found is cut out of the lines of the view. -/
theorem exists_cut_of_answerFrom
    {context : Int}
    {diagnostic : Diagnostic}
    {found : Excerpt}
    (answered :
      .ok (.excerpt (some found)) =
        view.map ((Event.excerpt diagnostic).answerFrom context)) :
    ∃ lines line,
      view = .ok (some lines) ∧
        diagnostic.line = some line ∧
        Excerpt.cut? lines line diagnostic.column context = some found := by
  cases view with
  | error fault =>
      cases answered
  | ok seen =>
      have same := Answer.excerpt.inj (Except.ok.inj answered)
      obtain ⟨lines, isView, cut⟩ := Option.bind_eq_some_iff.mp same.symm
      obtain ⟨line, isLine, isCut⟩ := Option.bind_eq_some_iff.mp cut
      exact ⟨lines, line, congrArg Except.ok isView, isLine, isCut⟩

/-- A file that is needed is needed for a first time. -/
theorem exists_first_asked
    {event : Event}
    (member : event ∈ events)
    (asks : event.AsksFor filename) :
    ∃ earlier opening later,
      events = earlier ++ opening :: later ∧
        opening.AsksFor filename ∧
        ∀ event ∈ earlier, ¬event.AsksFor filename := by
  induction events with
  | nil =>
      cases member
  | cons first rest inductionHypothesis =>
      by_cases firstAsks : first.AsksFor filename
      · exact ⟨[], first, rest, rfl, firstAsks, by simp⟩
      · have inRest : event ∈ rest := by
          rcases List.mem_cons.mp member with rfl | inRest
          · exact (firstAsks asks).elim
          · exact inRest
        obtain ⟨earlier, opening, later, rfl, openingAsks, unasked⟩ :=
          inductionHypothesis inRest
        exact
          ⟨first :: earlier, opening, later, rfl, openingAsks,
            List.forall_mem_cons.mpr ⟨firstAsks, unasked⟩⟩

/-- Of a file that is needed for the first time every answer tells what was in it then. -/
theorem answers_of_first_asked
    (files : Workspace)
    {earlier : List Event}
    {opening : Event}
    (later : List Event)
    (unread : reader.views.get? filename = none)
    (asks : opening.AsksFor filename)
    (unasked : ∀ event ∈ earlier, ¬event.AsksFor filename) :
    ∀ exchange ∈ answers reader files (earlier ++ opening :: later),
      exchange.1.AsksFor filename →
      exchange.2 =
        (readLines (filesAfter files earlier) (reader.pathOf filename)).map
          (exchange.1.answerFrom reader.context) := by
  obtain ⟨sameRoot, sameContext⟩ := readerAfter_root_all reader files earlier
  have samePath :
      (reader.readerAfter files earlier).pathOf filename = reader.pathOf filename := by
    rw [pathOf, sameRoot, pathOf]
  have stillUnread :
      (reader.readerAfter files earlier).views.get? filename = none :=
    (get?_readerAfter_of_unasked unasked).trans unread
  rw [answers_append, answers, ← sameContext, ← samePath]
  intro exchange member asksToo
  rcases List.mem_append.mp member with before | fromThere
  · exact (unasked exchange.1 (mem_of_mem_answers before) asksToo).elim
  · rcases List.mem_cons.mp fromThere with rfl | after
    · rw [answer_of_asksFor asks, ← map_fst_lines_of_unread stillUnread]
      cases lines _ _ filename <;> rfl
    · have answered :=
        (fixed_readerAfter_of_asksFor asks stillUnread).answers _ later exchange after
          asksToo
      rw [readerAfter_context] at answered
      exact answered

end Run

/--
A new reader answers every event, and each file has one view for it.  Until the
lines of a file are needed first nothing is remembered of it; from then on
whatever is asked of this file is answered out of what was in it at that moment,
or is refused as it was then, however the files change and whatever is read
besides.  A diagnostic without a line that a file can have needs no lines: it is
answered without a look at the files and leaves the reader as it is.  Two
excerpts of one file are cut out of the same lines.
-/
theorem first_opening_fixes_view
    (root : Path)
    (context : Int)
    (files : Workspace)
    (events : List Event) :
    let reader : SourceReader := { root := root, context := context }
    (answers reader files events).map Prod.fst = events ∧
      (∀ filename earlier opening later,
        events = earlier ++ opening :: later →
        opening.AsksFor filename →
        (∀ event ∈ earlier, ¬event.AsksFor filename) →
        (reader.readerAfter files earlier).views.get? filename = none ∧
          ∀ event answer,
            (event, answer) ∈ answers reader files events →
            event.AsksFor filename →
            answer =
              (readLines (filesAfter files earlier) (reader.pathOf filename)).map
                (event.answerFrom context)) ∧
      (∀ diagnostic,
        ¬diagnostic.Placed →
        ∀ present presentFiles,
          (Event.excerpt diagnostic).answer present presentFiles =
            .ok (.excerpt none, present)) ∧
      ∀ first second found other,
        (.excerpt first, .ok (.excerpt (some found))) ∈ answers reader files events →
        (.excerpt second, .ok (.excerpt (some other))) ∈ answers reader files events →
        first.filename = second.filename →
        ∃ lines firstLine secondLine,
          first.line = some firstLine ∧
            second.line = some secondLine ∧
            Excerpt.cut? lines firstLine first.column context = some found ∧
            Excerpt.cut? lines secondLine second.column context = some other := by
  intro reader
  refine
    ⟨map_fst_answers reader files events, ?_, fun diagnostic notPlaced present _ => ?_, ?_⟩
  · rintro filename earlier opening later rfl asks unasked
    exact
      ⟨get?_readerAfter_of_unasked unasked, fun event answer =>
        answers_of_first_asked files later rfl asks unasked (event, answer)⟩
  · simp only [Event.answer, excerpt?_of_not_placed notPlaced]
    rfl
  · intro first second found other answeredFirst answeredSecond sameFile
    have firstAsks := Event.AsksFor.excerpt first (placed_of_found answeredFirst)
    have secondAsks := Event.AsksFor.excerpt second (placed_of_found answeredSecond)
    have isEvent : Event.excerpt first ∈ events := mem_of_mem_answers answeredFirst
    obtain ⟨earlier, opening, later, rfl, openingAsks, unasked⟩ :=
      exists_first_asked isEvent firstAsks
    have unread : reader.views.get? first.filename = none := rfl
    have comesFrom := answers_of_first_asked files later unread openingAsks unasked
    obtain ⟨lines, firstLine, isView, isLine, cut⟩ :=
      exists_cut_of_answerFrom (comesFrom _ answeredFirst firstAsks)
    obtain ⟨otherLines, secondLine, isSameView, isOtherLine, otherCut⟩ :=
      exists_cut_of_answerFrom (comesFrom _ answeredSecond (sameFile ▸ secondAsks))
    rw [isView] at isSameView
    cases isSameView
    exact ⟨lines, firstLine, secondLine, isLine, isOtherLine, cut, otherCut⟩

/-- A file that is deleted is shown as it was when its lines were needed first. -/
theorem deleted_file_is_shown_as_first_read :
    let files := (Workspace.fresh "/w" []).withFile "a.ts" [0x61]
    let unplaced : Diagnostic := { filename := "a.ts", rule := "no-var" }
    let placed : Diagnostic := { filename := "a.ts", rule := "no-var", line := some 1 }
    let earlier : List Event := [
      .excerpt unplaced,
      .lines "b.ts",
      .change fun present => present.withFile "a.ts" [0x62]]
    let later : List Event := [
      .change fun present => present.erase (present.locationOf "a.ts"),
      .excerpt placed]
    let events := earlier ++ .lines "a.ts" :: later
    let found : Excerpt := { line := 1, column := 0, target := "b" }
    (Event.lines "a.ts").AsksFor "a.ts" ∧
      (∀ event ∈ earlier, ¬event.AsksFor "a.ts") ∧
      ¬unplaced.Placed ∧
      (.excerpt placed, .ok (.excerpt (some found))) ∈ answers {} files events := by
  intro files unplaced placed earlier later events found
  have notPlaced : ¬unplaced.Placed := by
    rintro ⟨_, noLine, _⟩
    cases noLine
  have unasked : ∀ event ∈ earlier, ¬event.AsksFor "a.ts" := by
    intro event member asks
    rcases List.mem_cons.mp member with rfl | inRest
    · cases asks with
      | excerpt _ placed => exact notPlaced placed
    rcases List.mem_cons.mp inRest with rfl | isLast
    · exact absurd (Event.asksFor_lines_iff.mp asks) (by decide)
    · rw [List.mem_singleton.mp isLast] at asks
      cases asks
  have asks : (Event.excerpt placed).AsksFor "a.ts" :=
    .excerpt placed ⟨1, rfl, by decide⟩
  obtain ⟨allAnswered, views, _⟩ :=
    first_opening_fixes_view { anchor := .relative, parts := [] } 2 files events
  obtain ⟨-, answered⟩ := views "a.ts" earlier _ later rfl (.lines _) unasked
  have isEvent : Event.excerpt placed ∈ events := by
    simp [events, later]
  rw [← allAnswered] at isEvent
  obtain ⟨⟨event, answer⟩, member, rfl⟩ := List.mem_map.mp isEvent
  have read :
      readLines (filesAfter files earlier) (SourceReader.pathOf {} "a.ts") =
        .ok (some ["b"]) := by
    decide +kernel
  have isAnswer : answer = .ok (.excerpt (some found)) :=
    (answered _ answer member asks).trans (congrArg (Except.map _) read)
  rw [isAnswer] at member
  exact ⟨.lines _, unasked, notPlaced, member⟩

end SourceReader

end Tolerance
