import Tolerance.Proofs.Delegation
import Tolerance.Proofs.Directories

namespace Tolerance

/-!
# Ways to linter output

A run is given linter output on its standard input, in a file, or by the linter
that it calls.  The words that choose one of these ways stand anywhere among the
words of the command line, and choose nothing else.  What the linter printed is
read one call further down the stack, so that the deepest text that can be read
from the other two is too deep for it.
-/

open Outcome

namespace CommandLine

/-! ## The words of a channel -/

/-- A way in which a run is given linter output. -/
inductive Channel where
  | stdin
  | inputFile
  | linter
  deriving DecidableEq

/-- A use of an option that chooses a channel. -/
def Occurrence.choosesChannel : Occurrence → Bool
  | .inputFile _ => true
  | .stdin _ => true
  | _ => false

namespace Channel

/-- The words that choose a channel. -/
def words (path : Text) : Channel → List Text
  | .stdin => ["--stdin"]
  | .inputFile => ["--input-file", path]
  | .linter => []

/-- The uses of options in these words. -/
def occurrences (path : Text) : Channel → List Occurrence
  | .stdin => [.stdin true]
  | .inputFile => [.inputFile path]
  | .linter => []

theorem complete_words
    (path : Text)
    (channel : Channel) :
    Complete (channel.words path) := by
  cases channel with
  | stdin => exact .alone _ _ _ (by decide) rfl rfl .nil
  | inputFile => exact .withValue _ _ _ _ _ (by decide) rfl rfl .nil
  | linter => exact .nil

theorem parse_words
    (path : Text)
    (channel : Channel) :
    parse (channel.words path) = .ok { occurrences := channel.occurrences path } := by
  cases channel with
  | stdin => rfl
  | inputFile => rfl
  | linter => rfl

theorem choosesChannel_of_mem
    {path : Text}
    {channel : Channel}
    {occurrence : Occurrence}
    (member : occurrence ∈ channel.occurrences path) :
    occurrence.choosesChannel = true := by
  cases channel with
  | stdin => rw [List.mem_singleton.mp member]; rfl
  | inputFile => rw [List.mem_singleton.mp member]; rfl
  | linter => cases member

end Channel

namespace Parsed

/-- A command line that chooses no channel. -/
def Undirected (parsed : Parsed) : Prop :=
  ∀ occurrence ∈ parsed.occurrences, occurrence.choosesChannel = false

/-- A command line with the words of a channel between its two parts. -/
def through (first second : Parsed) (path : Text) (channel : Channel) : Parsed :=
  first.followedBy (followedBy { occurrences := channel.occurrences path } second)

end Parsed

/-- Words are misused whatever the channel, or they are read apart from its words. -/
theorem parse_through
    {front : List Text}
    (complete : Complete front)
    (back : List Text)
    (path : Text) :
    (∃ fault,
      ∀ channel : Channel,
        parse (front ++ (channel.words path ++ back)) = .error fault) ∨
    ∃ first second : Parsed,
      ∀ channel,
        parse (front ++ (channel.words path ++ back)) =
          .ok (first.through second path channel) := by
  have reads (channel : Channel) :
      parse (front ++ (channel.words path ++ back)) =
        andThen (parse front)
          (andThen (.ok { occurrences := channel.occurrences path })
            (parse back)) := by
    rw [complete.parse_append, (channel.complete_words path).parse_append,
      channel.parse_words]
  cases readFront : parse front with
  | error fault =>
      exact Or.inl ⟨fault, fun channel => by rw [reads, readFront]; rfl⟩
  | ok first =>
      cases readBack : parse back with
      | error fault =>
          exact Or.inl ⟨fault, fun channel => by rw [reads, readFront, readBack]; rfl⟩
      | ok second =>
          exact
            Or.inr
              ⟨first, second, fun channel => by rw [reads, readFront, readBack]; rfl⟩

section

variable {first second : Parsed} {path : Text} {channel : Channel}

/-- The last use in two command lines is the last one in the second if there is one. -/
theorem last?_followedBy
    (first second : Parsed)
    (pick : Occurrence → Option Value) :
    (first.followedBy second).last? pick =
      (second.last? pick).or (first.last? pick) := by
  simp [Parsed.last?, Parsed.followedBy, List.findSome?_append]

/-- What ignores the choice of a channel finds the same in the rest. -/
theorem last?_through
    {pick : Occurrence → Option Value}
    (ignoresFile : ∀ path, pick (.inputFile path) = none)
    (ignoresStdin : ∀ wanted, pick (.stdin wanted) = none) :
    (first.through second path channel).last? pick =
      (first.followedBy second).last? pick := by
  have nowhere :
      Parsed.last? { occurrences := channel.occurrences path } pick = none := by
    cases channel <;>
      simp [Parsed.last?, Channel.occurrences, ignoresFile, ignoresStdin]
  rw [Parsed.through, last?_followedBy, last?_followedBy, last?_followedBy,
    nowhere, Option.or_none]

/-- What only the choice of a channel tells is not told where none is chosen. -/
theorem last?_of_undirected
    {parsed : Parsed}
    {pick : Occurrence → Option Value}
    (undirected : parsed.Undirected)
    (ignores :
      ∀ occurrence, occurrence.choosesChannel = false → pick occurrence = none) :
    parsed.last? pick = none := by
  rw [Parsed.last?, List.findSome?_eq_none_iff]
  intro occurrence member
  exact ignores occurrence (undirected occurrence (List.mem_reverse.mp member))

/-- What only the choice of a channel tells is told by its words. -/
theorem last?_through_of_undirected
    {pick : Occurrence → Option Value}
    (firstUndirected : first.Undirected)
    (secondUndirected : second.Undirected)
    (ignores :
      ∀ occurrence, occurrence.choosesChannel = false → pick occurrence = none) :
    (first.through second path channel).last? pick =
      Parsed.last? { occurrences := channel.occurrences path } pick := by
  rw [Parsed.through, last?_followedBy, last?_followedBy,
    last?_of_undirected firstUndirected ignores,
    last?_of_undirected secondUndirected ignores, Option.or_none,
    Option.none_or]

/-- The file that is read is the one that the words of a channel name. -/
theorem inputFile?_through
    (firstUndirected : first.Undirected)
    (secondUndirected : second.Undirected) :
    (first.through second path channel).inputFile? =
      Parsed.inputFile? { occurrences := channel.occurrences path } :=
  last?_through_of_undirected firstUndirected secondUndirected
    fun occurrence other => by cases occurrence <;> first | rfl | cases other

/-- What is printed instead of a check does not depend on the channel. -/
theorem notice?_through :
    (first.through second path channel).notice? =
      (first.followedBy second).notice? := by
  cases channel <;>
    simp [Parsed.notice?, Parsed.through, Parsed.followedBy, Channel.occurrences,
      List.findSome?_append]

/-! ## Values of options -/

/-- A text names a path that can be looked up. -/
theorem checkPath_eq_ok_iff
    {text : Text} :
    checkPath text = .ok () ↔ text.Nameable := by
  rw [Utf8.nameable_iff, checkPath, Utf8.encodePath]
  cases Utf8.pathFaultAt 0 text with
  | some fault =>
      simp
  | none =>
      by_cases null : 0 ∈ text.flatMap Utf8.encodePathPoint
      · simp [null]
      · simp [null]

/-- The values of more uses of options are checked after those of the first ones. -/
theorem checkValues_append
    (parsed : Parsed)
    (earlier later : List Occurrence) :
    checkValues parsed (earlier ++ later) = (do
      checkValues parsed earlier
      checkValues parsed later) := by
  induction earlier with
  | nil =>
      rfl
  | cons occurrence earlier inductionHypothesis =>
      rw [List.cons_append, checkValues, checkValues, inductionHypothesis,
        bind_assoc]

/-- The values that count are the same in two command lines, but for channels. -/
structure SameValues (other parsed : Parsed) : Prop where
  baseline : other.baseline? = parsed.baseline?
  showCode : other.showCode? = parsed.showCode?
  format : other.format? = parsed.format?
  config : other.config? = parsed.config?
  failOnExcess : other.failOnExcess? = parsed.failOnExcess?

theorem sameValues_through :
    SameValues (first.through second path channel) (first.followedBy second) where
  baseline := last?_through (fun _ => rfl) fun _ => rfl
  showCode := last?_through (fun _ => rfl) fun _ => rfl
  format := last?_through (fun _ => rfl) fun _ => rfl
  config := last?_through (fun _ => rfl) fun _ => rfl
  failOnExcess := last?_through (fun _ => rfl) fun _ => rfl

/-- The same values are checked alike. -/
theorem SameValues.checkValues_eq
    {parsed other : Parsed}
    {occurrences : List Occurrence}
    (same : SameValues other parsed)
    (undirected :
      ∀ occurrence ∈ occurrences, occurrence.choosesChannel = false) :
    checkValues other occurrences = checkValues parsed occurrences := by
  induction occurrences with
  | nil =>
      rfl
  | cons occurrence occurrences inductionHypothesis =>
      obtain ⟨here, later⟩ := List.forall_mem_cons.mp undirected
      have alike : checkValue other occurrence = checkValue parsed occurrence := by
        cases occurrence with
        | inputFile => cases here
        | baseline => rw [checkValue, checkValue, same.baseline]
        | config => rw [checkValue, checkValue, same.config]
        | showCode => rw [checkValue, checkValue, same.showCode]
        | _ => rfl
      rw [checkValues, checkValues, alike, inductionHypothesis later]

/-- An option that chooses no channel is used as often whatever the channel. -/
theorem contains_through
    {occurrence : Occurrence}
    (other : occurrence.choosesChannel = false) :
    (first.through second path channel).occurrences.contains occurrence =
      (first.followedBy second).occurrences.contains occurrence := by
  have notHere : occurrence ∉ channel.occurrences path := by
    intro member
    rw [Channel.choosesChannel_of_mem member] at other
    cases other
  simp [Parsed.through, Parsed.followedBy, notHere]

/-! ## What is asked for -/

/-- The file that a channel names is all that is checked of its words. -/
theorem checkValues_through
    (firstUndirected : first.Undirected)
    (secondUndirected : second.Undirected)
    (nameable : path.Nameable) :
    checkValues (first.through second path channel)
        (first.through second path channel).occurrences =
      checkValues (first.followedBy second)
        (first.followedBy second).occurrences := by
  have checked :
      checkValues (first.through second path channel) (channel.occurrences path) =
        .ok () := by
    cases channel with
    | stdin => rfl
    | linter => rfl
    | inputFile =>
        have named :
            (first.through second path .inputFile).inputFile? = some path :=
          inputFile?_through firstUndirected secondUndirected
        simp only [Channel.occurrences, checkValues, checkValue, named,
          Option.getD_some, checkPath_eq_ok_iff.mpr nameable]
        rfl
  have parts :
      (first.through second path channel).occurrences =
        first.occurrences ++ (channel.occurrences path ++ second.occurrences) :=
    rfl
  rw [parts, checkValues_append, checkValues_append, checked, Parsed.followedBy,
    checkValues_append, ← Parsed.followedBy,
    sameValues_through.checkValues_eq firstUndirected,
    sameValues_through.checkValues_eq secondUndirected]
  rfl

/-- What is asked for, with linter output from a channel. -/
def Channel.applied (path : Text) (invocation : Invocation) : Channel → Invocation
  | .stdin => { invocation with inputFile := none, stdin := true }
  | .inputFile =>
      { invocation with inputFile := some (Path.ofText path), stdin := false }
  | .linter => { invocation with inputFile := none, stdin := false }

/-- The words of a channel ask for it, and for nothing else. -/
theorem invocation_through
    (firstUndirected : first.Undirected)
    (secondUndirected : second.Undirected)
    (nameable : path.Nameable) :
    invocation (first.through second path channel) =
      (invocation (first.followedBy second)).map (channel.applied path) := by
  have undirected : (first.followedBy second).Undirected :=
    List.forall_mem_append.mpr ⟨firstUndirected, secondUndirected⟩
  have stdin :
      (first.through second path channel).stdin =
        Parsed.stdin { occurrences := channel.occurrences path } :=
    congrArg (Option.getD · false)
      (last?_through_of_undirected firstUndirected secondUndirected
        fun occurrence other => by cases occurrence <;> first | rfl | cases other)
  have noFile : (first.followedBy second).inputFile? = none :=
    last?_of_undirected undirected
      fun occurrence other => by cases occurrence <;> first | rfl | cases other
  have noStdin : (first.followedBy second).stdin = false :=
    congrArg (Option.getD · false)
      (last?_of_undirected undirected
        fun occurrence other => by cases occurrence <;> first | rfl | cases other)
  have same : SameValues (first.through second path channel) _ :=
    sameValues_through
  have showCode :
      showCodeOf (first.through second path channel) =
        showCodeOf (first.followedBy second) := by
    rw [showCodeOf, showCodeOf, same.showCode]
  unfold invocation
  rw [checkValues_through firstUndirected secondUndirected nameable, showCode,
    same.baseline, same.format, same.config, same.failOnExcess,
    contains_through rfl, contains_through rfl, contains_through rfl,
    inputFile?_through firstUndirected secondUndirected, stdin, noFile, noStdin]
  cases checkValues (first.followedBy second) (first.followedBy second).occurrences with
  | error fault => rfl
  | ok _ =>
      cases showCodeOf (first.followedBy second) with
      | error fault => rfl
      | ok shown => cases channel <;> rfl

end

/-! ## Runs through the channels -/

/-- Linter output with all that runs have in common to which it is given in different ways. -/
structure Delivery where
  /-- The words before and behind those that choose the channel. -/
  front : List Text
  back : List Text
  environment : Environment
  text : Text
  /-- The file that holds the text. -/
  path : Text
  /-- What else the linter answers if it is the channel. -/
  stderr : Text
  code : Int
  /-- What stands on standard input and what the linter would answer otherwise. -/
  otherStdin : Bytes
  otherLinter : Linter.Response
  machine : Machine := {}

namespace Delivery

/-- The request of a run that is given the text through a channel. -/
def request (delivery : Delivery) (channel : Channel) : Request where
  arguments :=
    delivery.front ++ (channel.words delivery.path ++ delivery.back)
  environment := delivery.environment
  stdin :=
    match channel with
    | .stdin => delivery.text.flatMap Utf8.encodePoint
    | _ => delivery.otherStdin
  linter :=
    match channel with
    | .linter => .finished delivery.text delivery.stderr delivery.code
    | _ => delivery.otherLinter
  machine := delivery.machine

/-- The name of the source in a report. -/
def source (delivery : Delivery) : Channel → Text
  | .stdin => "stdin"
  | .inputFile => "input_file:" ++ (Path.ofText delivery.path).toText
  | .linter => "linter"

/-- The text as it comes out of a channel. -/
def received (delivery : Delivery) : Channel → Text
  | .linter => delivery.text
  | _ => delivery.text.unifyLineEndings

/-- What is said on standard error beside the text. -/
def errors (delivery : Delivery) : Channel → Text
  | .linter => delivery.stderr
  | _ => []

/-- How many containers may nest in the text when it comes out of a channel. -/
def room (delivery : Delivery) : Channel → Nat
  | .linter => delivery.machine.linterRoom
  | _ => delivery.machine.inputRoom

/-- What a run does as soon as it has the text. -/
def readAndConclude (delivery : Delivery) (plan : Plan) (channel : Channel) : Act Unit := do
  let diagnostics ←
    readDiagnostics (delivery.received channel) (delivery.errors channel)
      (delivery.room channel)
  conclude plan (delivery.source channel) diagnostics

/--
The text can be given through every channel: the other words choose none, the
file holds the text, and there is a command to call.
-/
structure Possible (delivery : Delivery) (workspace : Workspace) : Prop where
  complete : Complete delivery.front
  undirected :
    ∀ parsed,
      parse (delivery.front ++ delivery.back) = .ok parsed → parsed.Undirected
  scalars : ∀ point ∈ delivery.text, point.isSurrogate = false
  held :
    workspace.readFile (Path.ofText delivery.path) =
      .ok (delivery.text.flatMap Utf8.encodePoint)
  callable :
    ∀ parsed invocation settings,
      parse (delivery.front ++ delivery.back) = .ok parsed →
      CommandLine.invocation parsed = .ok invocation →
      Settings.load workspace linterDirectory invocation.config = .ok settings →
      ∃ chosen,
        Linter.chooseCommand workspace linterDirectory settings.command =
          .ok chosen

end Delivery

section

variable {delivery : Delivery} {workspace : Workspace}

/-- The file that holds the text has a name that can be looked up. -/
theorem Delivery.Possible.nameable
    (possible : delivery.Possible workspace) :
    delivery.path.Nameable := by
  have held := possible.held
  unfold Workspace.readFile at held
  split at held
  · cases held
  · cases held
  · next statusIs =>
      obtain ⟨location, located, _⟩ := Workspace.exists_locate_of_status statusIs
      exact Path.accepted_ofText_iff.mp (Workspace.accepted_of_locate located)

/-- What is weighed besides the channel is weighed alike. -/
theorem settle_applied
    (invocation : Invocation)
    (channel : Channel) :
    settle (delivery.request channel) (channel.applied delivery.path invocation) =
      settle (delivery.request .linter)
        (Channel.linter.applied delivery.path invocation) := by
  cases channel <;> rfl

theorem inputName_applied
    (invocation : Invocation)
    (channel : Channel) :
    inputName (channel.applied delivery.path invocation) =
      delivery.source channel := by
  cases channel <;> rfl

/-- The text comes out of every channel, and nothing is changed or printed for it. -/
theorem exists_run_fetchOutput
    {before : Session}
    {settings : Settings}
    {chosen : List Text × Option Path}
    (possible : delivery.Possible workspace)
    (sameFiles : before.workspace = workspace)
    (choice :
      Linter.chooseCommand workspace linterDirectory settings.command = .ok chosen)
    (invocation : Invocation)
    (channel : Channel) :
    ∃ after,
      Untouched before after ∧
        (fetchOutput (delivery.request channel)
            (channel.applied delivery.path invocation) settings).run before =
          .ok (delivery.received channel, delivery.errors channel) after := by
  have decoded := Utf8.decode_flatMap_encodePoint possible.scalars
  have decodes :
      (decodeInput (delivery.text.flatMap Utf8.encodePoint)).run before =
        .ok delivery.text.unifyLineEndings before := by
    unfold decodeInput
    rw [decoded]
    rfl
  cases channel with
  | stdin =>
      refine ⟨before, Accumulates.refl before, ?_⟩
      exact run_bind_of_ok decodes
  | inputFile =>
      refine ⟨before, Accumulates.refl before, ?_⟩
      rw [run_fetchOutput_of_file rfl, sameFiles, possible.held]
      exact run_bind_of_ok decodes
  | linter =>
      rw [← sameFiles] at choice
      obtain ⟨after, called, ran⟩ :=
        exists_run_callLinter choice (delivery.request .linter).linter
          (settings.arguments ++ invocation.linterArguments)
      exact ⟨after, ⟨called.workspace, called.stdout⟩, run_bind_of_ok ran⟩

/-! ### Up to the text -/

/-- Runs end in the same way before they have the text, or all of them come to read it. -/
inductive EndOrRead
    (delivery : Delivery)
    (workspace : Workspace)
    (operations : Channel → Act Unit) :
    Prop where
  | ends
      (outcome : EStateM.Result Ending Session Unit)
      (ran :
        ∀ channel, (operations channel).run { workspace := workspace } = outcome) :
      EndOrRead delivery workspace operations
  | reads
      (plan : Plan)
      (before : Channel → Session)
      (untouched :
        ∀ channel, Untouched { workspace := workspace } (before channel))
      (ran :
        ∀ channel,
          (operations channel).run { workspace := workspace } =
            (delivery.readAndConclude plan channel).run (before channel)) :
      EndOrRead delivery workspace operations

/-- What comes before the output is settled alike, whatever the channel. -/
theorem perform_applied
    (invocation : Invocation)
    (channel : Channel) :
    perform (delivery.request channel) (channel.applied delivery.path invocation) =
      (do
        let (settings, plan) ←
          settle (delivery.request .linter)
            (Channel.linter.applied delivery.path invocation)
        let diagnostics ←
          collectDiagnostics (delivery.request channel)
            (channel.applied delivery.path invocation) settings
        conclude plan (delivery.source channel) diagnostics) := by
  rw [perform_eq, settle_applied, inputName_applied]

/-- What is asked for in the same way is done alike until the text is read. -/
theorem endOrRead_perform
    {parsed : Parsed}
    {invocation : Invocation}
    (possible : delivery.Possible workspace)
    (understood : parse (delivery.front ++ delivery.back) = .ok parsed)
    (asked : CommandLine.invocation parsed = .ok invocation) :
    EndOrRead delivery workspace fun channel =>
      perform (delivery.request channel)
        (channel.applied delivery.path invocation) := by
  cases settled :
      (settle (delivery.request .linter)
        (Channel.linter.applied delivery.path invocation)).run
        { workspace := workspace } with
  | error ending after =>
      refine .ends (.error ending after) fun channel => ?_
      rw [perform_applied, run_bind_of_error settled]
  | ok answer between =>
      obtain ⟨settings, plan⟩ := answer
      obtain ⟨⟨format, loaded, _⟩, untouched⟩ :=
        (quietly_settle _ _).of_run_eq_ok settled
      obtain ⟨chosen, choice⟩ :=
        possible.callable parsed invocation settings understood asked loaded
      have fetched (channel : Channel) :=
        exists_run_fetchOutput possible untouched.workspace choice invocation channel
      choose after fetchUntouched ran using fetched
      refine
        .reads plan after
          (fun channel => Accumulates.trans untouched (fetchUntouched channel))
          fun channel => ?_
      have sameRoom :
          (delivery.request channel).outputRoom
              (channel.applied delivery.path invocation) =
            delivery.room channel := by
        cases channel <;> rfl
      rw [perform_applied, run_bind_of_ok settled]
      dsimp only
      rw [collectDiagnostics_eq, sameRoom, bind_assoc, run_bind_of_ok (ran channel)]
      rfl

/-- Runs that are given the same text go alike until they read it. -/
theorem endOrRead_act
    (possible : delivery.Possible workspace) :
    EndOrRead delivery workspace fun channel => act (delivery.request channel) := by
  have nameable := possible.nameable
  rcases parse_through possible.complete delivery.back delivery.path with
    ⟨fault, misused⟩ | ⟨first, second, read⟩
  · have acts (channel : Channel) :
        act (delivery.request channel) = refuseUsage (.option fault) :=
      act_eq_refuseUsage (misused channel)
    simp only [acts]
    exact .ends _ fun _ => rfl
  have plainRead :
      parse (delivery.front ++ delivery.back) = .ok (first.followedBy second) :=
    read .linter
  have undirected := possible.undirected _ plainRead
  obtain ⟨firstUndirected, secondUndirected⟩ := List.forall_mem_append.mp undirected
  have acts (channel : Channel) : act (delivery.request channel) = _ :=
    act_eq_of_parse (read channel)
  have asks (channel : Channel) :
      invocation (first.through second delivery.path channel) =
        (invocation (first.followedBy second)).map (channel.applied delivery.path) :=
    invocation_through firstUndirected secondUndirected nameable
  simp only [acts, notice?_through, asks]
  cases (first.followedBy second).notice? with
  | some notice => exact .ends _ fun _ => rfl
  | none =>
      cases asked : invocation (first.followedBy second) with
      | error fault => cases fault <;> exact .ends _ fun _ => rfl
      | ok invocation => exact endOrRead_perform possible plainRead asked

/-! ### From the text on -/

/-- In the same room the output of every channel is read alike. -/
theorem agree_received
    (delivery : Delivery)
    (room : Nat)
    (channel : Channel) :
    Agree Linter.OutputError.SameKind
      (Linter.readOutput delivery.text delivery.stderr room)
      (Linter.readOutput (delivery.received channel) (delivery.errors channel)
        room) := by
  cases channel with
  | stdin => exact Linter.agree_readOutput _ _ _ _
  | inputFile => exact Linter.agree_readOutput _ _ _ _
  | linter => exact .refl .same _

/-- A run has ended in a certain way, with certain files and a certain standard output. -/
structure EndsAs
    (ending : Ending)
    (files : Workspace)
    (printed : Text)
    (outcome : Outcome) :
    Prop where
  ending : outcome.ending = ending
  workspace : outcome.session.workspace = files
  stdout : outcome.session.stdout = printed

/-- Text that is too deep for a channel ends the run there without a word. -/
theorem endsAs_of_tooDeep
    {plan : Plan}
    {channel : Channel}
    {before : Channel → Session}
    {container : Json.Container}
    (untouched :
      ∀ channel, Untouched { workspace := workspace } (before channel))
    (ran :
      ∀ channel,
        (act (delivery.request channel)).run { workspace := workspace } =
          (delivery.readAndConclude plan channel).run (before channel))
    (deep :
      Linter.readOutput (delivery.received channel) (delivery.errors channel)
          (delivery.room channel) =
        .error (.tooDeep container)) :
    EndsAs (.crash (.deepJson container)) workspace []
      (run workspace (delivery.request channel)) := by
  have stops :
      (delivery.readAndConclude plan channel).run (before channel) =
        .error (.crash (.deepJson container)) (before channel) := by
    rw [Delivery.readAndConclude, readDiagnostics, deep]
    rfl
  rw [run_eq_of_error ((ran channel).trans stops)]
  exact ⟨rfl, (untouched channel).workspace, (untouched channel).stdout⟩

/-- Runs that read their text alike end alike but for the names of channels. -/
theorem exists_endsAs_of_agree
    {Index : Type}
    {plan : Plan}
    {before : Channel → Session}
    {reference : Except Linter.OutputError Linter.Output}
    (channels : Index → Channel)
    (untouched :
      ∀ channel, Untouched { workspace := workspace } (before channel))
    (ran :
      ∀ channel,
        (act (delivery.request channel)).run { workspace := workspace } =
          (delivery.readAndConclude plan channel).run (before channel))
    (agree :
      ∀ index,
        Agree Linter.OutputError.SameKind reference
          (Linter.readOutput (delivery.received (channels index))
            (delivery.errors (channels index)) (delivery.room (channels index)))) :
    ∃ ending files printed,
      VariesInSource printed ∧
        ∀ index,
          EndsAs ending files (printed (delivery.source (channels index)))
            (run workspace (delivery.request (channels index))) := by
  let starts (index : Index) : Session := before (channels index)
  have inStep : InStep (fun index => (starts index).calls) starts :=
    ⟨workspace, [], fun index => (untouched (channels index)).workspace,
      fun index => (untouched (channels index)).stdout, fun _ => rfl⟩
  have reports :
      ReportAlike (fun index => delivery.source (channels index)) _
        (fun index => delivery.readAndConclude plan (channels index)) starts :=
    .andThen (stayInStep_readDiagnostics inStep agree)
      fun diagnostics _ inStep => reportAlike_conclude inStep _ plan diagnostics
  obtain ⟨ending, after, ⟨files, printed, varies, beside⟩, ended⟩ :=
    exists_ending_of_together
      (.of_run_eq (fun index => ran (channels index)) reports)
  refine ⟨ending, files, printed, varies, fun index => ?_⟩
  rw [ended index]
  exact ⟨rfl, beside.workspace index, beside.stdout index⟩

/--
Three runs that are given the same text, on standard input, in a file or by the
linter, end in the same way with the same files, whatever the linter says on
standard error and whatever its code.  What they print differs at most in the
source that a machine report names.  Only a text that is too deep for the linter
may tell its run apart, which then ends for that reason with all files as they
were; where it is too deep for the other two as well, they end for that reason
too.
-/
theorem channels_agree
    (possible : delivery.Possible workspace) :
    let outcome (channel : Channel) := run workspace (delivery.request channel)
    ∃ ending files printed,
      VariesInSource printed ∧
        (∀ channel,
          channel ≠ .linter →
          EndsAs ending files (printed (delivery.source channel))
            (outcome channel)) ∧
        (EndsAs ending files (printed "linter") (outcome .linter) ∨
          ∃ container,
            Linter.readOutput delivery.text delivery.stderr
                delivery.machine.linterRoom =
              .error (.tooDeep container) ∧
            EndsAs (.crash (.deepJson container)) workspace []
              (outcome .linter) ∧
            ∀ other,
              Linter.readOutput delivery.text delivery.stderr
                  delivery.machine.inputRoom =
                .error (.tooDeep other) →
              ending = .crash (.deepJson other) ∧ files = workspace) := by
  intro outcome
  cases endOrRead_act possible with
  | ends result ran =>
      have same (channel : Channel) : outcome channel = outcome .stdin := by
        unfold outcome run
        rw [show act (delivery.request channel) { workspace := workspace } = _
            from ran channel,
          show act (delivery.request .stdin) { workspace := workspace } = _
            from ran .stdin]
      have endsAs (channel : Channel) :
          EndsAs (outcome .stdin).ending (outcome .stdin).session.workspace
            (outcome .stdin).session.stdout (outcome channel) := by
        rw [same channel]
        exact ⟨rfl, rfl, rfl⟩
      exact
        ⟨_, _, fun _ => (outcome .stdin).session.stdout, .nowhere _,
          fun channel _ => endsAs channel, Or.inl (endsAs .linter)⟩
  | reads plan before untouched ran =>
      have moreRoom : delivery.machine.linterRoom ≤ delivery.machine.inputRoom :=
        Nat.le_succ _
      rcases Linter.readOutput_of_le moreRoom delivery.text delivery.stderr with
        ⟨container, deep⟩ | same
      · -- The linter's run stops at the text; the other two go on side by side.
        have sameRoom (channel : Channel) (other : channel ≠ .linter) :
            delivery.room channel = delivery.machine.inputRoom := by
          cases channel <;> first | rfl | exact absurd rfl other
        obtain ⟨ending, files, printed, varies, endsAs⟩ :=
          exists_endsAs_of_agree
            (fun index : { channel : Channel // channel ≠ .linter } => index.val)
            untouched ran fun index => by
              rw [sameRoom index.val index.property]
              exact agree_received delivery _ index.val
        refine
          ⟨ending, files, printed, varies, fun channel other => endsAs ⟨channel, other⟩,
            Or.inr ⟨container, deep, ?_, fun tooDeep tooDeepToo => ?_⟩⟩
        · exact endsAs_of_tooDeep untouched ran deep
        · have stdin := endsAs ⟨.stdin, by decide⟩
          obtain ⟨_, refused, sameKind⟩ :=
            (tooDeepToo ▸ agree_received delivery _ .stdin).exists_eq_error
          cases sameKind
          have crashed :
              EndsAs (.crash (.deepJson tooDeep)) workspace [] (outcome .stdin) :=
            endsAs_of_tooDeep untouched ran refused
          exact
            ⟨stdin.ending.symm.trans crashed.ending,
              stdin.workspace.symm.trans crashed.workspace⟩
      · have agree (channel : Channel) :
            Agree Linter.OutputError.SameKind
              (Linter.readOutput delivery.text delivery.stderr
                delivery.machine.inputRoom)
              (Linter.readOutput (delivery.received channel)
                (delivery.errors channel) (delivery.room channel)) := by
          cases channel with
          | stdin => exact agree_received delivery _ .stdin
          | inputFile => exact agree_received delivery _ .inputFile
          | linter =>
              rw [same]
              exact agree_received delivery _ .linter
        obtain ⟨ending, files, printed, varies, endsAs⟩ :=
          exists_endsAs_of_agree id untouched ran agree
        exact
          ⟨ending, files, printed, varies, fun channel _ => endsAs channel,
            Or.inl (endsAs .linter)⟩

end

/-- With the default settings and without a lock file there is the plain command to call. -/
private theorem callable_of_defaults
    {workspace : Workspace}
    {words : List Text}
    {parsed : Parsed}
    (understood : parse words = .ok parsed)
    (noConfig :
      ∀ asked, CommandLine.invocation parsed = .ok asked → asked.config = none)
    (defaults : Settings.load workspace linterDirectory none = .ok {})
    (plain :
      Linter.chooseCommand workspace linterDirectory none = .ok (["oxlint"], none))
    (other : Parsed)
    (invocation : Invocation)
    (settings : Settings)
    (read : parse words = .ok other)
    (asked : CommandLine.invocation other = .ok invocation)
    (loaded :
      Settings.load workspace linterDirectory invocation.config = .ok settings) :
    ∃ chosen,
      Linter.chooseCommand workspace linterDirectory settings.command =
        .ok chosen := by
  rw [understood] at read
  cases read
  rw [noConfig invocation asked, defaults] at loaded
  cases loaded
  exact ⟨_, plain⟩

/--
Output of which the lines end in two ways fails a check through every channel,
although only the linter's own text keeps its carriage returns.
-/
theorem carriage_returns_agree :
    let text : Text :=
      "\x7b\"diagnostics\":\r\n[\x7b\"filename\": \"a.ts\",\r\"code\": \"no-var\"\x7d]\x7d\r\n"
    let workspace :=
      (Workspace.fresh "/w" ["t"]).withFile "out.json"
        (text.flatMap Utf8.encodePoint)
    let delivery : Delivery := {
      front := ["--format", "json"]
      back := ["src"]
      environment := OrderedMap.empty
      text := text
      path := "out.json"
      stderr := "1 problem"
      code := 1
      otherStdin := []
      otherLinter := .notStarted .noEntry
    }
    delivery.Possible workspace ∧
      ∀ channel,
        (run workspace (delivery.request channel)).ending = .exit exitExcess := by
  intro text workspace delivery
  have understood :
      parse (delivery.front ++ delivery.back) =
        .ok { occurrences := [.format "json"], linterArguments := ["src"] } := by
    decide +kernel
  have possible : delivery.Possible workspace := {
    complete := .withValue _ _ _ _ _ (by decide) rfl rfl .nil
    undirected := by
      rintro parsed read
      rw [understood] at read
      cases read
      intro occurrence member
      rw [List.mem_singleton.mp member]
      rfl
    scalars := fun _ member => Text.isSurrogate_of_mem_ofString member
    held := by decide +kernel
    callable :=
      callable_of_defaults understood (fun _ asked => by cases asked; rfl)
        (by decide +kernel) (by decide +kernel)
  }
  obtain ⟨ending, files, printed, _, agree, linter | ⟨container, deep, _⟩⟩ :=
    channels_agree possible
  · have failed :
        (run workspace (delivery.request .stdin)).ending = .exit exitExcess := by
      decide +kernel
    have same : ending = .exit exitExcess :=
      (agree .stdin (by decide)).ending.symm.trans failed
    refine ⟨possible, fun channel => ?_⟩
    cases channel with
    | linter => exact linter.ending.trans same
    | stdin => exact (agree .stdin (by decide)).ending.trans same
    | inputFile => exact (agree .inputFile (by decide)).ending.trans same
  · cases container <;> exact absurd deep (by decide +kernel)

/--
Whatever room a machine leaves, there are texts that can be read from standard
input and from a file, and are too deep for the linter: as many brackets as have
room in the first two.
-/
theorem deepest_text_is_too_deep_for_linter
    (machine : Machine)
    (stderr : Text) :
    let text := Json.brackets machine.inputRoom
    (∃ fault,
      Linter.readOutput text stderr machine.inputRoom =
        .error (.rejected fault text stderr)) ∧
      Linter.readOutput text stderr machine.linterRoom =
        .error (.tooDeep .array) :=
  ⟨(Linter.readOutput_brackets machine.linterRoom stderr _).1
      (Nat.lt_succ_self _),
    (Linter.readOutput_brackets machine.linterRoom stderr _).2 le_rfl⟩

/--
A row of brackets is rejected on standard input and in a file, and the run ends
with code 2.  From the linter the same text ends the run without a code.
-/
theorem row_of_brackets_tells_linter_apart :
    let text := Json.brackets 990
    let workspace :=
      (Workspace.fresh "/w" ["t"]).withFile "out.json"
        (text.flatMap Utf8.encodePoint)
    let delivery : Delivery := {
      front := []
      back := []
      environment := OrderedMap.empty
      text := text
      path := "out.json"
      stderr := []
      code := 1
      otherStdin := []
      otherLinter := .notStarted .noEntry
    }
    delivery.Possible workspace ∧
      (run workspace (delivery.request .stdin)).ending = .exit exitError ∧
        (run workspace (delivery.request .inputFile)).ending = .exit exitError ∧
          (run workspace (delivery.request .linter)).ending =
            .crash (.deepJson .array) := by
  intro text workspace delivery
  have possible : delivery.Possible workspace := {
    complete := .nil
    undirected := by
      rintro parsed read
      cases read
      exact fun _ member => absurd member List.not_mem_nil
    scalars := by
      intro point member
      rw [List.eq_of_mem_replicate member]
      rfl
    held := by decide +kernel
    callable :=
      callable_of_defaults rfl (fun _ asked => by cases asked; rfl)
        (by decide +kernel) (by decide +kernel)
  }
  exact
    ⟨possible, by decide +kernel, by decide +kernel, by decide +kernel⟩

end CommandLine

end Tolerance
