import Tolerance.Proofs.Messages
import Tolerance.Proofs.Refusal
import Tolerance.Proofs.Verdict

namespace Tolerance

/-!
# Runs that report to another program

A run that reports to another program prints on standard output once: the line of
its report, when all else is done.  A run that comes to no such end prints there
nothing at all.  Everything else that is said stands on standard error.
-/

open Outcome

namespace CommandLine

variable {Value : Type} {before : Session}

/-! ## The line of a report -/

/-- Standard output holds the line of a report and nothing else. -/
def PrintedLine (report : Json) (printed : Text) : Prop :=
  ∃ line, Report.machine report = .ok line ∧ printed = line ++ "\n"

/-- What a run has to report: the changes of an update, or what exceeds the baseline. -/
def Plan.report
    (plan : Plan)
    (source : Text)
    (diagnostics : List Diagnostic)
    (current : Baseline) :
    Json :=
  if plan.update then
    Report.updateToJson
      (Baseline.changes current (Baseline.absorb current diagnostics))
      plan.store.toText diagnostics.length
  else
    Report.checkToJson (Baseline.excess current diagnostics) plan.store.toText
      source

theorem Plan.reportable_report
    (plan : Plan)
    (source : Text)
    (diagnostics : List Diagnostic)
    (current : Baseline) :
    (plan.report source diagnostics current).Reportable 0 5 := by
  unfold report
  split
  · exact Report.reportable_updateToJson _ _ _
  · exact Report.reportable_checkToJson _ _ _

/-- What a run is about to save, and what it says before it does. -/
inductive Plan.Saves
    (plan : Plan)
    (diagnostics : List Diagnostic)
    (current : Baseline) :
    Baseline → List Message → Prop where
  | update
      (updates : plan.update = true) :
      Saves plan diagnostics current (Baseline.absorb current diagnostics) []
  | tighten
      (checks : plan.update = false)
      (tightens : plan.tighten = true) :
      Saves plan diagnostics current (Baseline.tighten current diagnostics)
        [.log (.excessFound (Baseline.excess current diagnostics).length)]

/--
What a run says about what it does with the baseline that it loaded.  Only a
tightening has lines of its own to say: the file that it saved and the changes.
-/
inductive Plan.Announces
    (plan : Plan)
    (diagnostics : List Diagnostic)
    (current : Baseline) :
    List Message → Prop where
  | update
      (updates : plan.update = true) :
      Announces plan diagnostics current [
        .log
          (.baselineWritten plan.store (Baseline.absorb current diagnostics).size),
        .log
          (.baselineUpdated
            (Baseline.changes current
              (Baseline.absorb current diagnostics)).length)]
  | check
      (checks : plan.update = false)
      (keeps : plan.tighten = false) :
      Announces plan diagnostics current
        [.log (.excessFound (Baseline.excess current diagnostics).length)]
  | tighten
      (checks : plan.update = false)
      (tightens : plan.tighten = true)
      (changes : Text)
      (listed :
        Report.changes
            (Baseline.changes current (Baseline.tighten current diagnostics)) =
          .ok changes) :
      Announces plan diagnostics current [
        .log (.excessFound (Baseline.excess current diagnostics).length),
        .log
          (.baselineWritten plan.store (Baseline.tighten current diagnostics).size),
        .line ("Tightened baseline file: " ++ plan.store.toText),
        .line changes]

/-- A run has weighed what is asked for and settled on a plan. -/
inductive SettlesOn
    (workspace : Workspace)
    (request : Request)
    (invocation : Invocation)
    (settings : Settings)
    (plan : Plan) :
    Prop where
  | reached
      (parsed : Parsed)
      (between : Session)
      (understood : parse request.arguments = .ok parsed)
      (asked : CommandLine.invocation parsed = .ok invocation)
      (settled :
        (settle request invocation).run { workspace := workspace } =
          .ok (settings, plan) between) :
      SettlesOn workspace request invocation settings plan

/-- A run has read the output that it fetched, and this is what it has said so far. -/
inductive HasRead
    (workspace : Workspace)
    (request : Request)
    (plan : Plan) :
    Text → Linter.Output → List Message → Prop where
  | reached
      (invocation : Invocation)
      (settings : Settings)
      (stdout stderr : Text)
      (room : Nat)
      (session : Session)
      (output : Linter.Output)
      (messages : List Message)
      (settles : SettlesOn workspace request invocation settings plan)
      (fetched : Fetched workspace request plan stdout stderr room session)
      (said : FetchSays workspace request invocation settings messages)
      (read : Linter.readOutput stdout stderr room = .ok output) :
      HasRead workspace request plan (inputName invocation) output
        (messages ++ readMessages output)

/--
What a run has to report about the output that it fetched and the baseline that
it loaded, and what else it says.
-/
inductive Payload
    (workspace : Workspace)
    (request : Request) :
    Json → List Message → Prop where
  | reached
      (plan : Plan)
      (source : Text)
      (output : Linter.Output)
      (earlier : List Message)
      (found : Option Baseline)
      (messages : List Message)
      (hasRead : HasRead workspace request plan source output earlier)
      (loaded :
        Baseline.loadFile? workspace plan.store plan.loadRoom = .ok found)
      (announced :
        plan.Announces output.diagnostics (found.getD Ledger.empty) messages) :
      Payload workspace request
        (plan.report source output.diagnostics (found.getD Ledger.empty))
        (earlier ++ loadMessages plan.store found ++ messages)

/-- Why a run ends with code 2, and all that it has said by then. -/
inductive Complaint
    (workspace : Workspace)
    (request : Request) :
    List Message → Prop where
  | notStarted
      (invocation : Invocation)
      (settings : Settings)
      (plan : Plan)
      (messages : List Message)
      (settles : SettlesOn workspace request invocation settings plan)
      (complained : FetchComplains workspace request invocation settings messages) :
      Complaint workspace request messages
  | unread
      (invocation : Invocation)
      (settings : Settings)
      (plan : Plan)
      (stdout stderr : Text)
      (room : Nat)
      (session : Session)
      (messages : List Message)
      (error : Linter.OutputError)
      (settles : SettlesOn workspace request invocation settings plan)
      (fetched : Fetched workspace request plan stdout stderr room session)
      (said : FetchSays workspace request invocation settings messages)
      (refused : Linter.readOutput stdout stderr room = .error error)
      (reported : error.Reported) :
      Complaint workspace request (messages ++ [.complaint error.message])
  | unloaded
      (plan : Plan)
      (source : Text)
      (output : Linter.Output)
      (earlier : List Message)
      (error : Baseline.StorageError)
      (hasRead : HasRead workspace request plan source output earlier)
      (refused :
        Baseline.loadFile? workspace plan.store plan.loadRoom = .error error)
      (reported : error.Reported) :
      Complaint workspace request (earlier ++ [.complaint error.message])
  | unsaved
      (plan : Plan)
      (source : Text)
      (output : Linter.Output)
      (earlier : List Message)
      (found : Option Baseline)
      (next : Baseline)
      (messages : List Message)
      (error : Baseline.StorageError)
      (after : Workspace)
      (hasRead : HasRead workspace request plan source output earlier)
      (loaded :
        Baseline.loadFile? workspace plan.store plan.loadRoom = .ok found)
      (saves :
        plan.Saves output.diagnostics (found.getD Ledger.empty) next messages)
      (failed : (Baseline.save plan.store next).run workspace = .error error after)
      (reported : error.Reported) :
      Complaint workspace request
        (earlier ++ loadMessages plan.store found ++ messages ++
          [.complaint error.message])

/-! ## The end of a run -/

/-- Up to here a run has said these messages and printed nothing. -/
structure HasSaid (messages : List Message) (session : Session) : Prop where
  stderr : session.stderr = transcript session.threshold messages
  stdout : session.stdout = []

theorem HasSaid.append
    {earlier later : List Message}
    {between : Session}
    (soFar : HasSaid earlier before)
    (said : Said later before between) :
    HasSaid (earlier ++ later) between where
  stderr := by
    rw [said.stderr, soFar.stderr, said.threshold, transcript_append]
  stdout := said.stdout.trans soFar.stdout

/--
A run has printed the line of its report and ends with a verdict, or it has
printed nothing and ends with a complaint or abruptly.
-/
inductive Tells
    (workspace : Workspace)
    (request : Request)
    (ending : Ending)
    (after : Session) :
    Prop where
  | reports
      (verdict : ending = .exit exitOk ∨ ending = .exit exitExcess)
      (report : Json)
      (messages : List Message)
      (payload : Payload workspace request report messages)
      (printed : PrintedLine report after.stdout)
      (stderr : after.stderr = transcript after.threshold messages) :
      Tells workspace request ending after
  | complains
      (failed : ending = .exit exitError)
      (messages : List Message)
      (complaint : Complaint workspace request messages)
      (said : HasSaid messages after) :
      Tells workspace request ending after
  | stops
      (abrupt : ending.Abrupt)
      (unprinted : after.stdout = []) :
      Tells workspace request ending after

section

variable {workspace : Workspace} {request : Request}

section

variable {plan : Plan} {source : Text} {output : Linter.Output}
  {earlier : List Message}
  (machine : plan.format = .json)
  (hasRead : HasRead workspace request plan source output earlier)
  (sameFiles : before.workspace = workspace)
  (soFar : HasSaid earlier before)

include hasRead sameFiles soFar

include machine

end

end

section

variable {workspace : Workspace} {request : Request}

theorem Payload.reportable
    {report : Json}
    {messages : List Message}
    (payload : Payload workspace request report messages) :
    report.Reportable 0 5 := by
  cases payload
  exact Plan.reportable_report _ _ _ _

end

end CommandLine

end Tolerance
