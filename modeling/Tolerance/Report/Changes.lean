import Tolerance.Baseline.Change
import Tolerance.Text.Numeral

namespace Tolerance

/-!
# Listing changes

Every changed entry of a baseline stands on a line of its own, with a dash for
a count that is not there.
-/

namespace Report

/-- A count, or a dash. -/
def countOrDash : Option Int → Except Numeral.Fault Text
  | some count => Numeral.write count
  | none => .ok "-"

/-- The line of one change. -/
def changeLine (change : Change) : Except Numeral.Fault Text := do
  let before ← countOrDash change.before
  let after ← countOrDash change.after
  return "- " ++ change.filename ++ " [" ++ change.rule ++ "] " ++
    change.kind.name ++ ": " ++ before ++ " -> " ++ after

/-- The lines of several changes. -/
def changeLines : List Change → Except Numeral.Fault (List Text)
  | [] => .ok []
  | change :: rest => do
      let line ← changeLine change
      let others ← changeLines rest
      return line :: others

/-- The list of changes for people. -/
def changes (changed : List Change) : Except Numeral.Fault Text :=
  match changed with
  | [] => .ok "No baseline changes."
  | _ => do
      let lines ← changeLines changed
      return Text.join "\n" ("Baseline changes:" :: lines)

end Report

end Tolerance
