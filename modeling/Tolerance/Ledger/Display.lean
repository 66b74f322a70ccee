import Tolerance.Baseline
import Tolerance.Json.Display

namespace Tolerance

/-!
# Showing ledgers

A ledger is shown with all that it lists, in order, for a person who looks into
its state.
-/

namespace OrderedMap

variable {Value : Type}

/-- Show entries in order, each value by the given function. -/
def displayEntries
    (displayValue : Value → Except Numeral.Fault Text) :
    List (Text × Value) → Except Numeral.Fault (List Text)
  | [] => .ok []
  | (key, value) :: rest => do
      let shown ← displayValue value
      let others ← displayEntries displayValue rest
      return (key.quoted ++ ": " ++ shown) :: others

/-- Show a map between braces. -/
def display
    (displayValue : Value → Except Numeral.Fault Text)
    (map : OrderedMap Value) :
    Except Numeral.Fault Text := do
  let parts ← displayEntries displayValue map.entries
  return 0x7b :: (Text.join ", " parts ++ [0x7d])

end OrderedMap

namespace Ledger

/-- Show a ledger of any JSON values. -/
def display (ledger : Ledger Json) : Except Numeral.Fault Text := do
  let shown ← ledger.files.display (OrderedMap.display Json.display)
  return "FileRuleMap(" ++ shown ++ ")"

end Ledger

namespace Baseline

/-- Show one tolerated count. -/
def displayCount (count : Int) : Except Numeral.Fault Text := do
  let written ← Numeral.write count
  return "BaselineEntry(count=" ++ written ++ ")"

/-- Show a baseline. -/
def display (baseline : Baseline) : Except Numeral.Fault Text := do
  let shown ← baseline.files.display (OrderedMap.display displayCount)
  return "Baseline(" ++ shown ++ ")"

end Baseline

end Tolerance
