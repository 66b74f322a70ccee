import Tolerance.Baseline

namespace Tolerance

/-!
# Changes between baselines

The changes from one baseline to another list, in ascending order of file and
rule, every pair whose count differs; an entry with count 0 differs from none.
-/

/-- A pair of file and rule with its count before and after. -/
structure Change where
  filename : Text
  rule : Text
  before : Option Int
  after : Option Int
  deriving Repr, DecidableEq

namespace Change

/-- The four kinds of change. -/
inductive Kind where
  | added
  | removed
  | lowered
  | raised
  deriving Repr, DecidableEq

namespace Kind

/-- The name of a kind in reports. -/
def name : Kind → Text
  | .added => "added"
  | .removed => "removed"
  | .lowered => "lowered"
  | .raised => "raised"

end Kind

/-- The kind of a change, by its two counts. -/
def kind (change : Change) : Kind :=
  match change.before, change.after with
  | none, _ => .added
  | some _, none => .removed
  | some before, some after => if after < before then .lowered else .raised

end Change

namespace Baseline

/-- Pairs of file and rule in ascending order, by file first. -/
def pairPrecedes (left right : Text × Text) : Bool :=
  decide (left.1 < right.1) || left.1 == right.1 && !decide (right.2 < left.2)

/-- The pairs that one of two baselines lists, in ascending order. -/
def pairsOfEither (before after : Baseline) : List (Text × Text) :=
  Sorting.sortOnce pairPrecedes (before.pairs ++ after.pairs)

/-- The change of one pair, if its count differs. -/
def changeAt? (before after : Baseline) (pair : Text × Text) : Option Change :=
  let old := before.get? pair.1 pair.2
  let new := after.get? pair.1 pair.2
  if old = new then
    none
  else
    some { filename := pair.1, rule := pair.2, before := old, after := new }

/-- The changes that lead from one baseline to another. -/
def changes (before after : Baseline) : List Change :=
  (pairsOfEither before after).filterMap (changeAt? before after)

end Baseline

end Tolerance
