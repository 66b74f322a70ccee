import Tolerance.OrderedMap
import Tolerance.Text.Blank

namespace Tolerance

/-!
# Switches in the environment

The environment can ask for an update or a tightening; only the word `true`, in
any case and with blanks around it, does.
-/

/-- The variables of a run. -/
abbrev Environment := OrderedMap Text

namespace Environment

/-- The value of a variable, empty if it is not set. -/
def value (environment : Environment) (name : Text) : Text :=
  (environment.get? name).getD []

/-- Whether a variable is switched on. -/
def flag (environment : Environment) (name : Text) : Bool :=
  (environment.value name).trimBlanks.toLowerAscii = "true"

end Environment

/-- What the environment asks for. -/
structure Switches where
  update : Bool
  tighten : Bool
  deriving Repr, DecidableEq

namespace Switches

/-- The switches in an environment. -/
def ofEnvironment (environment : Environment) : Switches where
  update := Environment.flag environment "LINT_RATCHET_UPDATE_BASELINE"
  tighten := Environment.flag environment "LINT_RATCHET_TIGHTEN_BASELINE"

end Switches

end Tolerance
