/-!
# Log levels

Log lines have one of five levels, from `trace`, the most talkative, to `error`. A threshold lets a
level through when it is at least as severe; the threshold `off` lets nothing through.
-/

namespace BufferKeeper.Journal

/-! ## 1. Levels -/

inductive Level where
  | trace
  | debug
  | info
  | warn
  | error
  deriving DecidableEq

namespace Level

def severity : Level → Nat
  | .trace => 0
  | .debug => 1
  | .info => 2
  | .warn => 3
  | .error => 4

/-- Right-aligned in five columns. -/
def label : Level → String
  | .trace => "TRACE"
  | .debug => "DEBUG"
  | .info => " INFO"
  | .warn => " WARN"
  | .error => "ERROR"

end Level

/-! ## 2. Thresholds -/

/-- The least severe level that is printed. -/
inductive Threshold where
  | atLeast (level : Level)
  | off
  deriving DecidableEq

namespace Threshold

def admits : Threshold → Level → Bool
  | .atLeast least, level => least.severity ≤ level.severity
  | .off, _ => false

def ofName? (name : String) : Option Threshold :=
  if name = "trace" then some (.atLeast .trace)
  else if name = "debug" then some (.atLeast .debug)
  else if name = "info" then some (.atLeast .info)
  else if name = "warn" then some (.atLeast .warn)
  else if name = "error" then some (.atLeast .error)
  else if name = "off" then some .off
  else none

end Threshold

end BufferKeeper.Journal
