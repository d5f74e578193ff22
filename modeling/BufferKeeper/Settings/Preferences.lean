import BufferKeeper.Policy

/-!
# Preferences

The command line and the configuration file both may set the listen address, the backlog, the check
policy and the log level. Preferences record what one source sets. `orElse` lets one source take
precedence over another, field by field, and `complete` fills what no source sets with the defaults.
-/

namespace BufferKeeper

structure Preferences where
  listen : Option String
  backlog : Option Int32
  policy : Option Policy
  level : Option String
  deriving DecidableEq

/-- The listen address is still a text. -/
structure Choices where
  listen : String
  backlog : Int32
  policy : Policy
  level : String
  deriving DecidableEq

namespace Choices

def default : Choices :=
  { listen := "0.0.0.0:8080", backlog := 10, policy := .safe, level := "debug" }

end Choices

namespace Preferences

def none : Preferences :=
  ⟨.none, .none, .none, .none⟩

def orElse (p q : Preferences) : Preferences where
  listen := p.listen.or q.listen
  backlog := p.backlog.or q.backlog
  policy := p.policy.or q.policy
  level := p.level.or q.level

def complete (p : Preferences) : Choices where
  listen := p.listen.getD Choices.default.listen
  backlog := p.backlog.getD Choices.default.backlog
  policy := p.policy.getD Choices.default.policy
  level := p.level.getD Choices.default.level

end Preferences

def int32? (n : Int) : Option Int32 :=
  if Int32.minValue.toInt ≤ n ∧ n ≤ Int32.maxValue.toInt then some (Int32.ofInt n) else none

theorem int32?_toInt (i : Int32) : int32? i.toInt = some i := by
  rw [int32?, if_pos ⟨Int32.minValue_le_toInt i, Int32.toInt_le i⟩, Int32.ofInt_toInt]

end BufferKeeper
