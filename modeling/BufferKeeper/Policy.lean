/-!
# Check policies

A server checks requests under one of two policies. `safe` checks offset and length together on
every access. `vulnerable` keeps the historical checks: a write compares only its length with the
stored size, and the end of a read is computed modulo the word size.
-/

namespace BufferKeeper

/-! ## 1. Policies and their names -/

inductive Policy where
  | safe
  | vulnerable
  deriving DecidableEq

namespace Policy

def name : Policy → String
  | .safe => "safe"
  | .vulnerable => "vulnerable"

/-- The name of a policy in log lines. -/
def title : Policy → String
  | .safe => "Safe"
  | .vulnerable => "Vulnerable"

/-- Case matters. -/
def ofName? (name : String) : Option Policy :=
  if name = "safe" then some .safe
  else if name = "vulnerable" then some .vulnerable
  else none

@[simp] theorem ofName?_name (p : Policy) : ofName? p.name = some p := by
  cases p <;> decide

/-! ## 2. Admission -/

/-- Under `vulnerable` the sum wraps around at the word size. -/
def admitsRead (policy : Policy) (offset length : UInt64) (stored : Nat) : Bool :=
  match policy with
  | .safe => offset.toNat + length.toNat ≤ stored
  | .vulnerable => (offset + length).toNat ≤ stored

/-- Wrapping around only makes the sum smaller, so no policy turns away a range that fits. -/
theorem admitsRead_of_le {policy : Policy} {offset length : UInt64} {stored : Nat}
    (h : offset.toNat + length.toNat ≤ stored) : policy.admitsRead offset length stored := by
  cases policy with
  | safe => exact decide_eq_true h
  | vulnerable =>
    have hsum : (offset + length).toNat ≤ offset.toNat + length.toNat := by
      rw [UInt64.toNat_add]
      exact Nat.mod_le _ _
    exact decide_eq_true (by omega)

theorem admitsRead_safe_iff {offset length : UInt64} {stored : Nat} :
    safe.admitsRead offset length stored ↔ offset.toNat + length.toNat ≤ stored := by
  simp only [admitsRead, decide_eq_true_eq]

end Policy

end BufferKeeper
