/-!
# Operation codes

A packet names its operation by a 32-bit tag: 0 reads, 1 writes, 2 replaces the region, and every
other tag is kept as unknown. `ofTag` reads a tag and `tag` writes one. An `unknown` code that
carries one of the three known tags is possible; `normalize` is what it becomes on the wire.
-/

namespace BufferKeeper

/-! ## 1. Codes and tags -/

inductive Opcode where
  | read
  | write
  | reset
  | unknown (tag : UInt32)
  deriving DecidableEq

namespace Opcode

def ofTag (tag : UInt32) : Opcode :=
  if tag = 0 then .read
  else if tag = 1 then .write
  else if tag = 2 then .reset
  else .unknown tag

def tag : Opcode → UInt32
  | .read => 0
  | .write => 1
  | .reset => 2
  | .unknown tag => tag

/-- The operation a receiver sees when this one is sent. -/
def normalize (op : Opcode) : Opcode :=
  ofTag op.tag

/-! ## 2. Tags read back -/

@[simp] theorem tag_ofTag (t : UInt32) : (ofTag t).tag = t := by
  unfold ofTag
  split
  · simp_all [tag]
  · split
    · simp_all [tag]
    · split <;> simp_all [tag]

theorem normalize_eq_self_iff (op : Opcode) :
    op.normalize = op ↔ op ≠ .unknown 0 ∧ op ≠ .unknown 1 ∧ op ≠ .unknown 2 := by
  cases op with
  | read => simp [normalize, ofTag, tag]
  | write => simp [normalize, ofTag, tag]
  | reset => simp [normalize, ofTag, tag]
  | unknown t =>
    by_cases h0 : t = 0
    · simp [normalize, ofTag, tag, h0]
    · by_cases h1 : t = 1
      · simp [normalize, ofTag, tag, h1]
      · by_cases h2 : t = 2
        · simp [normalize, ofTag, tag, h2]
        · simp [normalize, ofTag, tag, h0, h1, h2]

end Opcode

end BufferKeeper
