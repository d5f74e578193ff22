import BufferKeeper.Packet.Basic
import BufferKeeper.Region

/-!
# Outcomes

Handling a packet has one of three outcomes: the operation ran, it was refused for a stated reason,
or the bytes were no packet. Only a read that ran carries response bytes.
-/

namespace BufferKeeper

/-! ## 1. Refusals -/

inductive Refusal where
  | regionAbsent
  | outOfBounds (offset length stored : Nat)
  | payloadTooShort (claimed available : Nat)
  | unknownOpcode (tag : UInt32)
  /-- The policy let an access through that the region then stopped. -/
  | uncheckedAccess (cause : RangeError)
  deriving DecidableEq

def Refusal.message : Refusal → String
  | .regionAbsent => "stored buffer is absent"
  | .outOfBounds offset length stored =>
    "offset=" ++ Text.hex offset ++ " length=" ++ Text.hex length
      ++ " out of bounds for " ++ Text.hex stored ++ " stored bytes"
  | .payloadTooShort claimed available =>
    "datagram length is invalid: claims " ++ Text.hex claimed
      ++ ", carries " ++ Text.hex available
  | .unknownOpcode tag => "unknown datagram type: " ++ Text.decimal tag.toNat
  | .uncheckedAccess cause => "unchecked access blocked: " ++ cause.message

/-! ## 2. Outcomes -/

inductive Outcome where
  /-- The operation ran; a read has response bytes, possibly none at all. -/
  | applied (response : Option (List UInt8))
  | refused (reason : Refusal)
  | malformed (cause : PacketError)
  deriving DecidableEq

namespace Outcome

def response : Outcome → Option (List UInt8)
  | .applied response => response
  | .refused _ => none
  | .malformed _ => none

def isApplied : Outcome → Bool
  | .applied _ => true
  | .refused _ => false
  | .malformed _ => false

def reply (o : Outcome) : List UInt8 :=
  o.response.getD []

end Outcome

end BufferKeeper
