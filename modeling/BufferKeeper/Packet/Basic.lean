import BufferKeeper.Bytes.LittleEndian
import BufferKeeper.Packet.Opcode
import BufferKeeper.Text.Numeral

/-!
# Packets

A packet is a 20-byte header followed by a payload of any size:

* bytes 0 to 3: the operation tag,
* bytes 4 to 11: an offset,
* bytes 12 to 19: a length,

each little-endian. The length is a claim of the sender and need not match the payload. Decoding
fails only on fewer than 20 bytes.
-/

namespace BufferKeeper

open Bytes

/-! ## 1. Sizes and failures -/

def headerSize : Nat := 20

def maxPacketSize : Nat := 4096

inductive PacketError where
  | tooShort (received : Nat)
  deriving DecidableEq

def PacketError.message : PacketError → String
  | .tooShort received =>
    "packet not large enough: " ++ Text.decimal received ++ " bytes, header needs "
      ++ Text.decimal headerSize

/-! ## 2. Headers -/

structure Header where
  opcode : Opcode
  offset : UInt64
  length : UInt64
  deriving DecidableEq

namespace Header

def encode (h : Header) : List UInt8 :=
  ofNatLE 4 h.opcode.tag.toNat ++ ofNatLE 8 h.offset.toNat ++ ofNatLE 8 h.length.toNat

def appendTo (buffer : List UInt8) (h : Header) : List UInt8 :=
  buffer ++ h.encode

def decode (input : List UInt8) : Except PacketError Header :=
  if input.length < headerSize then
    .error (.tooShort input.length)
  else
    .ok {
      opcode := .ofTag (UInt32.ofNat (toNatLE (input.take 4)))
      offset := UInt64.ofNat (toNatLE ((input.drop 4).take 8))
      length := UInt64.ofNat (toNatLE ((input.drop 12).take 8)) }

@[simp] theorem length_encode (h : Header) : h.encode.length = headerSize := by
  simp [encode, headerSize]

end Header

/-! ## 3. Packets -/

structure Packet where
  header : Header
  payload : List UInt8
  deriving DecidableEq

namespace Packet

def encode (p : Packet) : List UInt8 :=
  p.header.encode ++ p.payload

def decode (input : List UInt8) : Except PacketError Packet :=
  (Header.decode input).map fun header => { header, payload := input.drop headerSize }

def available (p : Packet) : Nat :=
  p.payload.length

theorem payload_of_decode {input : List UInt8} {p : Packet} (h : decode input = .ok p) :
    headerSize ≤ input.length ∧ p.payload = input.drop headerSize := by
  unfold decode Header.decode at h
  split at h
  · cases h
  · cases h
    exact ⟨by omega, rfl⟩

end Packet

end BufferKeeper
