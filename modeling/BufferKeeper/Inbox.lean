import BufferKeeper.Bytes.Splice
import BufferKeeper.Packet.Basic

/-!
# The inbox

Packets are received into one fixed buffer of 4096 bytes, zero at first, that outlives the single
packet: a packet overwrites the front of the inbox and leaves what earlier packets put behind it.
What does not fit is dropped.
-/

namespace BufferKeeper

open Bytes

structure Inbox where
  bytes : List UInt8
  length_bytes : bytes.length = maxPacketSize

namespace Inbox

/-! ## 1. Operations -/

def zeros : Inbox :=
  ⟨List.replicate maxPacketSize 0, by simp⟩

/-- How many bytes of `data` fit into the inbox from position `start`. -/
def room (start : Nat) (data : List UInt8) : Nat :=
  min data.length (maxPacketSize - start)

/-- The inbox with as much of `data` as fits written over its bytes from position `start`. -/
def overwrite (inbox : Inbox) (start : Nat) (data : List UInt8) : Inbox :=
  ⟨splice inbox.bytes (min start maxPacketSize) (data.take (room start data)), by
    have h := inbox.length_bytes
    rw [length_splice _]
    · exact h
    · simp only [List.length_take, room]
      omega⟩

def receive (inbox : Inbox) (input : List UInt8) : Inbox :=
  inbox.overwrite 0 input

def front (inbox : Inbox) (n : Nat) : List UInt8 :=
  inbox.bytes.take n

/-- The `length` bytes behind the place of a header, whoever sent them; `none` when the inbox ends
before. -/
def source? (inbox : Inbox) (length : Nat) : Option (List UInt8) :=
  if headerSize + length ≤ inbox.bytes.length then
    some (slice inbox.bytes headerSize length)
  else
    none

/-! ## 2. What a receive leaves -/

@[ext] theorem ext {a b : Inbox} (h : a.bytes = b.bytes) : a = b := by
  cases a
  cases b
  simp_all

theorem bytes_receive (inbox : Inbox) (input : List UInt8) :
    (inbox.receive input).bytes =
      input.take maxPacketSize ++ inbox.bytes.drop (min input.length maxPacketSize) := by
  simp [receive, overwrite, splice, room, Nat.min_comm]

theorem getElem?_receive (inbox : Inbox) (input : List UInt8) (i : Nat) :
    (inbox.receive input).bytes[i]? =
      if i < min input.length maxPacketSize then input[i]? else inbox.bytes[i]? := by
  have hlen : (input.take maxPacketSize).length = min input.length maxPacketSize := by
    rw [List.length_take, Nat.min_comm]
  rw [bytes_receive]
  split
  · rw [List.getElem?_append_left (by omega), List.getElem?_take_of_lt (by omega)]
  · rw [List.getElem?_append_right (by omega), List.getElem?_drop, hlen]
    congr 1
    omega

theorem front_receive (inbox : Inbox) (input : List UInt8) :
    (inbox.receive input).front (min input.length maxPacketSize) = input.take maxPacketSize := by
  rw [front, bytes_receive, List.take_append_of_le_length (by rw [List.length_take]; omega),
    List.take_take]
  by_cases h : input.length ≤ maxPacketSize
  · rw [List.take_of_length_le (by omega), List.take_of_length_le h]
  · congr 1
    omega

end Inbox

end BufferKeeper
