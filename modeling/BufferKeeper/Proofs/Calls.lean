import BufferKeeper.Exchange.Call
import BufferKeeper.Proofs.Capacity

/-!
# Calls to a server

What a client gets for a call, and what the server stores after it, in terms of the bytes that it
stored before. Reads and writes look the same under both policies, since a client's write carries
all that it claims: the range fits and is read or written, or nothing happens and nothing comes
back.
-/

namespace BufferKeeper

open Bytes

/-! ## 1. Reading and writing where the range fits -/

/-- The bytes of a range, or none when it does not fit. -/
def Bytes.fetched (bytes : List UInt8) (start count : Nat) : List UInt8 :=
  if start + count ≤ bytes.length then slice bytes start count else []

/-- `data` put over the bytes from `start`, or the bytes as they are when it does not fit. -/
def Bytes.written (bytes : List UInt8) (start : Nat) (data : List UInt8) : List UInt8 :=
  if start + data.length ≤ bytes.length then splice bytes start data else bytes

theorem Bytes.length_written (bytes : List UInt8) (start : Nat) (data : List UInt8) :
    (written bytes start data).length = bytes.length := by
  unfold written
  split
  · exact length_splice ‹_›
  · rfl

theorem Bytes.getElem?_written_of_outside {bytes data : List UInt8} {start i : Nat}
    (h : ¬(start ≤ i ∧ i < start + data.length)) : (written bytes start data)[i]? = bytes[i]? := by
  unfold written
  split
  · rw [getElem?_splice ‹_›, if_neg h]
  · rfl

theorem Bytes.getElem?_written_of_inside {bytes data : List UInt8} {start i : Nat}
    (h : start ≤ i ∧ i < start + data.length) :
    (written bytes start data)[i]? =
      if start + data.length ≤ bytes.length then data[i - start]? else bytes[i]? := by
  unfold written
  split
  · rw [getElem?_splice ‹_›, if_pos h]
  · rfl

/-! ## 2. The packet of a call -/

/-- The packet that claims exactly the data that it carries. -/
def Packet.carrying (op : Opcode) (offset : UInt64) (data : List UInt8) : Packet :=
  ⟨⟨op, offset, UInt64.ofNat data.length⟩, data⟩

-- A size up to the capacity is far from the end of the words, so a header can state it.
theorem toNat_ofNat_of_le_capacity {n : Nat} (h : n ≤ capacity) : (UInt64.ofNat n).toNat = n := by
  have hsize : capacity < UInt64.size := by decide
  exact UInt64.toNat_ofNat_of_lt' (Nat.lt_of_le_of_lt h hsize)

theorem Packet.length_encode_carrying_le_iff (op : Opcode) (offset : UInt64) (data : List UInt8) :
    (carrying op offset data).encode.length ≤ maxPacketSize ↔ data.length ≤ capacity := by
  have hsum := headerSize_add_capacity
  rw [length_encode]
  show headerSize + data.length ≤ maxPacketSize ↔ _
  omega

theorem Packet.length_carrying (op : Opcode) (offset : UInt64) {data : List UInt8}
    (h : data.length ≤ capacity) : (carrying op offset data).length = data.length :=
  toNat_ofNat_of_le_capacity h

theorem Packet.take_payload_carrying (op : Opcode) (offset : UInt64) {data : List UInt8}
    (h : data.length ≤ capacity) :
    (carrying op offset data).payload.take (carrying op offset data).length = data := by
  rw [length_carrying op offset h]
  exact List.take_length

theorem Packet.ofInput_carrying {op : Opcode} (hop : op.normalize = op) (offset : UInt64)
    {data : List UInt8} (h : data.length ≤ capacity) :
    ofInput (carrying op offset data).encode = .ok (carrying op offset data) := by
  have hfit := (length_encode_carrying_le_iff op offset data).mpr h
  rw [length_encode] at hfit
  exact ofInput_encode hop hfit

namespace Call

theorem ofInput_read (offset length : UInt64) :
    Packet.ofInput (Call.read offset length).packet = .ok ⟨⟨.read, offset, length⟩, []⟩ :=
  Packet.ofInput_encode rfl (by simp [headerSize, maxPacketSize])

theorem ofInput_write (offset : UInt64) {data : List UInt8} (h : data.length ≤ capacity) :
    Packet.ofInput (Call.write offset data).packet = .ok (.carrying .write offset data) :=
  Packet.ofInput_carrying rfl offset h

end Call

/-! ## 3. What calls come to -/

-- A read or a write that does not fit gets no bytes back and changes none.
theorem Keeper.processed_of_unfit (k : Keeper) {input : List UInt8} {packet : Packet}
    {bytes : List UInt8} (h : Packet.ofInput input = .ok packet) (hregion : k.region = ⟨some bytes⟩)
    (op : packet.header.opcode ≠ .reset) (hfit : ¬packet.offset + packet.length ≤ bytes.length) :
    (k.processed input).outcome.reply = [] ∧ (k.process input).region = ⟨some bytes⟩ := by
  rcases k.processed_cases_of_ofInput h with ⟨response, -, heffect⟩ | ⟨reason, hout, hstays⟩
  · rw [hregion] at heffect
    exact absurd (heffect.fits op) hfit
  · rw [hout, hstays]
    exact ⟨rfl, hregion⟩

theorem Keeper.processed_of_fitting_read (k : Keeper) {input : List UInt8} {packet : Packet}
    {bytes : List UInt8} (h : Packet.ofInput input = .ok packet) (hregion : k.region = ⟨some bytes⟩)
    (op : packet.header.opcode = .read) (hfit : packet.offset + packet.length ≤ bytes.length) :
    (k.processed input).outcome = .applied (some (slice bytes packet.offset packet.length)) ∧
      (k.process input).region = ⟨some bytes⟩ := by
  rw [k.processed_eq_applied_iff h, hregion]
  exact .read op hfit

-- Under either policy a write that carries what it claims puts just that into its range.
theorem Keeper.processed_of_full_write (k : Keeper) {input : List UInt8} {packet : Packet}
    {bytes : List UInt8} (h : Packet.ofInput input = .ok packet) (hregion : k.region = ⟨some bytes⟩)
    (op : packet.header.opcode = .write) (henough : packet.length ≤ packet.available)
    (hfit : packet.offset + packet.length ≤ bytes.length) :
    (k.processed input).outcome = .applied none ∧
      (k.process input).region =
        ⟨some (splice bytes packet.offset (packet.payload.take packet.length))⟩ := by
  have hdecode : Packet.decode ((k.receive input).inbox.front (taken input)) = .ok packet :=
    (k.decode_received input).trans h
  have hdata := k.policy.writeData?_of_decode hdecode henough
  rw [k.processed_eq_applied_iff h, hregion]
  exact .write op hdata hfit

-- A reset that carries what it claims stores just that, whatever was stored before.
theorem Keeper.processed_of_full_reset (k : Keeper) (offset : UInt64) {data : List UInt8}
    (hdata : data.length ≤ capacity) :
    (k.processed (Packet.carrying .reset offset data).encode).outcome = .applied none ∧
      (k.process (Packet.carrying .reset offset data).encode).region = ⟨some data⟩ := by
  have hnormal : Opcode.reset.normalize = .reset := rfl
  have hpacket := Packet.ofInput_carrying hnormal offset hdata
  have hlen := Packet.length_carrying .reset offset hdata
  have heffect : Effect k.policy (k.inbox.receive (Packet.carrying .reset offset data).encode)
      (.carrying .reset offset data) k.region none _ :=
    .reset rfl (Nat.le_of_eq hlen)
  rw [Packet.take_payload_carrying .reset offset hdata] at heffect
  exact (k.processed_eq_applied_iff hpacket).mpr heffect

-- The server hears of a call that reaches it by one receive, and its client waits for the reply.
theorem Keeper.serve_call (k : Keeper) (call : Call) :
    k.serve call.connection =
      { outcome := some (k.processed call.packet).outcome
        reply := (k.processed call.packet).outcome.reply
        keeper := k.process call.packet } :=
  serve_of_sent rfl (.inr rfl)

namespace Link

def keeperAfter (link : Link) (k : Keeper) (calls : List Call) : Keeper :=
  calls.foldl (fun k call => (link.call k call).2) k

theorem call_up (k : Keeper) (call : Call) :
    Link.up.call k call =
      (.ok (k.processed call.packet).outcome.reply, k.process call.packet) := by
  unfold Link.call
  rw [k.serve_call]

variable {k : Keeper} {bytes : List UInt8}

theorem call_read (h : k.region = ⟨some bytes⟩) (offset length : UInt64) :
    (Link.up.call k (.read offset length)).1 =
        .ok (fetched bytes offset.toNat length.toNat) ∧
      (Link.up.call k (.read offset length)).2.region = ⟨some bytes⟩ := by
  have hpacket := Call.ofInput_read offset length
  rw [call_up]
  unfold fetched
  by_cases hfit : offset.toNat + length.toNat ≤ bytes.length
  · obtain ⟨hout, hafter⟩ := k.processed_of_fitting_read hpacket h rfl hfit
    rw [hout, hafter, if_pos hfit]
    exact ⟨rfl, rfl⟩
  · obtain ⟨hreply, hafter⟩ := k.processed_of_unfit hpacket h (by simp) hfit
    rw [hreply, hafter, if_neg hfit]
    exact ⟨rfl, rfl⟩

theorem call_write (h : k.region = ⟨some bytes⟩) (offset : UInt64) {data : List UInt8}
    (hsize : (Call.write offset data).packet.length ≤ maxPacketSize) :
    (Link.up.call k (.write offset data)).1 = .ok [] ∧
      (Link.up.call k (.write offset data)).2.region = ⟨some (written bytes offset.toNat data)⟩ := by
  have hdata : data.length ≤ capacity :=
    (Packet.length_encode_carrying_le_iff .write offset data).mp hsize
  have hpacket := Call.ofInput_write offset hdata
  have hlen := Packet.length_carrying .write offset hdata
  rw [call_up]
  unfold written
  by_cases hfit : offset.toNat + data.length ≤ bytes.length
  · obtain ⟨hout, hafter⟩ := k.processed_of_full_write hpacket h rfl (Nat.le_of_eq hlen)
      (by rw [hlen]; exact hfit)
    rw [Packet.take_payload_carrying .write offset hdata] at hafter
    rw [hout, hafter, if_pos hfit]
    exact ⟨rfl, rfl⟩
  · obtain ⟨hreply, hafter⟩ := k.processed_of_unfit hpacket h (by simp [Packet.carrying])
      (by rw [hlen]; exact hfit)
    rw [hreply, hafter, if_neg hfit]
    exact ⟨rfl, rfl⟩

theorem call_reset (k : Keeper) {data : List UInt8} (hdata : data.length ≤ capacity) :
    (Link.up.call k (.reset data)).1 = .ok [] ∧
      (Link.up.call k (.reset data)).2.region = ⟨some data⟩ := by
  obtain ⟨hout, hafter⟩ := k.processed_of_full_reset 0 hdata
  rw [call_up]
  exact ⟨congrArg (fun outcome => Except.ok outcome.reply) hout, hafter⟩

end Link

end BufferKeeper
