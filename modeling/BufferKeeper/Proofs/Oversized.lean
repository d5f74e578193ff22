import BufferKeeper.Proofs.Capacity

/-!
# Data that one receive cannot take in

A packet may be longer than the inbox, and what does not fit is dropped without a word. A reset or a
write that carries too much data and says so is still never stored in part: its header claims more
than is left of its payload. Under `vulnerable`, where no write is asked for its payload, it claims
more than a reachable keeper can have stored.
-/

namespace BufferKeeper

/-! ## 1. What is left of the packet -/

namespace Packet

variable {packet : Packet}

/-- The packet claims more than the largest payload, of which no more is left. -/
structure Overclaims (packet : Packet) : Prop where
  available_eq : packet.available = capacity
  capacity_lt : capacity < packet.length

theorem Overclaims.available_lt (h : packet.Overclaims) : packet.available < packet.length := by
  rw [h.available_eq]
  exact h.capacity_lt

theorem ofInput_encode_oversized {op : Opcode} (hop : op.normalize = op) (offset length : UInt64)
    (data : List UInt8) :
    ofInput (encode ⟨⟨op, offset, length⟩, data⟩) =
      .ok ⟨⟨op, offset, length⟩, data.take capacity⟩ := by
  rw [ofInput_encode_cut]
  show Except.ok (⟨⟨op.normalize, offset, length⟩, data.take capacity⟩ : Packet) = _
  rw [hop]

theorem overclaims_of_oversized (op : Opcode) (offset : UInt64) {length : UInt64}
    {data : List UInt8} (hover : capacity < data.length) (hlength : length.toNat = data.length) :
    Overclaims ⟨⟨op, offset, length⟩, data.take capacity⟩ where
  available_eq := List.length_take_of_le (Nat.le_of_lt hover)
  capacity_lt := by
    show capacity < length.toNat
    rw [hlength]
    exact hover

end Packet

theorem Inbox.bytes_receive_of_le {inbox : Inbox} {input : List UInt8}
    (h : maxPacketSize ≤ input.length) :
    (inbox.receive input).bytes = input.take maxPacketSize := by
  have hlen := inbox.length_bytes
  rw [bytes_receive, List.drop_eq_nil_of_le (by omega), List.append_nil]

/-! ## 2. How it is refused -/

variable {policy : Policy} {region : Region} {inbox : Inbox} {packet : Packet}

-- A write under `vulnerable` would need more bytes than there are behind a header.
theorem Packet.Overclaims.writeData?_eq_none (h : packet.Overclaims) (policy : Policy)
    (inbox : Inbox) : policy.writeData? inbox packet = none := by
  apply Option.eq_none_iff_forall_ne_some.mpr
  intro data hdata
  cases policy with
  | safe =>
    have henough := (Policy.writeData?_safe_iff.mp hdata).1
    exact absurd henough (Nat.not_le.mpr h.available_lt)
  | vulnerable =>
    have hroom := (Policy.writeData?_vulnerable_iff.mp hdata).1
    have hover := h.capacity_lt
    have hsum := headerSize_add_capacity
    omega

theorem Packet.Overclaims.perform_eq (h : packet.Overclaims) (policy : Policy) (region : Region)
    (inbox : Inbox) (op : packet.header.opcode ≠ .read) :
    perform policy region inbox packet =
      .refuse region (policy.refusal packet (region.contents.map List.length)) := by
  rcases perform_eq_cases policy region inbox packet with ⟨response, after, heffect, -⟩ | hdone
  · cases heffect with
    | read op' _ => exact absurd op' op
    | write _ source _ => cases (h.writeData?_eq_none policy inbox).symm.trans source
    | reset _ enough => exact absurd enough (Nat.not_le.mpr h.available_lt)
  · exact hdone

theorem Packet.Overclaims.refusal_of_write (h : packet.Overclaims) (policy : Policy)
    (hbound : region.Bounded) (op : packet.header.opcode = .write) :
    policy.refusal packet (region.contents.map List.length) =
      match region.contents, policy with
      | none, _ => .regionAbsent
      | some _, .safe => .payloadTooShort packet.length capacity
      | some bytes, .vulnerable => .outOfBounds packet.offset packet.length bytes.length := by
  unfold Policy.refusal
  rw [op]
  rcases region with ⟨_ | bytes⟩
  · rfl
  · show policy.writeRefusal packet bytes.length = _
    cases policy with
    | safe =>
      unfold Policy.writeRefusal
      dsimp only
      rw [if_neg (Nat.not_le.mpr h.available_lt), h.available_eq]
    | vulnerable =>
      have hlen : bytes.length ≤ capacity := hbound bytes rfl
      have hover := h.capacity_lt
      rw [Policy.writeRefusal_vulnerable packet hlen, if_neg (by omega)]

theorem Packet.Overclaims.refusal_of_reset (h : packet.Overclaims) (policy : Policy)
    (stored : Option Nat) (op : packet.header.opcode = .reset) :
    policy.refusal packet stored = .payloadTooShort packet.length capacity := by
  unfold Policy.refusal
  rw [op, ← h.available_eq]

/-! ## 3. The law -/

theorem Keeper.processed_of_overclaims (k : Keeper) {input : List UInt8} (h : packet.Overclaims)
    (hinput : Packet.ofInput input = .ok packet) (op : packet.header.opcode ≠ .read) :
    (k.processed input).outcome =
        .refused (k.policy.refusal packet (k.region.contents.map List.length)) ∧
      (k.process input).region = k.region := by
  obtain ⟨hout, hafter⟩ := k.processed_of_ofInput hinput
  rw [hout, hafter, h.perform_eq k.policy k.region (k.inbox.receive input) op]
  exact ⟨rfl, rfl⟩

/-- A reset or a write that claims exactly the data that it carries, more than the 4076 bytes that
fit behind a header, is refused by every reachable keeper and leaves the region as it was, although
only its first 4096 bytes are received. A reset lacks payload. A write comes before anything is
stored, or lacks payload under `safe`, and is out of bounds under `vulnerable`. -/
theorem Keeper.Reachable.oversized_data_is_never_stored {k : Keeper} (hk : k.Reachable)
    (offset length : UInt64) {data : List UInt8} (hover : capacity < data.length)
    (hlength : length.toNat = data.length) :
    let reset := Packet.encode ⟨⟨.reset, offset, length⟩, data⟩
    let write := Packet.encode ⟨⟨.write, offset, length⟩, data⟩
    ((k.process reset).inbox.bytes = reset.take maxPacketSize ∧
      (k.processed reset).outcome = .refused (.payloadTooShort data.length capacity) ∧
      (k.process reset).region = k.region) ∧
    ((k.process write).inbox.bytes = write.take maxPacketSize ∧
      (k.processed write).outcome = .refused
        (match k.region.contents, k.policy with
        | none, _ => .regionAbsent
        | some _, .safe => .payloadTooShort data.length capacity
        | some bytes, .vulnerable => .outOfBounds offset.toNat data.length bytes.length) ∧
      (k.process write).region = k.region) := by
  intro reset write
  have hinput (op : Opcode) : maxPacketSize ≤ (Packet.encode ⟨⟨op, offset, length⟩, data⟩).length := by
    have hsum := headerSize_add_capacity
    rw [Packet.length_encode]
    show maxPacketSize ≤ headerSize + data.length
    omega
  have hover' (op : Opcode) := Packet.overclaims_of_oversized op offset hover hlength
  obtain ⟨hreset, hafter⟩ := k.processed_of_overclaims (hover' .reset)
    (Packet.ofInput_encode_oversized rfl offset length data) Opcode.noConfusion
  obtain ⟨hwrite, hafter'⟩ := k.processed_of_overclaims (hover' .write)
    (Packet.ofInput_encode_oversized rfl offset length data) Opcode.noConfusion
  rw [(hover' .reset).refusal_of_reset k.policy _ rfl] at hreset
  rw [(hover' .write).refusal_of_write k.policy hk.bounded rfl] at hwrite
  rw [← hlength]
  exact ⟨⟨Inbox.bytes_receive_of_le (hinput .reset), hreset, hafter⟩,
    ⟨Inbox.bytes_receive_of_le (hinput .write), hwrite, hafter'⟩⟩

/-- Three bytes are stored under `vulnerable`, and a reset and a write come with one byte too many to
be received. -/
theorem one_byte_too_many :
    let data := List.replicate 4077 (7 : UInt8)
    let reset := Packet.encode ⟨⟨.reset, 0, 4077⟩, data⟩
    let write := Packet.encode ⟨⟨.write, 1, 4077⟩, data⟩
    let stored : Packet := ⟨⟨.reset, 0, 3⟩, [1, 2, 3]⟩
    let k := (Keeper.fresh .vulnerable).processAll [stored.encode]
    (k.processed reset).outcome = .refused (.payloadTooShort 4077 4076) ∧
      (k.processed write).outcome = .refused (.outOfBounds 1 4077 3) ∧
      (k.process write).region = ⟨some [1, 2, 3]⟩ := by
  intro data reset write stored k
  have hk : k.Reachable := Keeper.reachable_processAll _ _
  have hregion : k.region = ⟨some [1, 2, 3]⟩ := by decide +kernel
  have hsize : data.length = 4077 := List.length_replicate
  have hover : capacity < data.length := by
    rw [hsize]
    decide
  have hlength : (4077 : UInt64).toNat = data.length := by
    rw [hsize]
    rfl
  have hreset := (hk.oversized_data_is_never_stored 0 4077 hover hlength).1.2.1
  obtain ⟨-, hwrite, hafter⟩ := (hk.oversized_data_is_never_stored 1 4077 hover hlength).2
  rw [hsize] at hreset hwrite
  rw [hregion] at hwrite hafter
  exact ⟨hreset, hwrite, hafter⟩

end BufferKeeper
