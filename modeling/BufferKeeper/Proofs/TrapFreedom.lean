import BufferKeeper.Proofs.Capacity
import BufferKeeper.Proofs.Machine

/-!
# No step traps

With indices of the usual sizes, and a region that fills at most half of them, no step of handling
traps: each is guarded by a check made before, at times in another function and about other numbers.
The handling that is written out in steps therefore comes to just what a keeper says, whatever words
a packet brings. A region so large that no header could stand before it would undo this:
`writeUnchecked_traps` has the write that then goes wrong.
-/

namespace BufferKeeper

open Bytes

namespace Machine

/-! ## 1. Room for indices -/

/-- Packets can be indexed, and so can `stored` bytes behind a header; an index is a word. -/
structure Roomy (bits stored : Nat) : Prop where
  packet : maxPacketSize < 2 ^ bits
  behind : headerSize + stored < 2 ^ bits
  word : 2 ^ bits ≤ UInt64.size

theorem roomy_of_half {bits stored : Nat} (hbits : 16 ≤ bits ∧ bits ≤ 64)
    (h : stored < 2 ^ (bits - 1)) : Roomy bits stored := by
  have hlow : 2 ^ 15 ≤ 2 ^ (bits - 1) := Nat.pow_le_pow_right (by decide) (by omega)
  have hhigh : 2 ^ bits ≤ 2 ^ 64 := Nat.pow_le_pow_right (by decide) hbits.2
  have hdouble : 2 ^ (bits - 1) * 2 = 2 ^ bits := Nat.two_pow_pred_mul_two (by omega)
  have hheader : headerSize = 20 := rfl
  have hpacket : maxPacketSize = 4096 := rfl
  have hsize : UInt64.size = 2 ^ 64 := rfl
  constructor <;> omega

theorem Roomy.stored_lt {bits stored : Nat} (h : Roomy bits stored) : stored < UInt64.size := by
  have hbehind := h.behind
  have hword := h.word
  omega

/-! ## 2. Decoding -/

theorem decodeHeader_eq (input : List UInt8) : decodeHeader input = .ok (Header.decode input) := by
  unfold decodeHeader Header.decode
  by_cases h : input.length < headerSize
  · rw [if_pos h, if_pos h]
    rfl
  · have hfront : (input.take headerSize).length = 20 := by
      rw [List.length_take]
      show min 20 input.length = 20
      have hheader : headerSize = 20 := rfl
      omega
    rw [if_neg h, if_neg h, upTo_of_le (Nat.le_of_not_lt h), ok_bind, getLE_of_le (by omega),
      ok_bind]
    dsimp only
    rw [getLE_of_le (by rw [List.length_drop]; omega), ok_bind]
    dsimp only
    rw [getLE_of_le (by rw [List.length_drop, List.length_drop]; omega), ok_bind]
    simp only [headerSize, List.drop_drop, List.drop_take, List.take_take]
    rfl

theorem decode_eq (input : List UInt8) : decode input = .ok (Packet.decode input) := by
  rw [decode, decodeHeader_eq, ok_bind]
  cases hheader : Header.decode input with
  | error cause =>
    rw [Packet.decode, hheader]
    rfl
  | ok header =>
    have hpacket : Packet.decode input = .ok ⟨header, input.drop headerSize⟩ := by
      rw [Packet.decode, hheader]
      rfl
    have henough : headerSize ≤ input.length := (Packet.payload_of_decode hpacket).1
    rw [hpacket]
    show (onward input headerSize >>= _) = _
    rw [onward_of_le henough]
    rfl

/-! ## 3. The region -/

section Region

variable {bits stored : Nat} {offset length : UInt64} {region : Region}

-- The one check of the end keeps the sum and both conversions in range.
theorem range_of_le (h : Roomy bits stored) (hfit : offset.toNat + length.toNat ≤ stored) :
    range bits offset length stored =
      .ok (.ok (offset.toNat, offset.toNat + length.toNat)) := by
  have hbehind := h.behind
  have hstored := h.stored_lt
  have hsum : offset.toNat + length.toNat < UInt64.size := by omega
  have hstop : (offset + length).toNat = offset.toNat + length.toNat := toNat_add_of_lt hsum
  have hinside : ¬UInt64.ofNat stored < offset + length := by
    apply not_ofNat_lt_of_le hstored
    rw [hstop]
    exact hfit
  unfold range
  rw [sum?_of_lt hsum]
  dsimp only
  rw [if_neg hinside, index_of_lt (by omega), ok_bind, index_of_lt (by omega), ok_bind, hstop]
  rfl

theorem range_of_not_le (h : Roomy bits stored)
    (hfit : ¬offset.toNat + length.toNat ≤ stored) :
    range bits offset length stored =
      .ok (.error (.outOfBounds offset.toNat length.toNat stored)) := by
  have hstored : (UInt64.ofNat stored).toNat = stored := UInt64.toNat_ofNat_of_lt' h.stored_lt
  unfold range
  by_cases hsum : offset.toNat + length.toNat < UInt64.size
  · have houtside : UInt64.ofNat stored < offset + length := by
      apply ofNat_lt_of_not_le h.stored_lt
      rw [toNat_add_of_lt hsum]
      exact hfit
    rw [sum?_of_lt hsum]
    dsimp only
    rw [if_pos houtside, hstored]
    rfl
  · rw [sum?_of_not_lt hsum]
    dsimp only
    rw [hstored]
    rfl

theorem read_eq (offset length : UInt64) (h : Roomy bits region.size) :
    read bits region offset length = .ok (region.read offset.toNat length.toNat) := by
  rcases region with ⟨_ | bytes⟩
  · rfl
  · have hroomy : Roomy bits bytes.length := h
    rw [Region.read_some]
    show (range bits offset length bytes.length >>= _) = _
    by_cases hfit : offset.toNat + length.toNat ≤ bytes.length
    · rw [range_of_le hroomy hfit, ok_bind, if_pos hfit]
      dsimp only
      rw [between_of_le (Nat.le_add_right _ _) hfit, ok_bind, Nat.add_sub_cancel_left]
      rfl
    · rw [range_of_not_le hroomy hfit, ok_bind, if_neg hfit]
      rfl

theorem write_eq (offset : UInt64) {data : List UInt8} (h : Roomy bits region.size)
    (hdata : data.length < UInt64.size) :
    write bits region offset data = .ok (region.write offset.toNat data) := by
  rcases region with ⟨_ | bytes⟩
  · rfl
  · have hroomy : Roomy bits bytes.length := h
    have hlen : (UInt64.ofNat data.length).toNat = data.length := UInt64.toNat_ofNat_of_lt' hdata
    rw [Region.write_some]
    show (range bits offset (UInt64.ofNat data.length) bytes.length >>= _) = _
    by_cases hfit : offset.toNat + data.length ≤ bytes.length
    · rw [range_of_le hroomy (by rw [hlen]; exact hfit), ok_bind, if_pos hfit, hlen]
      dsimp only
      rw [copyInto_of_fit hfit, ok_bind]
      rfl
    · rw [range_of_not_le hroomy (by rw [hlen]; exact hfit), ok_bind, if_neg hfit, hlen]
      rfl

end Region

/-! ## 4. The operations -/

section Operations

variable {bits : Nat} {region : Region} {packet : Packet}

theorem outOfBounds_eq (header : Header) (h : Roomy bits region.size) :
    outOfBounds region header =
      .refuse region (.outOfBounds header.offset.toNat header.length.toNat region.size) := by
  rw [outOfBounds, UInt64.toNat_ofNat_of_lt' h.stored_lt]

theorem tooShort_eq (header : Header) {available : Nat} (h : available < UInt64.size) :
    tooShort region header available =
      .refuse region (.payloadTooShort header.length.toNat available) := by
  rw [tooShort, UInt64.toNat_ofNat_of_lt' h]

theorem admitsRead_eq (policy : Policy) (offset length : UInt64) {stored : Nat}
    (h : stored < UInt64.size) :
    admitsRead policy offset length (UInt64.ofNat stored) =
      policy.admitsRead offset length stored := by
  have hle (stop : UInt64) :
      decide (stop ≤ UInt64.ofNat stored) = decide (stop.toNat ≤ stored) := by
    apply decide_eq_decide.mpr
    rw [UInt64.le_iff_toNat_le, UInt64.toNat_ofNat_of_lt' h]
  cases policy with
  | vulnerable => exact hle (offset + length)
  | safe =>
    show (sum? offset length).any _ = decide (offset.toNat + length.toNat ≤ stored)
    by_cases hsum : offset.toNat + length.toNat < UInt64.size
    · rw [sum?_of_lt hsum, Option.any_some, hle, toNat_add_of_lt hsum]
    · rw [sum?_of_not_lt hsum, Option.any_none, decide_eq_false (by omega)]

theorem readPacket_eq (policy : Policy) (header : Header) (h : Roomy bits region.size) :
    readPacket bits policy region header =
      .ok (BufferKeeper.readPacket policy region header) := by
  unfold readPacket BufferKeeper.readPacket
  rw [admitsRead_eq policy _ _ h.stored_lt, read_eq _ _ h, ok_bind, outOfBounds_eq header h]
  split
  · split
    · cases region.read header.offset.toNat header.length.toNat <;> rfl
    · rfl
  · rfl

-- The conversion and the slice are guarded by the comparison with the payload.
theorem writeChecked_eq (h : Roomy bits region.size) (hpayload : packet.available ≤ maxPacketSize) :
    writeChecked bits region packet = .ok (BufferKeeper.writeChecked region packet) := by
  have hpacket := h.packet
  have hword := h.word
  have havailable : packet.available < UInt64.size := by omega
  unfold writeChecked BufferKeeper.writeChecked
  dsimp only
  by_cases henough : packet.header.length.toNat ≤ packet.available
  · have hlen : (packet.payload.take packet.header.length.toNat).length < UInt64.size := by
      rw [List.length_take]
      omega
    rw [if_pos henough, if_neg (not_ofNat_lt_of_le havailable henough), index_of_lt (by omega),
      ok_bind, upTo_of_le henough, ok_bind, write_eq _ h hlen, ok_bind, outOfBounds_eq _ h]
    cases region.write packet.header.offset.toNat _ <;> rfl
  · rw [if_neg henough, if_pos (ofNat_lt_of_not_le havailable henough), tooShort_eq _ havailable]
    rfl

theorem between?_eq_source? (inbox : Inbox) (length : Nat) :
    between? inbox.bytes headerSize (headerSize + length) = inbox.source? length := by
  rw [between?, Inbox.source?, Nat.add_sub_cancel_left]
  by_cases hfit : headerSize + length ≤ inbox.bytes.length
  · rw [if_pos hfit, if_pos ⟨Nat.le_add_right _ _, hfit⟩]
  · rw [if_neg hfit, if_neg (mt And.right hfit)]

theorem length_of_source? {inbox : Inbox} {length : Nat} {data : List UInt8}
    (h : inbox.source? length = some data) : data.length ≤ length := by
  unfold Inbox.source? at h
  split at h
  · cases h
    exact List.length_take_le _ _
  · cases h

-- The sum is guarded by the comparison with the size of another sequence of bytes, the region.
theorem writeUnchecked_eq (inbox : Inbox) (header : Header) (h : Roomy bits region.size) :
    writeUnchecked bits region inbox.bytes header =
      .ok (BufferKeeper.writeUnchecked region inbox header) := by
  have hbehind := h.behind
  unfold writeUnchecked BufferKeeper.writeUnchecked
  dsimp only
  by_cases hadmitted : header.length.toNat ≤ region.size
  · rw [if_pos hadmitted, if_neg (not_ofNat_lt_of_le h.stored_lt hadmitted),
      index_of_lt (by omega), ok_bind, add_of_lt (by omega), ok_bind, between?_eq_source?]
    cases hsource : inbox.source? header.length.toNat with
    | none =>
      have hheader : headerSize ≤ inbox.bytes.length := by
        rw [inbox.length_bytes]
        decide
      have hrest : inbox.bytes.length - headerSize < UInt64.size := by
        rw [inbox.length_bytes]
        decide
      dsimp only
      rw [sub_of_le hheader, ok_bind, tooShort_eq _ hrest]
      rfl
    | some data =>
      have hdata := Nat.lt_of_le_of_lt (length_of_source? hsource) header.length.toNat_lt
      dsimp only
      rw [write_eq _ h hdata, ok_bind]
      cases region.write header.offset.toNat data <;> rfl
  · rw [if_neg hadmitted, if_pos (ofNat_lt_of_not_le h.stored_lt hadmitted), outOfBounds_eq _ h]
    rfl

-- A region that left no room for a header would let a claim through that the sum does not hold.
theorem writeUnchecked_traps (received : List UInt8) {header : Header}
    (hsize : region.size < UInt64.size) (hadmitted : header.length.toNat ≤ region.size)
    (hindex : header.length.toNat < 2 ^ bits)
    (hlarge : 2 ^ bits ≤ headerSize + header.length.toNat) :
    writeUnchecked bits region received header =
      .error (.sumTooLarge headerSize header.length.toNat) := by
  unfold writeUnchecked
  rw [if_neg (not_ofNat_lt_of_le hsize hadmitted), index_of_lt hindex, ok_bind, add,
    if_neg (Nat.not_lt.mpr hlarge)]
  rfl

theorem writePacket_eq (policy : Policy) (inbox : Inbox) (h : Roomy bits region.size)
    (hpayload : packet.available ≤ maxPacketSize) :
    writePacket bits policy region inbox.bytes packet =
      .ok (BufferKeeper.writePacket policy region inbox packet) := by
  unfold writePacket BufferKeeper.writePacket
  rw [writeChecked_eq h hpayload, writeUnchecked_eq inbox _ h]
  cases policy <;> split <;> rfl

theorem resetPacket_eq (h : Roomy bits region.size) (hpayload : packet.available ≤ maxPacketSize) :
    resetPacket bits region packet = .ok (BufferKeeper.resetPacket region packet) := by
  have hpacket := h.packet
  have hword := h.word
  have havailable : packet.available < UInt64.size := by omega
  unfold resetPacket BufferKeeper.resetPacket
  dsimp only
  by_cases henough : packet.header.length.toNat ≤ packet.available
  · have hlen : (packet.payload.take packet.header.length.toNat).length =
        packet.header.length.toNat := List.length_take_of_le henough
    rw [if_pos henough, if_neg (not_ofNat_lt_of_le havailable henough), index_of_lt (by omega),
      ok_bind, upTo_of_le henough, ok_bind, hlen, UInt64.toNat_ofNat_of_lt' havailable]
    rfl
  · rw [if_neg henough, if_pos (ofNat_lt_of_not_le havailable henough), tooShort_eq _ havailable]
    rfl

theorem perform_eq (policy : Policy) (inbox : Inbox) (h : Roomy bits region.size)
    (hpayload : packet.available ≤ maxPacketSize) :
    perform bits policy region inbox.bytes packet =
      .ok (BufferKeeper.perform policy region inbox packet) := by
  unfold perform BufferKeeper.perform
  cases packet.header.opcode with
  | read => exact readPacket_eq policy packet.header h
  | write => exact writePacket_eq policy inbox h hpayload
  | reset => exact resetPacket_eq h hpayload
  | unknown tag => rfl

end Operations

/-! ## 5. Handling -/

theorem handled_eq {bits : Nat} (k : Keeper) (h : Roomy bits k.region.size) (n : Nat) :
    handled bits k.policy k.region k.inbox.bytes n = .ok (k.handled n) := by
  have hfront : k.inbox.bytes.take (min n k.inbox.bytes.length) = k.inbox.front n :=
    List.take_eq_take_min.symm
  unfold handled Keeper.handled
  rw [upTo_of_le (Nat.min_le_right _ _), ok_bind, hfront, decode_eq, ok_bind]
  cases hdecode : Packet.decode (k.inbox.front n) with
  | error cause => rfl
  | ok packet =>
    have hpayload : packet.available ≤ maxPacketSize :=
      Nat.le_trans (Packet.available_le_of_front hdecode) (by decide)
    dsimp only
    rw [perform_eq k.policy k.inbox h hpayload, ok_bind]
    rfl

theorem copyInto_receive (inbox : Inbox) (input : List UInt8) :
    copyInto inbox.bytes 0 (min input.length maxPacketSize)
        (input.take (min input.length maxPacketSize)) =
      .ok (inbox.receive input).bytes := by
  have hlen : (input.take (min input.length maxPacketSize)).length =
      min input.length maxPacketSize := List.length_take_of_le (Nat.min_le_left _ _)
  have hfit : 0 + (input.take (min input.length maxPacketSize)).length ≤ inbox.bytes.length := by
    rw [hlen, inbox.length_bytes, Nat.zero_add]
    exact Nat.min_le_right _ _
  have hcopy := copyInto_of_fit hfit
  rw [Nat.zero_add, hlen] at hcopy
  exact hcopy

theorem processed_eq {bits : Nat} (k : Keeper) (h : Roomy bits k.region.size)
    (input : List UInt8) :
    processed bits k.policy k.region k.inbox.bytes input =
      .ok ((k.process input).inbox.bytes, k.processed input) := by
  have hhandled := handled_eq (k.receive input) h (min input.length maxPacketSize)
  unfold processed
  dsimp only
  rw [upTo_of_le (Nat.min_le_left _ _), ok_bind, copyInto_receive, ok_bind]
  show (handled bits (k.receive input).policy (k.receive input).region
    (k.receive input).inbox.bytes _ >>= _) = _
  rw [hhandled]
  rfl

end Machine

/-! ## 6. The law -/

/-- On a machine whose indices have 16 to 64 bits, 64 among them, take any keeper whose region fills
at most half of the indices. Whatever is handled or processed, no step traps, and the steps come to
what the keeper says. -/
theorem machine_never_traps {bits : Nat} (hbits : 16 ≤ bits ∧ bits ≤ 64) {k : Keeper}
    (hsize : k.region.size < 2 ^ (bits - 1)) :
    (∀ n, Machine.handled bits k.policy k.region k.inbox.bytes n = .ok (k.handled n)) ∧
      ∀ input, Machine.processed bits k.policy k.region k.inbox.bytes input =
        .ok ((k.process input).inbox.bytes, k.processed input) := by
  have hroomy := Machine.roomy_of_half hbits hsize
  exact ⟨Machine.handled_eq k hroomy, Machine.processed_eq k hroomy⟩

-- The end of the range wraps around to 1, so that the policy lets the read through, and the region
-- meets an offset that is the last of all words.
theorem wrapped_read_traps_nowhere :
    let k : Keeper := ⟨.vulnerable, ⟨some [1, 2, 3, 4, 5]⟩, Inbox.zeros⟩
    let packet : Packet := ⟨⟨.read, 0xffffffffffffffff, 2⟩, []⟩
    ∃ received done,
      Machine.processed 64 k.policy k.region k.inbox.bytes packet.encode =
          .ok (received, done) ∧
        received.take headerSize = packet.encode ∧
        done.outcome = .refused (.uncheckedAccess (.outOfBounds 0xffffffffffffffff 2 5)) := by
  intro k packet
  have hbits : 16 ≤ 64 ∧ 64 ≤ 64 := by decide
  have hsize : k.region.size < 2 ^ (64 - 1) := by decide
  have hprocessed := (machine_never_traps hbits hsize).2 packet.encode
  exact ⟨_, _, hprocessed, by decide +kernel, by decide +kernel⟩

end BufferKeeper
