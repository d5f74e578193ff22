import BufferKeeper.Proofs.Handling

/-!
# What handling leaves alone

Handling changes the region and nothing else, and of the region only what the packet asks for: a
packet that is not applied and a read change nothing, a write keeps the length and every byte
outside its range, and presence and length are changed by resets alone. This holds of every keeper,
reachable or not, and of every way in which a packet can fail, the late ones at the region included.
-/

namespace BufferKeeper

open Bytes

/-! ## 1. The frame of an effect -/

/-- Whether the region is present, and then its length. -/
def Region.extent (region : Region) : Option Nat :=
  region.contents.map List.length

namespace Effect

variable {policy : Policy} {inbox : Inbox} {packet : Packet} {before after : Region}
  {response : Option (List UInt8)}

theorem region_of_read (h : Effect policy inbox packet before response after)
    (op : packet.header.opcode = .read) : after = before := by
  obtain ⟨bytes, rfl, -, -, rfl⟩ := h.of_read op
  rfl

theorem frame_of_write (h : Effect policy inbox packet before response after)
    (op : packet.header.opcode = .write) :
    ∃ bytes stored, before.contents = some bytes ∧ after.contents = some stored ∧
      stored.length = bytes.length ∧
      ∀ i, ¬(packet.offset ≤ i ∧ i < packet.offset + packet.length) → stored[i]? = bytes[i]? := by
  obtain ⟨bytes, data, rfl, hdata, hfit, -, rfl⟩ := h.of_write op
  have hlen : data.length = packet.length := Policy.length_writeData hdata
  refine ⟨bytes, splice bytes packet.offset data, rfl, rfl, length_splice (by omega), ?_⟩
  intro i hi
  rw [getElem?_splice (by omega), if_neg (by omega)]

theorem extent_of_ne_reset (h : Effect policy inbox packet before response after)
    (op : packet.header.opcode ≠ .reset) : after.extent = before.extent := by
  cases h with
  | read _ _ => rfl
  | @write bytes data _ source fits =>
    have hlen : (splice bytes packet.offset data).length = bytes.length :=
      length_splice (by rw [Policy.length_writeData source]; exact fits)
    exact congrArg some hlen
  | reset op' _ => exact absurd op' op

theorem isPresent_after (h : Effect policy inbox packet before response after) :
    after.isPresent := by
  cases h <;> rfl

theorem response_isSome_iff (h : Effect policy inbox packet before response after) :
    response.isSome ↔ packet.header.opcode = .read := by
  cases h with
  | read op _ => simp [op]
  | write op _ _ => simp [op]
  | reset op _ => simp [op]

end Effect

/-! ## 2. The frame of handling -/

/-- The handled bytes were a packet of this kind, and it was applied. -/
def Handled.Applies (done : Handled) (received : Except PacketError Packet) (op : Opcode)
    (packet : Packet) : Prop :=
  received = .ok packet ∧ packet.header.opcode = op ∧ done.outcome.isApplied

/-- What handling comes to that met the region `before` and decoded what was received as
`received`: it changes the region within the frame of the operation, and answers reads only. -/
structure Framed (before : Region) (received : Except PacketError Packet) (done : Handled) :
    Prop where
  refused : ∀ reason, done.outcome = .refused reason → done.region = before
  malformed : ∀ cause, done.outcome = .malformed cause → done.region = before
  read : ∀ packet, done.Applies received .read packet → done.region = before
  write : ∀ packet, done.Applies received .write packet →
    ∃ bytes stored, before.contents = some bytes ∧ done.region.contents = some stored ∧
      stored.length = bytes.length ∧
      ∀ i, ¬(packet.offset ≤ i ∧ i < packet.offset + packet.length) → stored[i]? = bytes[i]?
  resized : done.region.extent ≠ before.extent → ∃ packet, done.Applies received .reset packet
  present : before.isPresent → done.region.isPresent
  answered : done.outcome.response.isSome ↔ ∃ packet, done.Applies received .read packet

-- Handling that applied nothing and left the region keeps to every frame.
theorem framed_of_not_applied {before : Region} {received : Except PacketError Packet}
    {done : Handled} (hout : done.outcome.isApplied = false) (hstays : done.region = before) :
    Framed before received done := by
  have hnone (op : Opcode) (packet : Packet) : ¬done.Applies received op packet := by
    rintro ⟨-, -, happlied⟩
    rw [hout] at happlied
    cases happlied
  refine ⟨fun _ _ => hstays, fun _ _ => hstays, fun _ _ => hstays, ?_, ?_, ?_, ?_⟩
  · intro packet hwrite
    exact absurd hwrite (hnone _ _)
  · intro hresized
    rw [hstays] at hresized
    exact absurd rfl hresized
  · intro hpresent
    rw [hstays]
    exact hpresent
  · rw [Outcome.response_of_not_applied hout]
    constructor
    · intro hsome
      cases hsome
    · rintro ⟨packet, hread⟩
      exact absurd hread (hnone _ _)

theorem Effect.framed {policy : Policy} {inbox : Inbox} {packet : Packet} {before : Region}
    {done : Handled} {response : Option (List UInt8)}
    (h : Effect policy inbox packet before response done.region)
    (hout : done.outcome = .applied response) : Framed before (.ok packet) done := by
  have happlied : done.outcome.isApplied := by
    rw [hout]
    rfl
  refine ⟨?_, ?_, ?_, ?_, ?_, fun _ => h.isPresent_after, ?_⟩
  · intro reason hrefused
    cases hout.symm.trans hrefused
  · intro cause hmalformed
    cases hout.symm.trans hmalformed
  · rintro _ ⟨⟨⟩, op, -⟩
    exact h.region_of_read op
  · rintro _ ⟨⟨⟩, op, -⟩
    exact h.frame_of_write op
  · intro hresized
    by_cases op : packet.header.opcode = .reset
    · exact ⟨packet, rfl, op, happlied⟩
    · exact absurd (h.extent_of_ne_reset op) hresized
  · rw [hout]
    refine h.response_isSome_iff.trans ⟨fun op => ⟨packet, rfl, op, happlied⟩, ?_⟩
    rintro ⟨_, ⟨⟩, op, -⟩
    exact op

namespace Keeper

theorem framed_handled (k : Keeper) (n : Nat) :
    Framed k.region (Packet.decode (k.inbox.front n)) (k.handled n) := by
  rcases k.handled_cases n with ⟨packet, response, hdecode, hout, heffect⟩ | ⟨hout, hstays⟩
  · rw [hdecode]
    exact heffect.framed hout
  · exact framed_of_not_applied hout hstays

theorem framed_processed (k : Keeper) (input : List UInt8) :
    Framed k.region (Packet.ofInput input) (k.processed input) := by
  have h := (k.receive input).framed_handled (taken input)
  rw [decode_received] at h
  exact h

end Keeper

/-! ## 3. The law -/

/-- Handling the inbox of any keeper, and processing any input, keeps to the frame of the operation.
The policy never changes, and the inbox only where an input is received: as far as the input
reaches. -/
theorem handling_keeps_frame (k : Keeper) :
    (∀ n, Framed k.region (Packet.decode (k.inbox.front n)) (k.handled n) ∧
      (k.handle n).region = (k.handled n).region ∧ (k.handle n).inbox = k.inbox ∧
      (k.handle n).policy = k.policy) ∧
    ∀ input, Framed k.region (Packet.ofInput input) (k.processed input) ∧
      (k.process input).region = (k.processed input).region ∧
      (k.process input).policy = k.policy ∧
      (k.process input).inbox.bytes.length = k.inbox.bytes.length ∧
      ∀ i, min input.length maxPacketSize ≤ i →
        (k.process input).inbox.bytes[i]? = k.inbox.bytes[i]? := by
  constructor
  · intro n
    exact ⟨k.framed_handled n, rfl, rfl, rfl⟩
  · intro input
    have hlen : (k.process input).inbox.bytes.length = k.inbox.bytes.length := by
      rw [Inbox.length_bytes, Inbox.length_bytes]
    refine ⟨k.framed_processed input, rfl, rfl, hlen, fun i hi => ?_⟩
    rw [Keeper.process_inbox, Inbox.getElem?_receive, if_neg (by omega)]

/-- Five bytes are stored under `vulnerable`. A write far outside passes the check of its length, is
stopped at the region, and changes nothing; a write that carries one byte of two leaves the bytes
around it alone. -/
theorem frame_of_late_refusal_and_short_write :
    let k : Keeper := ⟨.vulnerable, ⟨some [1, 2, 3, 4, 5]⟩, Inbox.zeros⟩
    let outside : Packet := ⟨⟨.write, 1000, 2⟩, [9, 9]⟩
    let inside : Packet := ⟨⟨.write, 1, 2⟩, [9]⟩
    (k.processed outside.encode).outcome =
        .refused (.uncheckedAccess (.outOfBounds 1000 2 5)) ∧
      (k.process outside.encode).region = k.region ∧
      ∃ stored, (k.process inside.encode).region.contents = some stored ∧ stored.length = 5 ∧
        stored[0]? = some 1 ∧ stored[3]? = some 4 ∧ stored[4]? = some 5 := by
  intro k outside inside
  obtain ⟨-, hprocess⟩ := handling_keeps_frame k
  obtain ⟨houtside, hregion, -⟩ := hprocess outside.encode
  obtain ⟨hinside, hregion', -⟩ := hprocess inside.encode
  have hrefused : (k.processed outside.encode).outcome =
      .refused (.uncheckedAccess (.outOfBounds 1000 2 5)) := by
    decide +kernel
  have happlies : (k.processed inside.encode).Applies (Packet.ofInput inside.encode) .write
      inside :=
    ⟨Packet.ofInput_encode rfl (by decide), rfl, by decide +kernel⟩
  obtain ⟨bytes, stored, hbytes, hstored, hlen, hsame⟩ := hinside.write inside happlies
  cases hbytes
  refine ⟨hrefused, hregion.trans (houtside.refused _ hrefused), stored, ?_, hlen,
    hsame 0 (by decide), hsame 3 (by decide), hsame 4 (by decide)⟩
  rw [hregion']
  exact hstored

end BufferKeeper
