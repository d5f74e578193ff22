import BufferKeeper.Proofs.Run

/-!
# How much a region can hold

The region is filled only by resets, and a reset takes its bytes from one packet. So no reachable
keeper stores more than the 4076 bytes that the largest packet carries behind its header, whatever
was put into its inbox in between. Under `vulnerable` a write first compares its length with the
stored size, and therefore never asks for more bytes than the inbox holds.
-/

namespace BufferKeeper

open Bytes

/-- The payload bytes of the largest packet. -/
def capacity : Nat :=
  maxPacketSize - headerSize

example : capacity = 4076 := rfl

theorem headerSize_add_capacity : headerSize + capacity = maxPacketSize := rfl

/-! ## 1. The bound, kept by every action -/

/-- No more is stored than one packet can carry. -/
def Region.Bounded (region : Region) : Prop :=
  ∀ bytes, region.contents = some bytes → bytes.length ≤ capacity

theorem Region.bounded_absent : absent.Bounded := by
  intro bytes h
  cases h

theorem Packet.available_of_front {inbox : Inbox} {n : Nat} {packet : Packet}
    (h : decode (inbox.front n) = .ok packet) :
    headerSize + packet.available = min n maxPacketSize := by
  obtain ⟨hheader, hpayload⟩ := payload_of_decode h
  have hlen : (inbox.front n).length = min n maxPacketSize := by
    rw [Inbox.front, List.length_take, inbox.length_bytes]
  rw [available, hpayload, List.length_drop]
  omega

theorem Packet.available_le_of_front {inbox : Inbox} {n : Nat} {packet : Packet}
    (h : decode (inbox.front n) = .ok packet) : packet.available ≤ capacity := by
  have havailable := available_of_front h
  have hsum := headerSize_add_capacity
  omega

theorem Effect.bounded {policy : Policy} {inbox : Inbox} {packet : Packet}
    {before after : Region} {response : Option (List UInt8)}
    (h : Effect policy inbox packet before response after)
    (hroom : packet.available ≤ capacity) (hbefore : before.Bounded) : after.Bounded := by
  intro stored hstored
  cases h with
  | read op fits => exact hbefore _ hstored
  | write op source fits =>
    -- a write keeps the length
    cases hstored
    rw [length_splice (by rw [Policy.length_writeData source]; exact fits)]
    exact hbefore _ rfl
  | reset op enough =>
    -- a reset stores a part of the payload
    cases hstored
    rw [Packet.length_take_payload enough]
    omega

namespace Keeper

theorem bounded_handle {k : Keeper} (h : k.region.Bounded) (n : Nat) :
    (k.handle n).region.Bounded := by
  show (k.handled n).region.Bounded
  rcases k.handled_cases n with ⟨packet, response, hdecode, -, heffect⟩ | ⟨-, hstays⟩
  · exact heffect.bounded (Packet.available_le_of_front hdecode) h
  · rw [hstays]
    exact h

theorem bounded_act (k : Keeper) (action : Action) (h : k.region.Bounded) :
    (k.act action).region.Bounded := by
  cases action with
  | process input => exact bounded_handle (k := k.receive input) h _
  | handle n => exact bounded_handle h n
  | fill start data => exact h

theorem Reachable.bounded {k : Keeper} (h : k.Reachable) : k.region.Bounded :=
  h.induction (fun _ => Region.bounded_absent) bounded_act

end Keeper

/-! ## 2. Writes that ask for more than the inbox holds -/

-- What passes the check of the length against such a region is no longer than the inbox.
theorem Policy.writeRefusal_vulnerable {stored : Nat} (packet : Packet) (h : stored ≤ capacity) :
    vulnerable.writeRefusal packet stored =
      if packet.length ≤ stored then
        .uncheckedAccess (.outOfBounds packet.offset packet.length stored)
      else .outOfBounds packet.offset packet.length stored := by
  have hsum := headerSize_add_capacity
  unfold writeRefusal
  dsimp only
  split
  · rw [if_pos (by omega)]
  · rfl

theorem perform_write_overrun {region : Region} {packet : Packet} (hbound : region.Bounded)
    (inbox : Inbox) (op : packet.header.opcode = .write)
    (hover : maxPacketSize < headerSize + packet.length) :
    (perform .vulnerable region inbox packet).outcome = .refused
      (if region.isPresent then .outOfBounds packet.offset packet.length region.size
      else .regionAbsent) := by
  rcases perform_eq_cases .vulnerable region inbox packet with ⟨response, after, heffect, -⟩ | hdone
  · obtain ⟨bytes, data, -, hdata, -⟩ := heffect.of_write op
    have hroom := (Policy.writeData?_vulnerable_iff.mp hdata).1
    omega
  · rw [hdone]
    unfold Policy.refusal
    rw [op]
    rcases region with ⟨_ | bytes⟩
    · rfl
    · have hlen : bytes.length ≤ capacity := hbound bytes rfl
      have hsum := headerSize_add_capacity
      show Outcome.refused (Policy.vulnerable.writeRefusal packet bytes.length) = _
      rw [Policy.writeRefusal_vulnerable packet hlen, if_neg (by omega)]
      rfl

theorem perform_write_ne_tooShort {region : Region} {packet : Packet} (hbound : region.Bounded)
    (inbox : Inbox) (op : packet.header.opcode = .write) (claimed available : Nat) :
    (perform .vulnerable region inbox packet).outcome ≠
      .refused (.payloadTooShort claimed available) := by
  rcases perform_eq_cases .vulnerable region inbox packet with ⟨response, after, -, hdone⟩ | hdone
  · rw [hdone]
    exact Outcome.noConfusion
  · rw [hdone]
    unfold Policy.refusal
    rw [op]
    rcases region with ⟨_ | bytes⟩
    · simp [Handled.refuse]
    · show Outcome.refused (Policy.vulnerable.writeRefusal packet bytes.length) ≠ _
      rw [Policy.writeRefusal_vulnerable packet (hbound bytes rfl)]
      split <;> simp

/-! ## 3. The law -/

/-- A reachable keeper stores at most `capacity` bytes and its inbox keeps its size. Under
`vulnerable` no write is refused for want of payload: one that claims more than the inbox holds is
out of bounds, or comes before anything is stored. -/
theorem Keeper.Reachable.capacity_law {k : Keeper} (hk : k.Reachable) :
    (∀ bytes, k.region.contents = some bytes → bytes.length ≤ capacity) ∧
      k.inbox.bytes.length = maxPacketSize ∧
      (k.policy = .vulnerable → ∀ packet done, k.Handles packet done →
        packet.header.opcode = .write →
          (∀ claimed available, done.outcome ≠ .refused (.payloadTooShort claimed available)) ∧
            (maxPacketSize < headerSize + packet.length →
              done.outcome = .refused
                (if k.region.isPresent then
                  .outOfBounds packet.offset packet.length k.region.size
                else .regionAbsent))) := by
  refine ⟨hk.bounded, k.inbox.length_bytes, fun hpolicy packet done hdone op => ?_⟩
  obtain ⟨inbox, n, -, hout, -⟩ := hdone.perform
  rw [hout, hpolicy]
  exact ⟨perform_write_ne_tooShort hk.bounded inbox op, perform_write_overrun hk.bounded inbox op⟩

/-- With bytes put into the inbox and three bytes stored, a write that claims 5000 bytes is out of
bounds. -/
theorem overrun_of_three_stored :
    let stored : Packet := ⟨⟨.reset, 0, 3⟩, [1, 2, 3]⟩
    let write : Packet := ⟨⟨.write, 1, 5000⟩, [9]⟩
    let k := (Keeper.fresh .vulnerable).run [.fill 100 [7, 7], .process stored.encode]
    (k.processed write.encode).outcome = .refused (.outOfBounds 1 5000 3) := by
  intro stored write k
  have hk : k.Reachable := ⟨.vulnerable, _, rfl⟩
  have hregion : k.region = ⟨some [1, 2, 3]⟩ := by decide +kernel
  have hdone : k.Handles write (k.processed write.encode) :=
    .inr ⟨_, Packet.ofInput_encode rfl (by decide), rfl⟩
  have h := (hk.capacity_law.2.2 rfl _ _ hdone rfl).2 (by decide)
  rw [hregion] at h
  exact h

end BufferKeeper
