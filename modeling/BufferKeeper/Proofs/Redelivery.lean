import BufferKeeper.Proofs.Run

/-!
# Inputs delivered again

Processing an input that was just processed changes nothing and comes to the same: the receive puts
the same bytes over themselves, and whatever the packet did to the region, it does it again to no
effect, since nothing that it changes decides whether it is admitted or where its data comes from.
-/

namespace BufferKeeper

open Bytes

/-! ## 1. Receiving and performing twice -/

theorem Inbox.receive_receive (inbox : Inbox) (input : List UInt8) :
    (inbox.receive input).receive input = inbox.receive input := by
  apply Inbox.ext
  apply List.ext_getElem?
  intro i
  rw [getElem?_receive]
  by_cases hi : i < min input.length maxPacketSize
  · rw [if_pos hi, getElem?_receive, if_pos hi]
  · rw [if_neg hi]

variable {policy : Policy} {inbox : Inbox} {packet : Packet} {before after : Region}
  {response : Option (List UInt8)}

theorem Effect.again (h : Effect policy inbox packet before response after) :
    Effect policy inbox packet after response after := by
  cases h with
  | read op fits => exact .read op fits
  | @write bytes data op source fits =>
    have hlen : data.length = packet.length := Policy.length_writeData source
    have hfits : packet.offset + data.length ≤ bytes.length := by omega
    have hagain : Effect policy inbox packet ⟨some (splice bytes packet.offset data)⟩ none
        ⟨some (splice (splice bytes packet.offset data) packet.offset data)⟩ :=
      .write op source (by rw [length_splice hfits]; exact fits)
    rw [splice_splice hfits rfl] at hagain
    exact hagain
  | reset op enough => exact .reset op enough

theorem perform_again (policy : Policy) (region : Region) (inbox : Inbox) (packet : Packet) :
    let once := perform policy region inbox packet
    (perform policy once.region inbox packet).outcome = once.outcome ∧
      (perform policy once.region inbox packet).region = once.region := by
  intro once
  rcases perform_cases policy region inbox packet with
    ⟨response, hout, heffect⟩ | ⟨reason, -, hstays⟩
  · obtain ⟨hout', hafter⟩ := heffect.again.perform
    exact ⟨hout'.trans hout.symm, hafter⟩
  · change once.region = region at hstays
    rw [hstays]
    exact ⟨rfl, hstays⟩

/-! ## 2. Processing again -/

namespace Keeper

theorem processed_again (k : Keeper) (input : List UInt8) :
    ((k.process input).processed input).outcome = (k.processed input).outcome ∧
      ((k.process input).process input).region = (k.process input).region := by
  cases hinput : Packet.ofInput input with
  | error cause =>
    obtain ⟨hout, -⟩ := k.processed_of_ofInput_error hinput
    obtain ⟨hout', hstays⟩ := (k.process input).processed_of_ofInput_error hinput
    exact ⟨hout'.trans hout.symm, hstays⟩
  | ok packet =>
    obtain ⟨hout, hafter⟩ := k.processed_of_ofInput hinput
    obtain ⟨hout', hafter'⟩ := (k.process input).processed_of_ofInput hinput
    obtain ⟨hsame, hstays⟩ := perform_again k.policy k.region (k.inbox.receive input) packet
    rw [process_policy, process_inbox, Inbox.receive_receive, hafter] at hout' hafter'
    rw [hout', hafter', hout, hafter]
    exact ⟨hsame, hstays⟩

theorem process_process (k : Keeper) (input : List UInt8) :
    (k.process input).process input = k.process input := by
  apply Keeper.ext
  · rfl
  · exact (k.processed_again input).2
  · rw [process_inbox, process_inbox, Inbox.receive_receive]

end Keeper

/-! ## 3. The law -/

/-- An input that is processed any number of times in a row, at least once, has the same outcome
each time, and leaves the keeper as processing it once does: region, inbox and policy. -/
theorem redelivery_is_idempotent (k : Keeper) (input : List UInt8) (again : Nat) :
    k.transcript (List.replicate (again + 1) input) =
        List.replicate (again + 1) ⟨input, (k.processed input).outcome⟩ ∧
      k.processAll (List.replicate (again + 1) input) = k.process input := by
  induction again generalizing k with
  | zero => exact ⟨rfl, rfl⟩
  | succ again ih =>
    obtain ⟨hturns, hend⟩ := ih (k.process input)
    rw [List.replicate_succ, Keeper.transcript, Keeper.processAll_cons, hturns, hend,
      (k.processed_again input).1, k.process_process]
    exact ⟨rfl, rfl⟩

end BufferKeeper
