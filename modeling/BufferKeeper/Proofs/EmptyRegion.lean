import BufferKeeper.Proofs.Isolation

/-!
# Absent and empty regions

An absent region and a present one without bytes are different states, and packets are refused for
different reasons or even applied there. None of this is seen by a client: as long as no byte is
stored, every packet but a reset leaves the region alone and is answered by nothing. A reset does the
same to both, so that from the first applied one on there is no difference at all.
-/

namespace BufferKeeper

open Bytes

/-! ## 1. Nothing stored, nothing answered -/

/-- The regions hold the same bytes; that one may be absent where the other is empty is all that can
tell them apart. -/
def Region.SameBytes (region region' : Region) : Prop :=
  region.contents.getD [] = region'.contents.getD []

theorem Region.sameBytes_absent_empty : absent.SameBytes ⟨some []⟩ := rfl

theorem Region.length_getD_contents (region : Region) :
    (region.contents.getD []).length = region.size := by
  rcases region with ⟨_ | bytes⟩ <;> rfl

theorem Region.SameBytes.eq_or_empty {region region' : Region} (h : region.SameBytes region') :
    region = region' ∨ region.size = 0 ∧ region'.size = 0 := by
  have hlen : region.size = region'.size := by
    rw [← length_getD_contents, ← length_getD_contents, h]
  rcases region with ⟨_ | bytes⟩
  · exact .inr ⟨rfl, hlen.symm⟩
  · rcases region' with ⟨_ | bytes'⟩
    · exact .inr ⟨hlen, rfl⟩
    · exact .inl (congrArg (fun bytes => (⟨some bytes⟩ : Region)) h)

theorem Effect.of_empty {policy : Policy} {inbox : Inbox} {packet : Packet}
    {before after : Region} {response : Option (List UInt8)}
    (h : Effect policy inbox packet before response after) (hempty : before.size = 0)
    (op : packet.header.opcode ≠ .reset) : response.getD [] = [] ∧ after = before := by
  cases h with
  | @read bytes _ fits =>
    have hbytes : bytes = [] := List.length_eq_zero_iff.mp hempty
    have hslice : slice bytes packet.offset packet.length = [] := by
      rw [hbytes, slice, List.drop_nil, List.take_nil]
    exact ⟨hslice, rfl⟩
  | @write bytes data _ source fits =>
    -- a range inside no bytes has no bytes either
    have hbytes : bytes = [] := List.length_eq_zero_iff.mp hempty
    have hlen : data.length = packet.length := Policy.length_writeData source
    have hdata : data = [] := by
      rw [hbytes, List.length_nil] at fits
      exact List.length_eq_zero_iff.mp (by omega)
    have hsplice : splice bytes packet.offset data = bytes := by
      rw [hbytes, hdata, splice, List.take_nil, List.drop_nil]
      rfl
    exact ⟨rfl, by rw [hsplice]⟩
  | reset op' _ => exact absurd op' op

namespace Keeper

variable {k k' : Keeper} {input : List UInt8}

-- While nothing is stored, all that is not an applied reset is silent and changes nothing.
theorem silent_of_empty (hempty : k.region.size = 0)
    (hreset : (Turn.mk input (k.processed input).outcome).applied? .reset = none) :
    (k.processed input).outcome.reply = [] ∧ (k.process input).region = k.region := by
  rcases k.processed_cases input with ⟨packet, response, hpacket, hout, heffect⟩ | ⟨hout, hstays⟩
  · have op : packet.header.opcode ≠ .reset := by
      intro op
      rw [hout, Turn.applied?_of_ofInput hpacket, if_pos op] at hreset
      cases hreset
    rw [hout]
    exact heffect.of_empty hempty op
  · refine ⟨?_, hstays⟩
    rw [Outcome.reply, Outcome.response_of_not_applied hout]
    rfl

theorem region_of_unreset {inputs : List (List UInt8)} (hempty : k.region.size = 0)
    (hnone : ∀ turn ∈ k.transcript inputs, turn.applied? .reset = none) :
    (k.processAll inputs).region = k.region := by
  induction inputs generalizing k with
  | nil => rfl
  | cons input rest ih =>
    rw [transcript, List.forall_mem_cons] at hnone
    obtain ⟨-, hstays⟩ := silent_of_empty hempty hnone.1
    rw [processAll_cons, ih (by rw [hstays]; exact hempty) hnone.2, hstays]

/-! ## 2. Keepers that answer alike -/

/-- The keepers differ at most in that nothing is stored because the region is absent in one of them
and empty in the other. -/
structure AnswersLike (k k' : Keeper) : Prop where
  policy : k.policy = k'.policy
  inbox : k.inbox = k'.inbox
  bytes : k.region.SameBytes k'.region

theorem AnswersLike.symm (h : k.AnswersLike k') : k'.AnswersLike k :=
  ⟨h.policy.symm, h.inbox.symm, Eq.symm h.bytes⟩

-- An applied reset forgets the only difference, so from there on there is one keeper.
theorem AnswersLike.step_of_reset (h : k.AnswersLike k')
    (hreset : ((Turn.mk input (k.processed input).outcome).applied? .reset).isSome) :
    (k.processed input).outcome = (k'.processed input).outcome ∧
      k.process input = k'.process input := by
  let turn : Turn := ⟨input, (k.processed input).outcome⟩
  have hturn : (k.processed turn.input).outcome = turn.outcome := rfl
  obtain ⟨hout, hregion⟩ := reset_forgets hturn hreset k'
  refine ⟨hout.symm, Keeper.ext h.policy hregion.symm ?_⟩
  rw [process_inbox, process_inbox, h.inbox]

theorem AnswersLike.step (h : k.AnswersLike k') (input : List UInt8) :
    (k.processed input).outcome.reply = (k'.processed input).outcome.reply ∧
      (Turn.mk input (k.processed input).outcome).applied? .reset =
        (Turn.mk input (k'.processed input).outcome).applied? .reset ∧
      (k.process input).AnswersLike (k'.process input) := by
  rcases h.bytes.eq_or_empty with hregion | ⟨hempty, hempty'⟩
  · cases Keeper.ext h.policy hregion h.inbox
    exact ⟨rfl, rfl, h.policy, rfl, rfl⟩
  · cases hreset : (Turn.mk input (k.processed input).outcome).applied? .reset with
    | some packet =>
      obtain ⟨hout, hnext⟩ := h.step_of_reset (by rw [hreset]; rfl)
      rw [← hout, ← hnext, hreset]
      exact ⟨rfl, rfl, rfl, rfl, rfl⟩
    | none =>
      cases hreset' : (Turn.mk input (k'.processed input).outcome).applied? .reset with
      | some packet =>
        obtain ⟨hout, -⟩ := h.symm.step_of_reset (by rw [hreset']; rfl)
        rw [← hout, hreset'] at hreset
        cases hreset
      | none =>
        obtain ⟨hsilent, hstays⟩ := silent_of_empty hempty hreset
        obtain ⟨hsilent', hstays'⟩ := silent_of_empty hempty' hreset'
        refine ⟨hsilent.trans hsilent'.symm, rfl, h.policy, ?_, ?_⟩
        · rw [process_inbox, process_inbox, h.inbox]
        · rw [hstays, hstays']
          exact h.bytes

theorem AnswersLike.run (h : k.AnswersLike k') (inputs : List (List UInt8)) :
    (k.transcript inputs).map (fun turn => turn.outcome.reply) =
        (k'.transcript inputs).map (fun turn => turn.outcome.reply) ∧
      (k.transcript inputs).map (Turn.applied? .reset) =
        (k'.transcript inputs).map (Turn.applied? .reset) ∧
      ((∃ turn ∈ k.transcript inputs, (turn.applied? .reset).isSome) →
        (k.processAll inputs).region = (k'.processAll inputs).region) := by
  induction inputs generalizing k k' with
  | nil =>
    refine ⟨rfl, rfl, ?_⟩
    rintro ⟨turn, hturn, -⟩
    cases hturn
  | cons input rest ih =>
    obtain ⟨hreply, hreset, hnext⟩ := h.step input
    obtain ⟨hreplies, hresets, hend⟩ := ih hnext
    rw [transcript, transcript, List.map_cons, List.map_cons, List.map_cons, List.map_cons, hreply,
      hreset, hreplies, hresets, processAll_cons, processAll_cons]
    refine ⟨rfl, rfl, ?_⟩
    rintro ⟨turn, hturn, hsome⟩
    rcases List.mem_cons.mp hturn with rfl | hlater
    · rw [(h.step_of_reset hsome).2]
    · exact hend ⟨turn, hlater, hsome⟩

end Keeper

/-! ## 3. The law -/

/-- Of two keepers that differ only in that the region is absent in one and empty in the other,
every run gets the same replies, and resets are applied at the same inputs. The regions are equal
after a run exactly when a reset was applied in it. -/
theorem absent_and_empty_answer_alike (policy : Policy) (inbox : Inbox)
    (inputs : List (List UInt8)) :
    let absent : Keeper := ⟨policy, .absent, inbox⟩
    let empty : Keeper := ⟨policy, ⟨some []⟩, inbox⟩
    (absent.transcript inputs).map (fun turn => turn.outcome.reply) =
        (empty.transcript inputs).map (fun turn => turn.outcome.reply) ∧
      (absent.transcript inputs).map (Turn.applied? .reset) =
        (empty.transcript inputs).map (Turn.applied? .reset) ∧
      ((absent.processAll inputs).region = (empty.processAll inputs).region ↔
        ∃ turn ∈ absent.transcript inputs, (turn.applied? .reset).isSome) := by
  intro absent empty
  have halike : absent.AnswersLike empty := ⟨rfl, rfl, Region.sameBytes_absent_empty⟩
  obtain ⟨hreplies, hresets, hend⟩ := halike.run inputs
  refine ⟨hreplies, hresets, ?_, hend⟩
  intro hsame
  apply Classical.byContradiction
  intro hunreset
  have hnone : ∀ reset ∈ (absent.transcript inputs).map (Turn.applied? .reset), reset = none := by
    intro reset hmem
    obtain ⟨turn, hturn, rfl⟩ := List.mem_map.mp hmem
    exact Option.not_isSome_iff_eq_none.mp fun hsome => hunreset ⟨turn, hturn, hsome⟩
  -- without a reset each of them keeps the region that it started with
  have habsent : (absent.processAll inputs).region = .absent :=
    Keeper.region_of_unreset rfl fun turn hturn => hnone _ (List.mem_map_of_mem hturn)
  have hempty : (empty.processAll inputs).region = ⟨some []⟩ := by
    rw [hresets] at hnone
    exact Keeper.region_of_unreset rfl fun turn hturn => hnone _ (List.mem_map_of_mem hturn)
  rw [habsent, hempty] at hsame
  cases hsame

end BufferKeeper
