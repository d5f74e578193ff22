import BufferKeeper.Proofs.Admission
import BufferKeeper.Proofs.Thinning

/-!
# Inputs cut short

An input may arrive only in part, and nothing reassembles it. Under `safe` the part then does all
that the whole input would have done, or nothing: a write or a reset that lost bytes which it claims is
refused for want of payload, and a part without a whole header is no packet.
-/

namespace BufferKeeper

/-! ## 1. Packets with more payload -/

namespace Packet

def extend (packet : Packet) (more : List UInt8) : Packet :=
  { packet with payload := packet.payload ++ more }

variable {packet : Packet}

theorem encode_extend (packet : Packet) (more : List UInt8) :
    (packet.extend more).encode = packet.encode ++ more := by
  simp only [extend, encode, List.append_assoc]

theorem available_le_extend (packet : Packet) (more : List UInt8) :
    packet.available ≤ (packet.extend more).available := by
  change packet.payload.length ≤ (packet.payload ++ more).length
  rw [List.length_append]
  exact Nat.le_add_right _ _

-- Bytes behind a claimed payload are not part of it.
theorem take_payload_extend (h : packet.length ≤ packet.available) (more : List UInt8) :
    (packet.extend more).payload.take packet.length = packet.payload.take packet.length :=
  List.take_append_of_le_length h

theorem decode_append {input : List UInt8} (h : decode input = .ok packet) (more : List UInt8) :
    decode (input ++ more) = .ok (packet.extend more) := by
  obtain ⟨rfl, hnormal⟩ := decode_eq_ok_iff.mp h
  rw [← encode_extend]
  exact decode_encode_of_normal hnormal

theorem ofInput_append {input : List UInt8} (h : ofInput input = .ok packet)
    (more : List UInt8) :
    ofInput (input ++ more) = .ok (packet.extend (more.take (maxPacketSize - input.length))) := by
  rw [ofInput, List.take_append]
  exact decode_append h _

end Packet

/-! ## 2. Carrying out a part -/

variable {packet : Packet}

theorem resetPacket_of_short (region : Region) (h : packet.available < packet.length) :
    resetPacket region packet =
      .refuse region (.payloadTooShort packet.length packet.available) :=
  if_neg (Nat.not_le.mpr h)

theorem resetPacket_extend (region : Region) (h : packet.length ≤ packet.available)
    (more : List UInt8) :
    (resetPacket region packet).outcome = (resetPacket region (packet.extend more)).outcome ∧
      (resetPacket region packet).region = (resetPacket region (packet.extend more)).region := by
  have hmore := packet.available_le_extend more
  have hwhole : (packet.extend more).length ≤ (packet.extend more).available := by
    change packet.length ≤ _
    omega
  have hdata := Packet.take_payload_extend h more
  unfold Packet.length at h hwhole hdata
  unfold resetPacket
  simp only [if_pos h, if_pos hwhole]
  exact ⟨trivial, congrArg region.replace hdata.symm⟩

theorem writePacket_extend (region : Region) (inbox inbox' : Inbox)
    (h : packet.length ≤ packet.available) (more : List UInt8) :
    writePacket .safe region inbox packet =
      writePacket .safe region inbox' (packet.extend more) := by
  rcases region with ⟨_ | bytes⟩
  · rfl
  · have hmore := packet.available_le_extend more
    have hwhole : (packet.extend more).length ≤ (packet.extend more).available := by
      change packet.length ≤ _
      omega
    rw [writePacket_safe_some, writePacket_safe_some, if_pos h, if_pos hwhole]
    change (if packet.offset + packet.length ≤ bytes.length then _ else _) =
      if packet.offset + packet.length ≤ bytes.length then _ else _
    rw [← Packet.take_payload_extend h more]
    rfl

-- The part does what the whole packet does, unless it lacks bytes that it claims.
theorem perform_safe_extend (region : Region) (inbox inbox' : Inbox)
    (h : packet.length ≤ packet.available) (more : List UInt8) :
    (perform .safe region inbox packet).outcome =
        (perform .safe region inbox' (packet.extend more)).outcome ∧
      (perform .safe region inbox packet).region =
        (perform .safe region inbox' (packet.extend more)).region := by
  unfold perform
  have op' : (packet.extend more).header.opcode = packet.header.opcode := rfl
  rw [op']
  cases packet.header.opcode with
  | read => exact ⟨rfl, rfl⟩
  | write =>
    dsimp only
    rw [writePacket_extend region inbox inbox' h more]
    exact ⟨rfl, rfl⟩
  | reset => exact resetPacket_extend region h more
  | unknown tag => exact ⟨rfl, rfl⟩

-- A part that lacks claimed bytes is refused for that, or for what the whole packet is refused too.
theorem perform_safe_of_short (region : Region) (inbox inbox' : Inbox)
    (h : packet.available < packet.length) (more : List UInt8) :
    perform .safe region inbox packet = perform .safe region inbox' (packet.extend more) ∨
      perform .safe region inbox packet =
        .refuse region (.payloadTooShort packet.length packet.available) := by
  unfold perform
  have op' : (packet.extend more).header.opcode = packet.header.opcode := rfl
  rw [op']
  cases packet.header.opcode with
  | read => exact .inl rfl
  | write =>
    rcases region with ⟨_ | bytes⟩
    · exact .inl rfl
    · dsimp only
      rw [writePacket_safe_some, if_neg (Nat.not_le.mpr h)]
      exact .inr rfl
  | reset => exact .inr (resetPacket_of_short region h)
  | unknown tag => exact .inl rfl

/-! ## 3. The law -/

namespace Keeper

/-- Both inputs have the same outcome with the keeper and leave the same region. -/
def SameOn (k : Keeper) (input input' : List UInt8) : Prop :=
  (k.processed input).outcome = (k.processed input').outcome ∧
    (k.process input).region = (k.process input').region

variable {k : Keeper} {input input' : List UInt8} {packet' : Packet}

-- What was in the inbox before plays no part under `safe`, so that any inboxes will do.
theorem sameOn_of_perform (hsafe : k.policy = .safe) (h : Packet.ofInput input = .ok packet)
    (h' : Packet.ofInput input' = .ok packet')
    (hsame : ∀ inbox inbox', (perform .safe k.region inbox packet).outcome =
        (perform .safe k.region inbox' packet').outcome ∧
      (perform .safe k.region inbox packet).region =
        (perform .safe k.region inbox' packet').region) :
    k.SameOn input input' := by
  have hdone := k.processed_of_ofInput h
  have hdone' := k.processed_of_ofInput h'
  unfold SameOn
  rw [hdone.1, hdone.2, hdone'.1, hdone'.2, hsafe]
  exact hsame _ _

theorem sameOn_of_enough (hsafe : k.policy = .safe) (h : Packet.ofInput input = .ok packet)
    (henough : packet.length ≤ packet.available) (more : List UInt8) :
    k.SameOn input (input ++ more) := by
  apply sameOn_of_perform hsafe h (Packet.ofInput_append h more)
  intro inbox inbox'
  exact perform_safe_extend k.region inbox inbox' henough _

theorem sameOn_or_refused_of_short (hsafe : k.policy = .safe)
    (h : Packet.ofInput input = .ok packet) (hshort : packet.available < packet.length)
    (more : List UInt8) :
    k.SameOn input (input ++ more) ∨
      (k.processed input).outcome =
          .refused (.payloadTooShort packet.length packet.available) ∧
        (k.process input).region = k.region := by
  obtain ⟨hout, hafter⟩ := k.processed_of_ofInput h
  obtain ⟨hout', hafter'⟩ := k.processed_of_ofInput (Packet.ofInput_append h more)
  unfold SameOn
  rw [hout, hafter, hout', hafter', hsafe]
  rcases perform_safe_of_short k.region (k.inbox.receive input) (k.inbox.receive (input ++ more))
    hshort (more.take (maxPacketSize - input.length)) with hsame | hrefused
  · rw [hsame]
    exact .inl ⟨rfl, rfl⟩
  · rw [hrefused]
    exact .inr ⟨rfl, rfl⟩

-- Nothing behind the claimed payload matters, and neither does what one receive cannot take in.
theorem sameOn_of_payload (hsafe : k.policy = .safe) (h : Packet.ofInput input = .ok packet)
    (hpayload : headerSize + packet.length ≤ input.length) (more : List UInt8) :
    k.SameOn input (input ++ more) := by
  by_cases hfull : maxPacketSize ≤ input.length
  · have hcut : Packet.ofInput (input ++ more) = Packet.ofInput input := by
      rw [Packet.ofInput, Packet.ofInput, List.take_append_of_le_length hfull]
    apply sameOn_of_perform hsafe h (hcut.trans h)
    intro inbox inbox'
    exact ⟨rfl, rfl⟩
  · have havailable := Packet.available_of_ofInput h
    exact sameOn_of_enough hsafe h (by omega) more

end Keeper

/-- Under `safe`, a part of an input that is cut off anywhere behind its start comes to one of three
things. Without a whole header it is malformed. Otherwise it has the header of the whole input, and
either the outcome and the effect of it, or it is refused because of the payload that it lacks, and
the region stays. Where all of the claimed payload has arrived, the rest makes no difference. -/
theorem cut_input_is_done_whole_or_not_at_all {k : Keeper} (hsafe : k.policy = .safe)
    {part whole : List UInt8} (hcut : part <+: whole) :
    (part.length < headerSize →
      (k.processed part).outcome = .malformed (.tooShort part.length) ∧
        (k.process part).region = k.region) ∧
    (headerSize ≤ part.length →
      ∃ packet more, Packet.ofInput part = .ok packet ∧
        Packet.ofInput whole = .ok (packet.extend more) ∧
        (k.SameOn part whole ∨
          (k.processed part).outcome = .refused
              (.payloadTooShort packet.length (min part.length maxPacketSize - headerSize)) ∧
            (k.process part).region = k.region) ∧
        (headerSize + packet.length ≤ part.length → k.SameOn part whole)) := by
  obtain ⟨more, rfl⟩ := hcut
  constructor
  · intro hshort
    exact k.processed_of_ofInput_error (Packet.ofInput_of_short hshort)
  · intro hheader
    have hroom : headerSize ≤ maxPacketSize := by decide
    obtain ⟨packet, hpacket, havailable⟩ := Packet.exists_ofInput (Nat.le_min.mpr ⟨hheader, hroom⟩)
    change packet.available = min part.length maxPacketSize - headerSize at havailable
    refine ⟨packet, _, hpacket, Packet.ofInput_append hpacket more, ?_, ?_⟩
    · rw [← havailable]
      by_cases henough : packet.length ≤ packet.available
      · exact .inl (Keeper.sameOn_of_enough hsafe hpacket henough more)
      · exact Keeper.sameOn_or_refused_of_short hsafe hpacket (Nat.lt_of_not_le henough) more
    · intro hpayload
      exact Keeper.sameOn_of_payload hsafe hpacket hpayload more

/-- Five bytes are stored, and a write of three bytes arrives with a byte too many. Cut off in the
header it is no packet, cut off in the payload it is refused, and without the byte that is too many
it is written. -/
theorem write_cut_at_three_places :
    let whole : Packet := ⟨⟨.write, 1, 3⟩, [7, 8, 9, 0]⟩
    let lacking : Packet := ⟨⟨.write, 1, 3⟩, [7, 8]⟩
    let complete : Packet := ⟨⟨.write, 1, 3⟩, [7, 8, 9]⟩
    let k : Keeper := ⟨.safe, ⟨some [1, 2, 3, 4, 5]⟩, .zeros⟩
    (k.processed (whole.encode.take 19)).outcome = .malformed (.tooShort 19) ∧
      ((k.processed lacking.encode).outcome = .refused (.payloadTooShort 3 2) ∧
        (k.process lacking.encode).region = k.region) ∧
      k.SameOn complete.encode whole.encode ∧
      (k.process whole.encode).region = ⟨some [1, 7, 8, 9, 5]⟩ := by
  intro whole lacking complete k
  have hsafe : k.policy = .safe := rfl
  have hlacking : Packet.ofInput lacking.encode = .ok lacking :=
    Packet.ofInput_encode rfl (by decide)
  have hcomplete : Packet.ofInput complete.encode = .ok complete :=
    Packet.ofInput_encode rfl (by decide)
  refine ⟨?_, ?_, ?_, by decide +kernel⟩
  · exact ((cut_input_is_done_whole_or_not_at_all hsafe (List.take_prefix 19 _)).1 (by decide)).1
  · have hcut : lacking.encode <+: whole.encode := by decide +kernel
    obtain ⟨packet, more, hpacket, -, hone, -⟩ :=
      (cut_input_is_done_whole_or_not_at_all hsafe hcut).2 (by decide)
    cases hpacket.symm.trans hlacking
    rcases hone with ⟨hsame, -⟩ | hrefused
    · -- the whole write is applied, and the part of it is not
      have happlied : (k.processed whole.encode).outcome.isApplied := by decide +kernel
      have hnot : (k.processed lacking.encode).outcome.isApplied = false := by decide +kernel
      rw [← hsame, hnot] at happlied
      cases happlied
    · exact hrefused
  · have hcut : complete.encode <+: whole.encode := by decide +kernel
    obtain ⟨packet, more, hpacket, -, -, hpayload⟩ :=
      (cut_input_is_done_whole_or_not_at_all hsafe hcut).2 (by decide)
    cases hpacket.symm.trans hcomplete
    exact hpayload (by decide)

end BufferKeeper
