import BufferKeeper.Proofs.Codec
import BufferKeeper.Proofs.Effect

/-!
# Handling what was received

One receive of an input brings the packet that its first 4096 bytes are, whatever was in the inbox
before. `handled_cases` and `processed_cases` say what handling the inbox and processing an input
come to: either the packet has its effect, or the region stays and the outcome is not `applied`.
-/

namespace BufferKeeper

open Bytes

/-! ## 1. The packet of an input -/

namespace Packet

/-- The packet that one receive of `input` brings; what does not fit into the inbox is dropped. -/
def ofInput (input : List UInt8) : Except PacketError Packet :=
  decode (input.take maxPacketSize)

variable {input : List UInt8} {packet : Packet}

-- The header of an encoded packet always fits, and of its payload the first 4076 bytes do.
theorem ofInput_encode_cut (p : Packet) :
    ofInput p.encode =
      .ok { header := { p.header with opcode := p.header.opcode.normalize }
            payload := p.payload.take (maxPacketSize - headerSize) } := by
  have hheader : p.header.encode.length ≤ maxPacketSize := by
    rw [Header.length_encode]
    decide
  have hcut : p.encode.take maxPacketSize =
      encode ⟨p.header, p.payload.take (maxPacketSize - headerSize)⟩ := by
    rw [encode, encode, List.take_append, List.take_of_length_le hheader, Header.length_encode]
  rw [ofInput, hcut, decode_encode]

theorem ofInput_encode (hop : packet.header.opcode.normalize = packet.header.opcode)
    (hfit : headerSize + packet.payload.length ≤ maxPacketSize) :
    ofInput packet.encode = .ok packet := by
  rw [ofInput_encode_cut, hop, List.take_of_length_le (by omega)]

theorem payload_of_ofInput (h : ofInput input = .ok packet) :
    packet.payload = (input.take maxPacketSize).drop headerSize :=
  (payload_of_decode h).2

theorem available_of_ofInput (h : ofInput input = .ok packet) :
    packet.available = min input.length maxPacketSize - headerSize := by
  rw [available, payload_of_ofInput h, List.length_drop, List.length_take, Nat.min_comm]

theorem getElem?_payload_of_ofInput (h : ofInput input = .ok packet) {i : Nat}
    (hi : i < packet.available) : packet.payload[i]? = input[headerSize + i]? := by
  rw [available_of_ofInput h] at hi
  rw [payload_of_ofInput h, List.getElem?_drop, List.getElem?_take_of_lt (by omega)]

end Packet

/-! ## 2. Handling the inbox -/

theorem Outcome.response_of_not_applied {outcome : Outcome} (h : outcome.isApplied = false) :
    outcome.response = none := by
  cases outcome with
  | applied response => cases h
  | refused reason => rfl
  | malformed cause => rfl

theorem Outcome.exists_of_isApplied {outcome : Outcome} (h : outcome.isApplied) :
    ∃ response, outcome = .applied response := by
  cases outcome with
  | applied response => exact ⟨response, rfl⟩
  | refused reason => cases h
  | malformed cause => cases h

-- What a packet carries stands behind the header in the inbox that it was decoded from.
theorem Inbox.source_of_decode {inbox : Inbox} {packet : Packet} {n : Nat}
    (h : Packet.decode (inbox.front n) = .ok packet) (henough : packet.length ≤ packet.available) :
    headerSize + packet.length ≤ maxPacketSize ∧
      slice inbox.bytes headerSize packet.length = packet.payload.take packet.length := by
  obtain ⟨hheader, hpayload⟩ := Packet.payload_of_decode h
  have hlen := inbox.length_bytes
  unfold Packet.available at henough
  rw [hpayload] at henough ⊢
  simp only [front, List.length_take, List.length_drop] at hheader henough ⊢
  constructor
  · omega
  · rw [slice, List.drop_take, List.take_take, Nat.min_eq_left (by omega)]

theorem Policy.writeData?_of_decode (policy : Policy) {inbox : Inbox} {packet : Packet} {n : Nat}
    (h : Packet.decode (inbox.front n) = .ok packet) (henough : packet.length ≤ packet.available) :
    policy.writeData? inbox packet = some (packet.payload.take packet.length) := by
  obtain ⟨hroom, hsource⟩ := Inbox.source_of_decode h henough
  cases policy with
  | safe => exact Policy.writeData?_safe_iff.mpr ⟨henough, rfl⟩
  | vulnerable => exact Policy.writeData?_vulnerable_iff.mpr ⟨hroom, hsource.symm⟩

namespace Keeper

variable {k : Keeper} {n : Nat} {input : List UInt8} {packet : Packet}

theorem handled_of_decode (h : Packet.decode (k.inbox.front n) = .ok packet) :
    (k.handled n).outcome = (perform k.policy k.region k.inbox packet).outcome ∧
      (k.handled n).region = (perform k.policy k.region k.inbox packet).region := by
  unfold handled
  rw [h]
  exact ⟨rfl, rfl⟩

theorem handled_of_decode_error {cause : PacketError}
    (h : Packet.decode (k.inbox.front n) = .error cause) :
    (k.handled n).outcome = .malformed cause ∧ (k.handled n).region = k.region := by
  unfold handled
  rw [h]
  exact ⟨rfl, rfl⟩

theorem handled_cases (k : Keeper) (n : Nat) :
    (∃ packet response, Packet.decode (k.inbox.front n) = .ok packet ∧
        (k.handled n).outcome = .applied response ∧
        Effect k.policy k.inbox packet k.region response (k.handled n).region) ∨
      ((k.handled n).outcome.isApplied = false ∧ (k.handled n).region = k.region) := by
  cases h : Packet.decode (k.inbox.front n) with
  | error cause =>
    obtain ⟨hout, hregion⟩ := handled_of_decode_error h
    exact .inr ⟨by rw [hout]; rfl, hregion⟩
  | ok packet =>
    obtain ⟨hout, hregion⟩ := handled_of_decode h
    rw [hout, hregion]
    rcases perform_cases k.policy k.region k.inbox packet with
      ⟨response, happlied, heffect⟩ | ⟨reason, hrefused, hstays⟩
    · exact .inl ⟨packet, response, rfl, happlied, heffect⟩
    · exact .inr ⟨by rw [hrefused]; rfl, hstays⟩

/-! ## 3. Processing an input -/

theorem decode_received (k : Keeper) (input : List UInt8) :
    Packet.decode ((k.receive input).inbox.front (taken input)) = Packet.ofInput input := by
  show Packet.decode ((k.inbox.receive input).front (min input.length maxPacketSize)) = _
  rw [Inbox.front_receive]
  rfl

@[simp] theorem process_policy (k : Keeper) (input : List UInt8) :
    (k.process input).policy = k.policy := rfl

@[simp] theorem process_inbox (k : Keeper) (input : List UInt8) :
    (k.process input).inbox = k.inbox.receive input := rfl

theorem processed_of_ofInput (k : Keeper) (h : Packet.ofInput input = .ok packet) :
    (k.processed input).outcome =
        (perform k.policy k.region (k.inbox.receive input) packet).outcome ∧
      (k.process input).region =
        (perform k.policy k.region (k.inbox.receive input) packet).region :=
  handled_of_decode (k := k.receive input) ((k.decode_received input).trans h)

theorem processed_of_ofInput_error (k : Keeper) {cause : PacketError}
    (h : Packet.ofInput input = .error cause) :
    (k.processed input).outcome = .malformed cause ∧ (k.process input).region = k.region :=
  handled_of_decode_error (k := k.receive input) ((k.decode_received input).trans h)

theorem processed_eq_applied_iff (k : Keeper) (h : Packet.ofInput input = .ok packet)
    {response : Option (List UInt8)} {after : Region} :
    (k.processed input).outcome = .applied response ∧ (k.process input).region = after ↔
      Effect k.policy (k.inbox.receive input) packet k.region response after := by
  obtain ⟨hout, hafter⟩ := k.processed_of_ofInput h
  rw [hout, hafter]
  exact perform_eq_applied_iff

theorem processed_cases (k : Keeper) (input : List UInt8) :
    (∃ packet response, Packet.ofInput input = .ok packet ∧
        (k.processed input).outcome = .applied response ∧
        Effect k.policy (k.inbox.receive input) packet k.region response
          (k.process input).region) ∨
      ((k.processed input).outcome.isApplied = false ∧ (k.process input).region = k.region) := by
  have h := (k.receive input).handled_cases (taken input)
  rw [decode_received] at h
  exact h

-- A packet that was decoded is not malformed, so it has its effect or a reason to be refused.
theorem processed_cases_of_ofInput (k : Keeper) (h : Packet.ofInput input = .ok packet) :
    (∃ response, (k.processed input).outcome = .applied response ∧
        Effect k.policy (k.inbox.receive input) packet k.region response
          (k.process input).region) ∨
      ∃ reason, (k.processed input).outcome = .refused reason ∧
        (k.process input).region = k.region := by
  obtain ⟨hout, hafter⟩ := k.processed_of_ofInput h
  rw [hout, hafter]
  exact perform_cases k.policy k.region (k.inbox.receive input) packet

theorem effect_of_applied (h : Packet.ofInput input = .ok packet)
    (happlied : (k.processed input).outcome.isApplied) :
    ∃ response, (k.processed input).outcome = .applied response ∧
      Effect k.policy (k.inbox.receive input) packet k.region response
        (k.process input).region := by
  obtain ⟨response, hout⟩ := Outcome.exists_of_isApplied happlied
  exact ⟨response, hout, (k.processed_eq_applied_iff h).mp ⟨hout, rfl⟩⟩

/-! ## 4. Either way of bringing a packet -/

/-- Handling what is in the inbox, or processing an input, brings the keeper this packet and comes
to `done`. -/
def Handles (k : Keeper) (packet : Packet) (done : Handled) : Prop :=
  (∃ n, Packet.decode (k.inbox.front n) = .ok packet ∧ k.handled n = done) ∨
    ∃ input, Packet.ofInput input = .ok packet ∧ k.processed input = done

-- Both ways carry the packet out on the keeper's region, with an inbox that begins with it.
theorem Handles.perform {done : Handled} (h : k.Handles packet done) :
    ∃ inbox n, Packet.decode (inbox.front n) = .ok packet ∧
      done.outcome = (perform k.policy k.region inbox packet).outcome ∧
      done.region = (perform k.policy k.region inbox packet).region := by
  rcases h with ⟨n, hdecode, rfl⟩ | ⟨input, hinput, rfl⟩
  · exact ⟨k.inbox, n, hdecode, handled_of_decode hdecode⟩
  · exact ⟨(k.receive input).inbox, taken input, (k.decode_received input).trans hinput,
      k.processed_of_ofInput hinput⟩

end Keeper

end BufferKeeper
