import BufferKeeper.Proofs.Run

/-!
# Bytes left behind in the inbox

Every receive overwrites the front of the inbox and nothing else, so each byte of the inbox is the
one of the latest input that was long enough to reach it, or zero. Under `vulnerable` a write takes
its bytes from the inbox: a packet that carries fewer bytes than it claims is completed by bytes of
earlier inputs, whatever became of those, and by nothing else.
-/

namespace BufferKeeper

open Bytes

/-! ## 1. The latest input that reaches a position -/

/-- Byte `j` of the latest of the inputs that has one; 0 when none is that long. -/
def latestByte (inputs : List (List UInt8)) (j : Nat) : UInt8 :=
  (inputs.reverse.findSome? fun input => input[j]?).getD 0

@[simp] theorem latestByte_nil (j : Nat) : latestByte [] j = 0 := rfl

theorem latestByte_concat (inputs : List (List UInt8)) (input : List UInt8) (j : Nat) :
    latestByte (inputs ++ [input]) j = input[j]?.getD (latestByte inputs j) := by
  unfold latestByte
  rw [List.reverse_concat, List.findSome?_cons]
  cases input[j]? <;> rfl

theorem latestByte_concat_of_lt {inputs : List (List UInt8)} {input : List UInt8} {j : Nat}
    (h : j < input.length) : some (latestByte (inputs ++ [input]) j) = input[j]? := by
  rw [latestByte_concat, List.getElem?_eq_getElem h, Option.getD_some]

theorem latestByte_concat_of_le {inputs : List (List UInt8)} {input : List UInt8} {j : Nat}
    (h : input.length ≤ j) : latestByte (inputs ++ [input]) j = latestByte inputs j := by
  rw [latestByte_concat, List.getElem?_eq_none h, Option.getD_none]

theorem latestByte_cases (inputs : List (List UInt8)) (j : Nat) :
    (∃ input ∈ inputs, input[j]? = some (latestByte inputs j)) ∨
      ((∀ input ∈ inputs, input.length ≤ j) ∧ latestByte inputs j = 0) := by
  unfold latestByte
  cases h : inputs.reverse.findSome? fun input => input[j]? with
  | none =>
    refine .inr ⟨fun input hmem => ?_, rfl⟩
    exact List.getElem?_eq_none_iff.mp
      (List.findSome?_eq_none_iff.mp h input (List.mem_reverse.mpr hmem))
  | some b =>
    obtain ⟨input, hmem, hbyte⟩ := List.exists_of_findSome?_eq_some h
    exact .inl ⟨input, List.mem_reverse.mp hmem, hbyte⟩

/-! ## 2. What the inbox recalls -/

/-- Every byte of the inbox is the one of the latest input that reaches it. -/
def Inbox.Recalls (inbox : Inbox) (inputs : List (List UInt8)) : Prop :=
  ∀ j < maxPacketSize, inbox.bytes[j]? = some (latestByte inputs j)

theorem Inbox.recalls_zeros : zeros.Recalls [] := by
  intro j hj
  rw [latestByte_nil]
  exact List.getElem?_replicate_of_lt hj

theorem Inbox.Recalls.receive {inbox : Inbox} {inputs : List (List UInt8)}
    (h : inbox.Recalls inputs) (input : List UInt8) :
    (inbox.receive input).Recalls (inputs ++ [input]) := by
  intro j hj
  rw [getElem?_receive]
  by_cases hlen : j < input.length
  · rw [if_pos (by omega), latestByte_concat_of_lt hlen]
  · rw [if_neg (by omega), latestByte_concat_of_le (by omega)]
    exact h j hj

theorem Keeper.recalls_processAll {k : Keeper} {earlier : List (List UInt8)}
    (h : k.inbox.Recalls earlier) (inputs : List (List UInt8)) :
    (k.processAll inputs).inbox.Recalls (earlier ++ inputs) := by
  -- on the inputs; `earlier` are those that the inbox already recalls
  induction inputs generalizing k earlier with
  | nil =>
    rw [List.append_nil]
    exact h
  | cons input rest ih =>
    have hnext : (k.process input).inbox.Recalls (earlier ++ [input]) := by
      rw [process_inbox]
      exact h.receive input
    rw [processAll_cons, List.append_cons]
    exact ih hnext

theorem Keeper.recalls_fresh (policy : Policy) (inputs : List (List UInt8)) :
    ((fresh policy).processAll inputs).inbox.Recalls inputs :=
  recalls_processAll (k := fresh policy) Inbox.recalls_zeros inputs

/-! ## 3. The source of a write -/

theorem Inbox.Recalls.writeData {inbox : Inbox} {inputs : List (List UInt8)} {packet : Packet}
    {data : List UInt8} (h : inbox.Recalls inputs)
    (hdata : Policy.vulnerable.writeData? inbox packet = some data) {i : Nat}
    (hi : i < packet.length) : data[i]? = some (latestByte inputs (headerSize + i)) := by
  obtain ⟨hroom, rfl⟩ := Policy.writeData?_vulnerable_iff.mp hdata
  rw [getElem?_slice, if_pos hi]
  exact h _ (by omega)

-- Behind the packet's own payload, a source byte is one of an earlier input or zero.
theorem latestByte_behind_payload (inputs : List (List UInt8)) {input : List UInt8}
    {packet : Packet} (hpacket : Packet.ofInput input = .ok packet) {i : Nat}
    (hi : packet.available ≤ i) (hroom : headerSize + i < maxPacketSize) :
    (∃ earlier ∈ inputs,
        earlier[headerSize + i]? = some (latestByte (inputs ++ [input]) (headerSize + i))) ∨
      ((∀ earlier ∈ inputs, earlier.length ≤ headerSize + i) ∧
        latestByte (inputs ++ [input]) (headerSize + i) = 0) := by
  rw [Packet.available_of_ofInput hpacket] at hi
  rw [latestByte_concat_of_le (by omega)]
  exact latestByte_cases inputs (headerSize + i)

/-- A write that is applied under `vulnerable` puts into its range the bytes behind the header place
of the latest inputs that reach so far, its own first, and changes nothing else. As far as the
packet carries bytes these are its payload; the others are of earlier inputs, or zero. -/
theorem vulnerable_write_takes_latest_bytes (inputs : List (List UInt8)) (input : List UInt8)
    (packet : Packet) (hpacket : Packet.ofInput input = .ok packet)
    (op : packet.header.opcode = .write) :
    let k := (Keeper.fresh .vulnerable).processAll inputs
    (k.processed input).outcome.isApplied →
      ∃ before after, k.region.contents = some before ∧
        (k.process input).region.contents = some after ∧
        after.length = before.length ∧ packet.offset + packet.length ≤ before.length ∧
        (∀ i < packet.length,
          after[packet.offset + i]? = some (latestByte (inputs ++ [input]) (headerSize + i))) ∧
        (∀ j, ¬(packet.offset ≤ j ∧ j < packet.offset + packet.length) →
          after[j]? = before[j]?) ∧
        (∀ i < min packet.length packet.available,
          after[packet.offset + i]? = packet.payload[i]?) ∧
        (∀ i, packet.available ≤ i → i < packet.length →
          (∃ earlier ∈ inputs, headerSize + i < earlier.length ∧
            after[packet.offset + i]? = earlier[headerSize + i]?) ∨
          ((∀ earlier ∈ inputs, earlier.length ≤ headerSize + i) ∧
            after[packet.offset + i]? = some 0)) := by
  intro k happlied
  obtain ⟨response, -, heffect⟩ := Keeper.effect_of_applied hpacket happlied
  obtain ⟨before, data, hbefore, hdata, hfit, -, hafter⟩ := heffect.of_write op
  rw [Keeper.processAll_policy] at hdata
  have hlen : data.length = packet.length := Policy.length_writeData hdata
  have hroom := (Policy.writeData?_vulnerable_iff.mp hdata).1
  have hrecalls := (Keeper.recalls_fresh .vulnerable inputs).receive input
  -- inside the range, the new bytes are those of the source
  have hinside : ∀ i < packet.length, (splice before packet.offset data)[packet.offset + i]? =
      some (latestByte (inputs ++ [input]) (headerSize + i)) := by
    intro i hi
    rw [getElem?_splice (by omega), if_pos (by omega), Nat.add_sub_cancel_left]
    exact hrecalls.writeData hdata hi
  refine ⟨before, splice before packet.offset data, by rw [hbefore], by rw [hafter],
    length_splice (by omega), hfit, hinside, ?_, ?_, ?_⟩
  · intro j hj
    rw [getElem?_splice (by omega), if_neg (by omega)]
  -- the packet itself is the latest input for as far as it reaches
  · intro i hi
    have hown : headerSize + i < input.length := by
      have havailable := Packet.available_of_ofInput hpacket
      omega
    rw [hinside i (by omega), latestByte_concat_of_lt hown,
      Packet.getElem?_payload_of_ofInput hpacket (by omega)]
  -- behind its end, the latest input is an earlier one
  · intro i hi hclaimed
    rw [hinside i hclaimed]
    rcases latestByte_behind_payload inputs hpacket hi (by omega) with
      ⟨earlier, hmem, hbyte⟩ | ⟨hshort, hzero⟩
    · exact .inl ⟨earlier, hmem, (List.getElem?_eq_some_iff.mp hbyte).1, hbyte.symm⟩
    · exact .inr ⟨hshort, by rw [hzero]⟩

/-- Five bytes are stored, a packet of an unknown kind comes in between, and a write that carries
one byte claims four: its second and third byte are the unknown packet's, its fourth the reset's. -/
theorem stale_bytes_of_two_packets :
    let stored : Packet := ⟨⟨.reset, 0, 5⟩, [1, 2, 3, 4, 5]⟩
    let other : Packet := ⟨⟨.unknown 7, 0, 0⟩, [6, 7, 8]⟩
    let write : Packet := ⟨⟨.write, 1, 4⟩, [9]⟩
    let inputs := [stored.encode, other.encode]
    ∃ after, (((Keeper.fresh .vulnerable).processAll inputs).process
        write.encode).region.contents = some after ∧ after.length = 5 ∧
      after[0]? = some 1 ∧ after[1]? = some 9 ∧ after[2]? = some 7 ∧ after[3]? = some 8 ∧
      after[4]? = some 4 := by
  intro stored other write inputs
  let k := (Keeper.fresh .vulnerable).processAll inputs
  have hwrite : Packet.ofInput write.encode = .ok write := Packet.ofInput_encode rfl (by decide)
  have hregion : k.region = ⟨some [1, 2, 3, 4, 5]⟩ := by decide +kernel
  have happlied : (k.processed write.encode).outcome.isApplied := by decide +kernel
  obtain ⟨before, after, hbefore, hafter, hlen, -, hinside, houtside, -⟩ :=
    vulnerable_write_takes_latest_bytes inputs write.encode write hwrite rfl happlied
  cases hbefore.symm.trans (congrArg Region.contents hregion)
  have hlatest : (List.range 4).map (fun i =>
      latestByte (inputs ++ [write.encode]) (headerSize + i)) = [9, 7, 8, 4] := by
    decide +kernel
  injection hlatest with h0 hlatest
  injection hlatest with h1 hlatest
  injection hlatest with h2 hlatest
  injection hlatest with h3 _
  refine ⟨after, hafter, hlen, houtside 0 (by decide), ?_, ?_, ?_, ?_⟩
  · rw [← h0]
    exact hinside 0 (by decide)
  · rw [← h1]
    exact hinside 1 (by decide)
  · rw [← h2]
    exact hinside 2 (by decide)
  · rw [← h3]
    exact hinside 3 (by decide)

end BufferKeeper
