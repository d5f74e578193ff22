import BufferKeeper.Proofs.Capacity

/-!
# Which packets are applied

The two policies check offsets and lengths in different places and with different arithmetic: on
unbounded sums, on sums that wrap around, on the length alone, and once more at the region. All of it
comes to one condition on natural numbers. Under `vulnerable` nothing asks whether a write carries
what it claims, and nothing has to: its range fits into the region, which is never larger than the
part of the inbox behind a header.
-/

namespace BufferKeeper

/-! ## 1. The condition -/

/-- Whether the policy has the packet applied to the region: the range of a read or a write lies
inside what is stored, and a reset, or a write under `safe`, carries what it claims. -/
def Policy.Admits (policy : Policy) (region : Region) (packet : Packet) : Prop :=
  (packet.header.opcode = .read ∧ region.isPresent ∧
      packet.offset + packet.length ≤ region.size) ∨
    (packet.header.opcode = .write ∧ region.isPresent ∧
      packet.offset + packet.length ≤ region.size ∧
      (policy = .safe → packet.length ≤ packet.available)) ∨
    (packet.header.opcode = .reset ∧ packet.length ≤ packet.available)

instance (policy : Policy) (region : Region) (packet : Packet) :
    Decidable (policy.Admits region packet) :=
  inferInstanceAs (Decidable (_ ∨ _ ∨ _))

variable {policy : Policy} {region after : Region} {inbox : Inbox} {packet : Packet}
  {response : Option (List UInt8)}

theorem Policy.not_admits_of_unknown {tag : UInt32} (op : packet.header.opcode = .unknown tag) :
    ¬policy.Admits region packet := by
  unfold Admits
  rw [op]
  rintro (⟨⟨⟩, -⟩ | ⟨⟨⟩, -⟩ | ⟨⟨⟩, -⟩)

/-! ## 2. Effects and admission -/

theorem Effect.admits (h : Effect policy inbox packet region response after) :
    policy.Admits region packet := by
  cases h with
  | read op fits => exact .inl ⟨op, rfl, fits⟩
  | write op source fits =>
    refine .inr (.inl ⟨op, rfl, fits, ?_⟩)
    rintro rfl
    exact (Policy.writeData?_safe_iff.mp source).1
  | reset op enough => exact .inr (.inr ⟨op, enough⟩)

theorem Policy.exists_writeData (inbox : Inbox)
    (hsafe : policy = .safe → packet.length ≤ packet.available)
    (hroom : headerSize + packet.length ≤ maxPacketSize) :
    ∃ data, policy.writeData? inbox packet = some data := by
  cases policy with
  | safe => exact ⟨_, writeData?_safe_iff.mpr ⟨hsafe rfl, rfl⟩⟩
  | vulnerable => exact ⟨_, writeData?_vulnerable_iff.mpr ⟨hroom, rfl⟩⟩

theorem Policy.Admits.exists_effect (h : policy.Admits region packet) (hbound : region.Bounded)
    (inbox : Inbox) : ∃ response after, Effect policy inbox packet region response after := by
  rcases region with ⟨_ | bytes⟩
  · -- only a reset is admitted where nothing is stored
    rcases h with ⟨-, ⟨⟩, -⟩ | ⟨-, ⟨⟩, -⟩ | ⟨op, henough⟩
    exact ⟨_, _, .reset op henough⟩
  · rcases h with ⟨op, -, hfit⟩ | ⟨op, -, hfit, hsafe⟩ | ⟨op, henough⟩
    · exact ⟨_, _, .read op hfit⟩
    · have hlen : bytes.length ≤ capacity := hbound bytes rfl
      have hsum := headerSize_add_capacity
      change packet.offset + packet.length ≤ bytes.length at hfit
      obtain ⟨data, hdata⟩ := exists_writeData inbox hsafe (by omega)
      exact ⟨_, _, .write op hdata hfit⟩
    · exact ⟨_, _, .reset op henough⟩

theorem Keeper.isApplied_processed_iff {k : Keeper} {input : List UInt8}
    (hpacket : Packet.ofInput input = .ok packet) (hbound : k.region.Bounded) :
    (k.processed input).outcome.isApplied ↔ k.policy.Admits k.region packet := by
  constructor
  · intro happlied
    obtain ⟨response, -, heffect⟩ := effect_of_applied hpacket happlied
    exact heffect.admits
  · intro hadmits
    obtain ⟨response, after, heffect⟩ := hadmits.exists_effect hbound (k.inbox.receive input)
    rw [((k.processed_eq_applied_iff hpacket).mpr heffect).1]
    rfl

/-! ## 3. The law -/

theorem Packet.exists_ofInput {input : List UInt8} (h : headerSize ≤ Keeper.taken input) :
    ∃ packet, ofInput input = .ok packet ∧
      packet.available = Keeper.taken input - headerSize := by
  have hlen : headerSize ≤ (input.take maxPacketSize).length := by
    rw [List.length_take, Nat.min_comm]
    exact h
  obtain ⟨packet, hpacket⟩ := exists_decode_eq_ok hlen
  exact ⟨packet, hpacket, available_of_ofInput hpacket⟩

/-- A reachable keeper under either policy applies an input that holds a header exactly when its
packet is admitted, all sums taken as natural numbers; what is available to the packet is what one
receive takes in behind the header. No packet of an unknown kind is applied. -/
theorem Keeper.Reachable.admission_is_exact {k : Keeper} (hk : k.Reachable) (input : List UInt8)
    (hheader : headerSize ≤ taken input) :
    ∃ packet, Packet.ofInput input = .ok packet ∧
      packet.available = taken input - headerSize ∧
      ((k.processed input).outcome.isApplied ↔ k.policy.Admits k.region packet) ∧
      ∀ tag, packet.header.opcode = .unknown tag →
        (k.processed input).outcome.isApplied = false := by
  obtain ⟨packet, hpacket, havailable⟩ := Packet.exists_ofInput hheader
  have hiff := isApplied_processed_iff hpacket hk.bounded
  refine ⟨packet, hpacket, havailable, hiff, fun tag op => ?_⟩
  exact Bool.eq_false_iff.mpr fun happlied => Policy.not_admits_of_unknown op (hiff.mp happlied)

/-- Five bytes are stored. A write that ends with the region and carries one byte of three is applied
under `vulnerable` alone; one byte further, and where the sum of offset and length wraps around to
one, nothing is applied. -/
theorem admission_at_the_edges :
    let stored : Packet := ⟨⟨.reset, 0, 5⟩, [1, 2, 3, 4, 5]⟩
    let inside : Packet := ⟨⟨.write, 2, 3⟩, [9]⟩
    let outside : Packet := ⟨⟨.write, 3, 3⟩, [9, 9, 9]⟩
    let wrapping : Packet := ⟨⟨.read, 18446744073709551615, 2⟩, []⟩
    let s := (Keeper.fresh .safe).processAll [stored.encode]
    let v := (Keeper.fresh .vulnerable).processAll [stored.encode]
    (v.processed inside.encode).outcome.isApplied ∧
      ¬(s.processed inside.encode).outcome.isApplied ∧
      ¬(v.processed outside.encode).outcome.isApplied ∧
      ¬(v.processed wrapping.encode).outcome.isApplied := by
  intro stored inside outside wrapping s v
  have hs : s.Reachable := Keeper.reachable_processAll _ _
  have hv : v.Reachable := Keeper.reachable_processAll _ _
  have hexact : ∀ (k : Keeper), k.Reachable → ∀ packet : Packet,
      Packet.ofInput packet.encode = .ok packet → headerSize ≤ Keeper.taken packet.encode →
      ((k.processed packet.encode).outcome.isApplied ↔ k.policy.Admits k.region packet) := by
    intro k hk packet hpacket hheader
    obtain ⟨packet', hpacket', -, hiff, -⟩ := hk.admission_is_exact packet.encode hheader
    cases hpacket'.symm.trans hpacket
    exact hiff
  have hinside : Packet.ofInput inside.encode = .ok inside := Packet.ofInput_encode rfl (by decide)
  have houtside : Packet.ofInput outside.encode = .ok outside :=
    Packet.ofInput_encode rfl (by decide)
  have hwrapping : Packet.ofInput wrapping.encode = .ok wrapping :=
    Packet.ofInput_encode rfl (by decide)
  refine ⟨?_, ?_, ?_, ?_⟩
  · exact (hexact v hv inside hinside (by decide)).mpr (by decide +kernel)
  · exact mt (hexact s hs inside hinside (by decide)).mp (by decide +kernel)
  · exact mt (hexact v hv outside houtside (by decide)).mp (by decide +kernel)
  · exact mt (hexact v hv wrapping hwrapping (by decide)).mp (by decide +kernel)

end BufferKeeper
