import BufferKeeper.Keeper

/-!
# What carrying out a packet does

A packet that is carried out has one of three effects, and every other packet leaves the region as
it was. `Effect` lists the three with the conditions that decide them, offsets and lengths taken as
natural numbers: a read or a write needs its range inside the stored bytes, a write needs its data,
and a reset needs the payload that it claims. What the policies check beyond that only decides how
a packet is refused, and `Policy.refusal` is the reason that it is given. Main statements:
`perform_eq_cases`, all that carrying out a packet can come to, and `perform_eq_applied_iff`, under
either policy a packet is applied exactly when it has an effect.
-/

namespace BufferKeeper

open Bytes Journal

/-! ## 1. A packet's range -/

namespace Packet

def offset (p : Packet) : Nat :=
  p.header.offset.toNat

def length (p : Packet) : Nat :=
  p.header.length.toNat

theorem length_take_payload {p : Packet} (h : p.length ≤ p.available) :
    (p.payload.take p.length).length = p.length := by
  rw [List.length_take]
  exact Nat.min_eq_left h

end Packet

/-! ## 2. The operations on stored bytes -/

variable {policy : Policy} {inbox : Inbox} {packet : Packet}

/-- How a read is refused whose range leaves the `stored` bytes. -/
def Policy.readRefusal (policy : Policy) (packet : Packet) (stored : Nat) : Refusal :=
  if policy.admitsRead packet.header.offset packet.header.length stored then
    .uncheckedAccess (.outOfBounds packet.offset packet.length stored)
  else
    .outOfBounds packet.offset packet.length stored

theorem readPacket_some (policy : Policy) (bytes : List UInt8) (packet : Packet) :
    readPacket policy ⟨some bytes⟩ packet.header =
      if packet.offset + packet.length ≤ bytes.length then
        { outcome := .applied (some (slice bytes packet.offset packet.length)),
          region := ⟨some bytes⟩, events := [] }
      else
        .refuse ⟨some bytes⟩ (policy.readRefusal packet bytes.length) := by
  unfold readPacket Policy.readRefusal Packet.offset Packet.length
  simp only [Region.isPresent, Region.size, Option.isSome_some, if_true, Region.read_some]
  by_cases hfit : packet.header.offset.toNat + packet.header.length.toNat ≤ bytes.length
  · rw [if_pos (Policy.admitsRead_of_le hfit), if_pos hfit, if_pos hfit]
  · rw [if_neg hfit, if_neg hfit]
    split <;> rfl

theorem writePacket_safe_some (bytes : List UInt8) (inbox : Inbox) (packet : Packet) :
    writePacket .safe ⟨some bytes⟩ inbox packet =
      if packet.length ≤ packet.available then
        if packet.offset + packet.length ≤ bytes.length then
          { outcome := .applied none,
            region := ⟨some (splice bytes packet.offset (packet.payload.take packet.length))⟩,
            events := [] }
        else
          .refuse ⟨some bytes⟩ (.outOfBounds packet.offset packet.length bytes.length)
      else
        .refuse ⟨some bytes⟩ (.payloadTooShort packet.length packet.available) := by
  unfold writePacket writeChecked Packet.offset Packet.length
  simp only [Region.isPresent, Region.size, Option.isSome_some, if_true, Region.write_some]
  by_cases henough : packet.header.length.toNat ≤ packet.available
  · have hdata : (packet.payload.take packet.header.length.toNat).length =
        packet.header.length.toNat := Packet.length_take_payload henough
    rw [if_pos henough, if_pos henough, hdata]
    by_cases hfit : packet.header.offset.toNat + packet.header.length.toNat ≤ bytes.length
    · rw [if_pos hfit, if_pos hfit]
    · rw [if_neg hfit, if_neg hfit]
  · rw [if_neg henough, if_neg henough]

theorem Inbox.source?_eq (inbox : Inbox) (length : Nat) :
    inbox.source? length =
      if headerSize + length ≤ maxPacketSize then some (slice inbox.bytes headerSize length)
      else none := by
  rw [source?, inbox.length_bytes]

theorem Inbox.length_slice_bytes (inbox : Inbox) {start count : Nat}
    (h : start + count ≤ maxPacketSize) : (slice inbox.bytes start count).length = count :=
  length_slice (by rw [inbox.length_bytes]; exact h)

theorem writePacket_vulnerable_some (bytes : List UInt8) (inbox : Inbox) (packet : Packet) :
    writePacket .vulnerable ⟨some bytes⟩ inbox packet =
      if packet.length ≤ bytes.length then
        if headerSize + packet.length ≤ maxPacketSize then
          if packet.offset + packet.length ≤ bytes.length then
            { outcome := .applied none,
              region :=
                ⟨some (splice bytes packet.offset (slice inbox.bytes headerSize packet.length))⟩,
              events := [] }
          else
            .refuse ⟨some bytes⟩
              (.uncheckedAccess (.outOfBounds packet.offset packet.length bytes.length))
        else
          .refuse ⟨some bytes⟩ (.payloadTooShort packet.length (maxPacketSize - headerSize))
      else
        .refuse ⟨some bytes⟩ (.outOfBounds packet.offset packet.length bytes.length) := by
  unfold writePacket writeUnchecked Packet.offset Packet.length
  simp only [Region.isPresent, Region.size, Option.isSome_some, if_true, Inbox.source?_eq,
    inbox.length_bytes]
  by_cases hlen : packet.header.length.toNat ≤ bytes.length
  · rw [if_pos hlen, if_pos hlen]
    by_cases hroom : headerSize + packet.header.length.toNat ≤ maxPacketSize
    · rw [if_pos hroom, if_pos hroom]
      dsimp only
      rw [Region.write_some, inbox.length_slice_bytes hroom]
      by_cases hfit : packet.header.offset.toNat + packet.header.length.toNat ≤ bytes.length
      · rw [if_pos hfit, if_pos hfit]
      · rw [if_neg hfit, if_neg hfit]
    · rw [if_neg hroom, if_neg hroom]
  · rw [if_neg hlen, if_neg hlen]

/-! ## 3. Effects -/

/-- The bytes that a write under the policy puts into the region; `none` when there are too few. -/
def Policy.writeData? (policy : Policy) (inbox : Inbox) (packet : Packet) : Option (List UInt8) :=
  match policy with
  | .safe =>
    if packet.length ≤ packet.available then some (packet.payload.take packet.length) else none
  | .vulnerable => inbox.source? packet.length

/-- `Effect policy inbox packet before response after`: carrying out the packet on the region
`before` answers `response` and leaves the region `after`. -/
inductive Effect (policy : Policy) (inbox : Inbox) (packet : Packet) :
    Region → Option (List UInt8) → Region → Prop where
  | read {bytes : List UInt8} (op : packet.header.opcode = .read)
      (fits : packet.offset + packet.length ≤ bytes.length) :
      Effect policy inbox packet ⟨some bytes⟩
        (some (slice bytes packet.offset packet.length)) ⟨some bytes⟩
  | write {bytes data : List UInt8} (op : packet.header.opcode = .write)
      (source : policy.writeData? inbox packet = some data)
      (fits : packet.offset + packet.length ≤ bytes.length) :
      Effect policy inbox packet ⟨some bytes⟩ none ⟨some (splice bytes packet.offset data)⟩
  | reset {before : Region} (op : packet.header.opcode = .reset)
      (enough : packet.length ≤ packet.available) :
      Effect policy inbox packet before none ⟨some (packet.payload.take packet.length)⟩

namespace Policy

theorem writeData?_safe_iff {data : List UInt8} :
    safe.writeData? inbox packet = some data ↔
      packet.length ≤ packet.available ∧ data = packet.payload.take packet.length := by
  change (if packet.length ≤ packet.available then _ else none) = some data ↔ _
  by_cases h : packet.length ≤ packet.available
  · simp [h, eq_comm]
  · simp [h]

theorem writeData?_vulnerable_iff {data : List UInt8} :
    vulnerable.writeData? inbox packet = some data ↔
      headerSize + packet.length ≤ maxPacketSize ∧
        data = slice inbox.bytes headerSize packet.length := by
  change inbox.source? packet.length = some data ↔ _
  rw [Inbox.source?_eq]
  by_cases h : headerSize + packet.length ≤ maxPacketSize
  · simp [h, eq_comm]
  · simp [h]

theorem length_writeData {data : List UInt8}
    (h : policy.writeData? inbox packet = some data) : data.length = packet.length := by
  cases policy with
  | safe =>
    obtain ⟨henough, rfl⟩ := writeData?_safe_iff.mp h
    exact Packet.length_take_payload henough
  | vulnerable =>
    obtain ⟨hroom, rfl⟩ := writeData?_vulnerable_iff.mp h
    exact inbox.length_slice_bytes hroom

end Policy

/-! ## 4. Applied packets are those with an effect -/

variable {region after : Region} {response : Option (List UInt8)}

theorem Effect.of_read (h : Effect policy inbox packet region response after)
    (op : packet.header.opcode = .read) :
    ∃ bytes, region = ⟨some bytes⟩ ∧ packet.offset + packet.length ≤ bytes.length ∧
      response = some (slice bytes packet.offset packet.length) ∧ after = ⟨some bytes⟩ := by
  cases h with
  | read _ fits => exact ⟨_, rfl, fits, rfl, rfl⟩
  | write op' _ _ => cases op'.symm.trans op
  | reset op' _ => cases op'.symm.trans op

theorem Effect.of_write (h : Effect policy inbox packet region response after)
    (op : packet.header.opcode = .write) :
    ∃ bytes data, region = ⟨some bytes⟩ ∧ policy.writeData? inbox packet = some data ∧
      packet.offset + packet.length ≤ bytes.length ∧ response = none ∧
        after = ⟨some (splice bytes packet.offset data)⟩ := by
  cases h with
  | read op' _ => cases op'.symm.trans op
  | write _ source fits => exact ⟨_, _, rfl, source, fits, rfl, rfl⟩
  | reset op' _ => cases op'.symm.trans op

theorem Effect.of_reset (h : Effect policy inbox packet region response after)
    (op : packet.header.opcode = .reset) :
    packet.length ≤ packet.available ∧ response = none ∧
      after = ⟨some (packet.payload.take packet.length)⟩ := by
  cases h with
  | read op' _ => cases op'.symm.trans op
  | write op' _ _ => cases op'.symm.trans op
  | reset _ enough => exact ⟨enough, rfl, rfl⟩

theorem Effect.opcode_cases (h : Effect policy inbox packet region response after) :
    packet.header.opcode = .read ∨ packet.header.opcode = .write ∨
      packet.header.opcode = .reset := by
  cases h with
  | read op _ => exact .inl op
  | write op _ _ => exact .inr (.inl op)
  | reset op _ => exact .inr (.inr op)

theorem Effect.fits {bytes : List UInt8} (h : Effect policy inbox packet ⟨some bytes⟩ response after)
    (op : packet.header.opcode ≠ .reset) : packet.offset + packet.length ≤ bytes.length := by
  cases h with
  | read _ fits => exact fits
  | write _ _ fits => exact fits
  | reset op' _ => exact absurd op' op

theorem Effect.perform (h : Effect policy inbox packet region response after) :
    (perform policy region inbox packet).outcome = .applied response ∧
      (perform policy region inbox packet).region = after := by
  unfold BufferKeeper.perform
  cases h with
  | read op fits =>
    rw [op]
    dsimp only
    rw [readPacket_some, if_pos fits]
    exact ⟨rfl, rfl⟩
  | write op source fits =>
    rw [op]
    dsimp only
    cases policy with
    | safe =>
      obtain ⟨henough, rfl⟩ := Policy.writeData?_safe_iff.mp source
      rw [writePacket_safe_some, if_pos henough, if_pos fits]
      exact ⟨rfl, rfl⟩
    | vulnerable =>
      -- the policy's own check of the length alone follows from the range fitting
      obtain ⟨hroom, rfl⟩ := Policy.writeData?_vulnerable_iff.mp source
      rw [writePacket_vulnerable_some, if_pos (by omega), if_pos hroom, if_pos fits]
      exact ⟨rfl, rfl⟩
  | reset op enough =>
    rw [op]
    dsimp only
    unfold resetPacket
    exact ⟨congrArg Handled.outcome (if_pos enough), congrArg Handled.region (if_pos enough)⟩

/-- What is reported of a packet that has its effect on `before`: resets announce the replacement and
then tell of it, with the size that was stored before. -/
def Packet.effectEvents (packet : Packet) (before : Region) : List Event :=
  if packet.header.opcode = .reset then
    [.replacing packet.length packet.available,
      .replaced (before.contents.map List.length) packet.length]
  else []

/-- How a write is refused that has no effect on `stored` bytes. -/
def Policy.writeRefusal (policy : Policy) (packet : Packet) (stored : Nat) : Refusal :=
  match policy with
  | .safe =>
    if packet.length ≤ packet.available then .outOfBounds packet.offset packet.length stored
    else .payloadTooShort packet.length packet.available
  | .vulnerable =>
    if packet.length ≤ stored then
      if headerSize + packet.length ≤ maxPacketSize then
        .uncheckedAccess (.outOfBounds packet.offset packet.length stored)
      else .payloadTooShort packet.length (maxPacketSize - headerSize)
    else .outOfBounds packet.offset packet.length stored

/-- Why a packet without an effect is refused. Of the region the reason tells no more than the size
that is stored, `none` where nothing is. -/
def Policy.refusal (policy : Policy) (packet : Packet) (stored : Option Nat) : Refusal :=
  match packet.header.opcode, stored with
  | .read, none => .regionAbsent
  | .read, some size => policy.readRefusal packet size
  | .write, none => .regionAbsent
  | .write, some size => policy.writeRefusal packet size
  | .reset, _ => .payloadTooShort packet.length packet.available
  | .unknown tag, _ => .unknownOpcode tag

-- All that carrying out a packet can come to.
theorem perform_eq_cases (policy : Policy) (region : Region) (inbox : Inbox) (packet : Packet) :
    (∃ response after, Effect policy inbox packet region response after ∧
        perform policy region inbox packet =
          ⟨.applied response, after, packet.effectEvents region⟩) ∨
      perform policy region inbox packet =
        .refuse region (policy.refusal packet (region.contents.map List.length)) := by
  unfold perform Packet.effectEvents Policy.refusal
  cases op : packet.header.opcode with
  | read =>
    rw [if_neg Opcode.noConfusion]
    dsimp only
    rcases region with ⟨_ | bytes⟩
    · exact .inr rfl
    · rw [readPacket_some]
      split
      · exact .inl ⟨_, _, .read op ‹_›, rfl⟩
      · exact .inr rfl
  | write =>
    rw [if_neg Opcode.noConfusion]
    dsimp only
    rcases region with ⟨_ | bytes⟩
    · exact .inr rfl
    · change _ ∨ _ = Handled.refuse _ (policy.writeRefusal packet bytes.length)
      unfold Policy.writeRefusal
      cases policy with
      | safe =>
        rw [writePacket_safe_some]
        split
        · split
          · exact .inl ⟨_, _, .write op (Policy.writeData?_safe_iff.mpr ⟨‹_›, rfl⟩) ‹_›, rfl⟩
          · exact .inr rfl
        · exact .inr rfl
      | vulnerable =>
        rw [writePacket_vulnerable_some]
        dsimp only
        split
        · split
          · split
            · exact .inl ⟨_, _, .write op (Policy.writeData?_vulnerable_iff.mpr ⟨‹_›, rfl⟩) ‹_›, rfl⟩
            · exact .inr rfl
          · exact .inr rfl
        · exact .inr rfl
  | reset =>
    rw [if_pos rfl]
    dsimp only
    unfold resetPacket
    dsimp only
    split
    · exact .inl ⟨_, _, .reset op ‹_›, rfl⟩
    · exact .inr rfl
  | unknown tag => exact .inr rfl

theorem perform_cases (policy : Policy) (region : Region) (inbox : Inbox) (packet : Packet) :
    (∃ response, (perform policy region inbox packet).outcome = .applied response ∧
        Effect policy inbox packet region response (perform policy region inbox packet).region) ∨
      ∃ reason, (perform policy region inbox packet).outcome = .refused reason ∧
        (perform policy region inbox packet).region = region := by
  rcases perform_eq_cases policy region inbox packet with ⟨response, after, heffect, hdone⟩ | hdone
  · rw [hdone]
    exact .inl ⟨response, rfl, heffect⟩
  · rw [hdone]
    exact .inr ⟨_, rfl, rfl⟩

theorem perform_eq_applied_iff :
    (perform policy region inbox packet).outcome = .applied response ∧
        (perform policy region inbox packet).region = after ↔
      Effect policy inbox packet region response after := by
  constructor
  · rintro ⟨hout, rfl⟩
    rcases perform_cases policy region inbox packet with ⟨response', hout', heffect⟩ | ⟨_, hout', -⟩
    · cases hout'.symm.trans hout
      exact heffect
    · cases hout'.symm.trans hout
  · exact Effect.perform

/-! ## 5. What is read of the inbox -/

/-- The inboxes hold the same bytes behind the place of a header. -/
def Inbox.SameBehind (inbox inbox' : Inbox) : Prop :=
  ∀ i, headerSize ≤ i → inbox.bytes[i]? = inbox'.bytes[i]?

theorem Inbox.SameBehind.source? {inbox inbox' : Inbox} (h : inbox.SameBehind inbox')
    (length : Nat) : inbox.source? length = inbox'.source? length := by
  have hslice : slice inbox.bytes headerSize length = slice inbox'.bytes headerSize length :=
    slice_congr fun i hlow _ => h i hlow
  rw [Inbox.source?_eq, Inbox.source?_eq, hslice]

-- Under `safe` nothing of the inbox matters, and under `vulnerable` only what is behind the header.
theorem perform_congr {inbox inbox' : Inbox} (policy : Policy) (region : Region) (packet : Packet)
    (h : policy = .vulnerable → inbox.SameBehind inbox') :
    perform policy region inbox packet = perform policy region inbox' packet := by
  cases policy with
  | safe => rfl
  | vulnerable =>
    unfold perform writePacket writeUnchecked
    simp only [(h rfl).source?, Inbox.length_bytes]

end BufferKeeper
