import Mathlib.Algebra.Group.Nat.Defs
import BufferKeeper.Proofs.Admission

/-!
# Refusals tell the truth

The numbers in a refusal come from several places: the policy's check, the region's own check behind
it, the payload that was received. Whatever place they come from, they are the numbers of the packet
and the size of the region, and what they say is so. The one thing that `vulnerable` lets through to
the region is a read whose end wraps around to a position inside, or a write that is no longer than
the region but does not fit where it is to go.
-/

namespace BufferKeeper

/-! ## 1. What refusals say -/

/-- The numbers are the packet's range and the size of what is stored, and the range leaves it. -/
def Packet.RunsOut (packet : Packet) (region : Region) (offset length stored : Nat) : Prop :=
  offset = packet.offset ∧ length = packet.length ∧ region.isPresent ∧ stored = region.size ∧
    stored < offset + length

/-- What the refusal says is so of the packet and the region, and of what the policy checks. -/
def Refusal.Truthful (reason : Refusal) (policy : Policy) (region : Region) (packet : Packet) :
    Prop :=
  match reason with
  | .regionAbsent => region.isPresent = false
  | .outOfBounds offset length stored => packet.RunsOut region offset length stored
  | .payloadTooShort claimed available =>
    claimed = packet.length ∧ available = packet.available ∧ available < claimed
  | .unknownOpcode tag => packet.header.opcode = .unknown tag
  | .uncheckedAccess (.outOfBounds offset length stored) =>
    policy = .vulnerable ∧ packet.RunsOut region offset length stored
  | .uncheckedAccess .absent => False

/-- The packet's range leaves the `stored` bytes in a way that `vulnerable` does not check. -/
def Packet.SlipsPast (packet : Packet) (stored : Nat) : Prop :=
  (packet.header.opcode = .read ∧ 2 ^ 64 ≤ packet.offset + packet.length ∧
      packet.offset + packet.length - 2 ^ 64 ≤ stored) ∨
    (packet.header.opcode = .write ∧ packet.length ≤ stored ∧
      stored < packet.offset + packet.length)

instance (packet : Packet) (stored : Nat) : Decidable (packet.SlipsPast stored) :=
  inferInstanceAs (Decidable (_ ∨ _))

variable {policy : Policy} {region : Region} {packet : Packet}

/-! ## 2. Reads and writes of a present region -/

-- Where the sum does not fit, it passes the wrapping check only by wrapping around to a small one.
theorem Policy.admitsRead_vulnerable_iff {stored : Nat}
    (h : stored < packet.offset + packet.length) :
    vulnerable.admitsRead packet.header.offset packet.header.length stored ↔
      2 ^ 64 ≤ packet.offset + packet.length ∧
        packet.offset + packet.length - 2 ^ 64 ≤ stored := by
  have hoffset : packet.offset < 2 ^ 64 := packet.header.offset.toNat_lt
  have hlength : packet.length < 2 ^ 64 := packet.header.length.toNat_lt
  have hsum : (packet.header.offset + packet.header.length).toNat =
      (packet.offset + packet.length) % 2 ^ 64 := UInt64.toNat_add _ _
  simp only [admitsRead, decide_eq_true_eq, hsum]
  omega

theorem Policy.readRefusal_truthful {bytes : List UInt8}
    (h : bytes.length < packet.offset + packet.length) :
    (policy.readRefusal packet bytes.length).Truthful policy ⟨some bytes⟩ packet := by
  have hout : packet.RunsOut ⟨some bytes⟩ packet.offset packet.length bytes.length :=
    ⟨rfl, rfl, rfl, rfl, h⟩
  unfold readRefusal
  split
  · cases policy with
    | safe =>
      rename_i hadmits
      have hfit : packet.offset + packet.length ≤ bytes.length := admitsRead_safe_iff.mp hadmits
      omega
    | vulnerable => exact ⟨rfl, hout⟩
  · exact hout

theorem Policy.writeRefusal_truthful {bytes : List UInt8} (hbound : bytes.length ≤ capacity)
    (h : (policy = .safe → packet.length ≤ packet.available) →
      bytes.length < packet.offset + packet.length) :
    (policy.writeRefusal packet bytes.length).Truthful policy ⟨some bytes⟩ packet := by
  cases policy with
  | safe =>
    unfold writeRefusal
    dsimp only
    split
    · exact ⟨rfl, rfl, rfl, rfl, h fun _ => ‹_›⟩
    · exact ⟨rfl, rfl, Nat.lt_of_not_le ‹_›⟩
  | vulnerable =>
    have hout : packet.RunsOut ⟨some bytes⟩ packet.offset packet.length bytes.length :=
      ⟨rfl, rfl, rfl, rfl, h nofun⟩
    rw [writeRefusal_vulnerable packet hbound]
    split
    · exact ⟨rfl, hout⟩
    · exact hout

theorem Policy.readRefusal_eq_unchecked_iff {stored : Nat} (op : packet.header.opcode = .read)
    (h : stored < packet.offset + packet.length) :
    (∃ cause, policy.readRefusal packet stored = .uncheckedAccess cause) ↔
      policy = .vulnerable ∧ packet.SlipsPast stored := by
  have hslips : packet.SlipsPast stored ↔
      vulnerable.admitsRead packet.header.offset packet.header.length stored := by
    rw [admitsRead_vulnerable_iff h]
    simp [Packet.SlipsPast, op]
  rw [hslips]
  unfold readRefusal
  cases policy with
  | safe =>
    have hnot : ¬safe.admitsRead packet.header.offset packet.header.length stored :=
      mt admitsRead_safe_iff.mp (Nat.not_le.mpr h)
    simp [hnot]
  | vulnerable =>
    split
    · simp_all
    · simp_all

theorem Policy.writeRefusal_eq_unchecked_iff {stored : Nat} (op : packet.header.opcode = .write)
    (hbound : stored ≤ capacity)
    (h : policy = .vulnerable → stored < packet.offset + packet.length) :
    (∃ cause, policy.writeRefusal packet stored = .uncheckedAccess cause) ↔
      policy = .vulnerable ∧ packet.SlipsPast stored := by
  cases policy with
  | safe =>
    unfold writeRefusal
    dsimp only
    split <;> simp
  | vulnerable =>
    rw [writeRefusal_vulnerable packet hbound]
    by_cases hlen : packet.length ≤ stored
    · rw [if_pos hlen]
      simp [Packet.SlipsPast, op, hlen, h rfl]
    · rw [if_neg hlen]
      simp [Packet.SlipsPast, op, hlen]

/-! ## 3. What is refused, and why -/

theorem Policy.runs_out_of_read {bytes : List UInt8} (op : packet.header.opcode = .read)
    (h : ¬policy.Admits ⟨some bytes⟩ packet) : bytes.length < packet.offset + packet.length :=
  Nat.lt_of_not_le fun hfit => h (.inl ⟨op, rfl, hfit⟩)

theorem Policy.runs_out_of_write {bytes : List UInt8} (op : packet.header.opcode = .write)
    (h : ¬policy.Admits ⟨some bytes⟩ packet)
    (hsafe : policy = .safe → packet.length ≤ packet.available) :
    bytes.length < packet.offset + packet.length :=
  Nat.lt_of_not_le fun hfit => h (.inr (.inl ⟨op, rfl, hfit, hsafe⟩))

theorem Policy.refusal_truthful (hbound : region.Bounded) (h : ¬policy.Admits region packet) :
    (policy.refusal packet (region.contents.map List.length)).Truthful policy region packet := by
  unfold refusal
  cases op : packet.header.opcode with
  | read =>
    rcases region with ⟨_ | bytes⟩
    · rfl
    · exact readRefusal_truthful (runs_out_of_read op h)
  | write =>
    rcases region with ⟨_ | bytes⟩
    · rfl
    · exact writeRefusal_truthful (hbound bytes rfl) (runs_out_of_write op h)
  | reset => exact ⟨rfl, rfl, Nat.lt_of_not_le fun henough => h (.inr (.inr ⟨op, henough⟩))⟩
  | unknown tag => exact op

theorem Policy.refusal_eq_unchecked_iff (hbound : region.Bounded)
    (h : ¬policy.Admits region packet) :
    (∃ cause, policy.refusal packet (region.contents.map List.length) = .uncheckedAccess cause) ↔
      policy = .vulnerable ∧ region.isPresent ∧ packet.SlipsPast region.size := by
  unfold refusal
  cases op : packet.header.opcode with
  | read =>
    rcases region with ⟨_ | bytes⟩
    · simp [Region.isPresent]
    · have hout := runs_out_of_read op h
      simpa [Region.isPresent, Region.size] using readRefusal_eq_unchecked_iff op hout
  | write =>
    rcases region with ⟨_ | bytes⟩
    · simp [Region.isPresent]
    · have hout (hvulnerable : policy = .vulnerable) :
          bytes.length < packet.offset + packet.length := by
        apply runs_out_of_write op h
        intro hsafe
        cases hsafe.symm.trans hvulnerable
      simpa [Region.isPresent, Region.size] using
        writeRefusal_eq_unchecked_iff op (hbound bytes rfl) hout
  | reset => simp [Packet.SlipsPast, op]
  | unknown tag => simp [Packet.SlipsPast, op]

-- Slipping past the checks of `vulnerable` is no way in: the region still stops such a packet.
theorem Packet.SlipsPast.not_admits (hbound : region.Bounded) (hpresent : region.isPresent)
    (h : packet.SlipsPast region.size) : ¬policy.Admits region packet := by
  rcases region with ⟨_ | bytes⟩
  · cases hpresent
  · have hlen : bytes.length ≤ capacity := hbound bytes rfl
    have hsmall : capacity < 2 ^ 64 := by decide
    have hout : bytes.length < packet.offset + packet.length := by
      rcases h with ⟨-, hwraps, -⟩ | ⟨-, -, hout⟩
      · omega
      · exact hout
    rintro (⟨-, -, hfit⟩ | ⟨-, -, hfit, -⟩ | ⟨op, -⟩)
    · exact Nat.not_le.mpr hout hfit
    · exact Nat.not_le.mpr hout hfit
    · rcases h with ⟨op', -⟩ | ⟨op', -⟩
      · cases op.symm.trans op'
      · cases op.symm.trans op'

theorem perform_eq_refused_iff (hbound : region.Bounded) (inbox : Inbox) {reason : Refusal} :
    (perform policy region inbox packet).outcome = .refused reason ↔
      ¬policy.Admits region packet ∧
        reason = policy.refusal packet (region.contents.map List.length) := by
  rcases perform_eq_cases policy region inbox packet with ⟨response, after, heffect, hdone⟩ | hdone
  · rw [hdone]
    simp [heffect.admits]
  · have hnot : ¬policy.Admits region packet := by
      intro hadmits
      obtain ⟨response, after, heffect⟩ := hadmits.exists_effect hbound inbox
      have happlied := heffect.perform.1
      rw [hdone] at happlied
      cases happlied
    rw [hdone]
    simp [Handled.refuse, hnot, eq_comm]

/-! ## 4. The law -/

theorem Packet.headerSize_add_available {input : List UInt8} (h : ofInput input = .ok packet) :
    headerSize + packet.available = min input.length maxPacketSize := by
  obtain ⟨hheader, -⟩ := payload_of_decode h
  have havailable := available_of_ofInput h
  rw [List.length_take] at hheader
  omega

/-- Whatever a reachable keeper gives as the reason of a refusal is so: the numbers are those of the
packet, of the region, and of what was received behind the header. An access is stopped only at the
region, by `uncheckedAccess`, exactly where `vulnerable` is in force, something is stored, and the
packet slips past its checks. -/
theorem Keeper.Reachable.refusals_tell_the_truth {k : Keeper} (hk : k.Reachable) {packet : Packet}
    {done : Handled} (h : k.Handles packet done) :
    (∀ reason, done.outcome = .refused reason → reason.Truthful k.policy k.region packet) ∧
      ((∃ cause, done.outcome = .refused (.uncheckedAccess cause)) ↔
        k.policy = .vulnerable ∧ k.region.isPresent ∧ packet.SlipsPast k.region.size) ∧
      (∀ n, Packet.decode (k.inbox.front n) = .ok packet →
        headerSize + packet.available = min n maxPacketSize) ∧
      ∀ input, Packet.ofInput input = .ok packet →
        headerSize + packet.available = min input.length maxPacketSize := by
  obtain ⟨inbox, n, -, hout, -⟩ := h.perform
  have hrefused (reason : Refusal) : done.outcome = .refused reason ↔
      ¬k.policy.Admits k.region packet ∧
        reason = k.policy.refusal packet (k.region.contents.map List.length) := by
    rw [hout]
    exact perform_eq_refused_iff hk.bounded inbox
  refine ⟨?_, ?_, fun n => Packet.available_of_front, fun input => Packet.headerSize_add_available⟩
  · intro reason hreason
    obtain ⟨hnot, rfl⟩ := (hrefused reason).mp hreason
    exact Policy.refusal_truthful hk.bounded hnot
  · constructor
    · rintro ⟨cause, hcause⟩
      obtain ⟨hnot, hreason⟩ := (hrefused _).mp hcause
      exact (Policy.refusal_eq_unchecked_iff hk.bounded hnot).mp ⟨cause, hreason.symm⟩
    · rintro ⟨hvulnerable, hpresent, hslips⟩
      have hnot : ¬k.policy.Admits k.region packet := hslips.not_admits hk.bounded hpresent
      obtain ⟨cause, hcause⟩ := (Policy.refusal_eq_unchecked_iff hk.bounded hnot).mpr
        ⟨hvulnerable, hpresent, hslips⟩
      exact ⟨cause, (hrefused _).mpr ⟨hnot, hcause.symm⟩⟩

-- Five bytes are stored. Under `vulnerable` a read whose end wraps around to one and a write of two
-- bytes far outside are both stopped at the region; a write of six bytes is not let through so far.
theorem refusals_of_five_stored :
    let stored : Packet := ⟨⟨.reset, 0, 5⟩, [1, 2, 3, 4, 5]⟩
    let read : Packet := ⟨⟨.read, 18446744073709551615, 2⟩, []⟩
    let far : Packet := ⟨⟨.write, 1000, 2⟩, [9, 9]⟩
    let long : Packet := ⟨⟨.write, 0, 6⟩, [9]⟩
    let k := (Keeper.fresh .vulnerable).processAll [stored.encode]
    (∃ cause, (k.processed read.encode).outcome = .refused (.uncheckedAccess cause)) ∧
      (∃ cause, (k.processed far.encode).outcome = .refused (.uncheckedAccess cause)) ∧
      (¬∃ cause, (k.processed long.encode).outcome = .refused (.uncheckedAccess cause)) ∧
      long.RunsOut k.region 0 6 5 := by
  intro stored read far long k
  have hk : k.Reachable := Keeper.reachable_processAll _ _
  have hregion : k.region = ⟨some [1, 2, 3, 4, 5]⟩ := by decide +kernel
  have hhandles (packet : Packet) (hpacket : Packet.ofInput packet.encode = .ok packet) :
      k.Handles packet (k.processed packet.encode) :=
    .inr ⟨_, hpacket, rfl⟩
  have hread := hk.refusals_tell_the_truth (hhandles read (Packet.ofInput_encode rfl (by decide)))
  have hfar := hk.refusals_tell_the_truth (hhandles far (Packet.ofInput_encode rfl (by decide)))
  have hlong := hk.refusals_tell_the_truth (hhandles long (Packet.ofInput_encode rfl (by decide)))
  refine ⟨?_, ?_, ?_, ?_⟩
  · refine hread.2.1.mpr ⟨rfl, ?_⟩
    rw [hregion]
    decide
  · refine hfar.2.1.mpr ⟨rfl, ?_⟩
    rw [hregion]
    decide
  · refine mt hlong.2.1.mp ?_
    rw [hregion]
    decide
  · have hout : (k.processed long.encode).outcome = .refused (.outOfBounds 0 6 5) := by
      decide +kernel
    exact hlong.1 _ hout

end BufferKeeper
