import BufferKeeper.Proofs.Capacity

/-!
# Where the policies part

A write that claims more payload than it carries is short-bodied. On every other packet the two
policies do the same to the region and answer alike; at most `vulnerable` names a refusal by the
check of the region that stopped the access. So two runs over the same inputs stay in step until
the first short-bodied write, and that one divides them only if its range lies inside the region.
-/

namespace BufferKeeper

open Bytes

/-! ## 1. Outcomes that agree -/

/-- The same outcome, except that an access out of bounds may have been let through by the policy's
own check before the region stopped it. -/
inductive Outcome.Agrees : Outcome → Outcome → Prop where
  | same (outcome : Outcome) : Agrees outcome outcome
  | blocked (offset length stored : Nat) :
      Agrees (.refused (.outOfBounds offset length stored))
        (.refused (.uncheckedAccess (.outOfBounds offset length stored)))

namespace Outcome.Agrees

variable {outcome outcome' : Outcome}

theorem response (h : outcome.Agrees outcome') : outcome.response = outcome'.response := by
  cases h <;> rfl

theorem isApplied (h : outcome.Agrees outcome') : outcome.isApplied = outcome'.isApplied := by
  cases h <;> rfl

theorem reason {r r' : Refusal} (h : Agrees (.refused r) (.refused r')) :
    r = r' ∨ ∃ offset length stored, r = .outOfBounds offset length stored ∧
      r' = .uncheckedAccess (.outOfBounds offset length stored) := by
  cases h with
  | same => exact .inl rfl
  | blocked offset length stored => exact .inr ⟨offset, length, stored, rfl, rfl⟩

end Outcome.Agrees

/-! ## 2. One packet -/

/-- A write that claims more payload than it carries. -/
def Packet.ShortBodied (p : Packet) : Prop :=
  p.header.opcode = .write ∧ p.available < p.length

instance (p : Packet) : Decidable p.ShortBodied :=
  inferInstanceAs (Decidable (_ ∧ _))

variable {packet : Packet}

theorem Policy.readRefusal_agrees {stored : Nat}
    (h : ¬packet.offset + packet.length ≤ stored) :
    Outcome.Agrees (.refused (safe.readRefusal packet stored))
      (.refused (vulnerable.readRefusal packet stored)) := by
  unfold readRefusal
  rw [if_neg (mt admitsRead_safe_iff.mp h)]
  split
  · exact .blocked _ _ _
  · exact .same _

theorem perform_agrees (region : Region) (inbox : Inbox) {inbox' : Inbox} {n : Nat}
    (hdecode : Packet.decode (inbox'.front n) = .ok packet) (hfull : ¬packet.ShortBodied) :
    (perform .safe region inbox packet).region = (perform .vulnerable region inbox' packet).region ∧
      (perform .safe region inbox packet).outcome.Agrees
        (perform .vulnerable region inbox' packet).outcome := by
  unfold perform
  cases op : packet.header.opcode with
  | read =>
    dsimp only
    rcases region with ⟨_ | bytes⟩
    · exact ⟨rfl, .same _⟩
    · rw [readPacket_some, readPacket_some]
      by_cases hfit : packet.offset + packet.length ≤ bytes.length
      · rw [if_pos hfit, if_pos hfit]
        exact ⟨rfl, .same _⟩
      · rw [if_neg hfit, if_neg hfit]
        exact ⟨rfl, Policy.readRefusal_agrees hfit⟩
  | write =>
    dsimp only
    rcases region with ⟨_ | bytes⟩
    · exact ⟨rfl, .same _⟩
    · have henough : packet.length ≤ packet.available :=
        Nat.le_of_not_lt fun hshort => hfull ⟨op, hshort⟩
      obtain ⟨hroom, hsource⟩ := Inbox.source_of_decode hdecode henough
      rw [writePacket_safe_some, if_pos henough, writePacket_vulnerable_some, if_pos hroom, hsource]
      by_cases hfit : packet.offset + packet.length ≤ bytes.length
      · rw [if_pos hfit, if_pos hfit, if_pos (by omega)]
        exact ⟨rfl, .same _⟩
      -- out of range; the length alone decides which of the two checks says so
      · rw [if_neg hfit, if_neg hfit]
        split
        · exact ⟨rfl, .blocked _ _ _⟩
        · exact ⟨rfl, .same _⟩
  | reset => exact ⟨rfl, .same _⟩
  | unknown tag => exact ⟨rfl, .same _⟩

/-! ## 3. Runs in step -/

namespace Keeper

variable {s v : Keeper}

theorem agrees_process (hs : s.policy = .safe) (hv : v.policy = .vulnerable)
    (hregion : s.region = v.region) {input : List UInt8}
    (hfull : ∀ packet, Packet.ofInput input = .ok packet → ¬packet.ShortBodied) :
    (s.process input).region = (v.process input).region ∧
      (s.processed input).outcome.Agrees (v.processed input).outcome := by
  cases h : Packet.ofInput input with
  | error cause =>
    obtain ⟨hout, hstays⟩ := s.processed_of_ofInput_error h
    obtain ⟨hout', hstays'⟩ := v.processed_of_ofInput_error h
    rw [hout, hout', hstays, hstays']
    exact ⟨hregion, .same _⟩
  | ok packet =>
    obtain ⟨hout, hafter⟩ := s.processed_of_ofInput h
    obtain ⟨hout', hafter'⟩ := v.processed_of_ofInput h
    rw [hout, hout', hafter, hafter', hs, hv, hregion]
    have hdecode : Packet.decode ((v.receive input).inbox.front (taken input)) = .ok packet :=
      (v.decode_received input).trans h
    exact perform_agrees _ _ hdecode (hfull packet h)

theorem agrees_processAll (hs : s.policy = .safe) (hv : v.policy = .vulnerable)
    (hregion : s.region = v.region) {inputs : List (List UInt8)}
    (hfull : ∀ input ∈ inputs, ∀ packet, Packet.ofInput input = .ok packet →
      ¬packet.ShortBodied) :
    (s.processAll inputs).region = (v.processAll inputs).region := by
  induction inputs generalizing s v with
  | nil => exact hregion
  | cons input rest ih =>
    have hnext := agrees_process hs hv hregion (hfull input List.mem_cons_self)
    apply ih (s := s.process input) (v := v.process input) hs hv hnext.1
    intro x hx
    exact hfull x (List.mem_cons_of_mem _ hx)

end Keeper

/-! ## 4. What divides the policies -/

/-- A short-bodied write whose range lies inside the region. -/
def Packet.Divides (p : Packet) (region : Region) : Prop :=
  p.ShortBodied ∧
    ∃ bytes, region.contents = some bytes ∧ p.offset + p.length ≤ bytes.length

theorem perform_of_divides {region : Region} (hbound : region.Bounded)
    (h : packet.Divides region) (inbox inbox' : Inbox) :
    (perform .safe region inbox packet).outcome =
        .refused (.payloadTooShort packet.length packet.available) ∧
      (perform .vulnerable region inbox' packet).outcome = .applied none := by
  obtain ⟨⟨op, hshort⟩, bytes, hbytes, hfit⟩ := h
  have hlen : bytes.length ≤ capacity := hbound bytes hbytes
  have hsum := headerSize_add_capacity
  rcases region with ⟨contents⟩
  cases hbytes
  unfold perform
  rw [op]
  dsimp only
  constructor
  · rw [writePacket_safe_some, if_neg (by omega)]
    rfl
  -- the region's bound is what leaves the inbox room for the claimed length
  · rw [writePacket_vulnerable_some, if_pos (by omega), if_pos (by omega), if_pos hfit]

-- A short-bodied write that does not divide the policies is refused by both.
theorem perform_of_shortBodied (policy : Policy) {region : Region} (hshort : packet.ShortBodied)
    (h : ¬packet.Divides region) (inbox : Inbox) :
    (perform policy region inbox packet).outcome.isApplied = false ∧
      (perform policy region inbox packet).region = region := by
  rcases perform_cases policy region inbox packet with
    ⟨response, -, heffect⟩ | ⟨reason, hout, hstays⟩
  · obtain ⟨bytes, data, hregion, -, hfit, -⟩ := heffect.of_write hshort.1
    exact absurd ⟨hshort, bytes, congrArg Region.contents hregion, hfit⟩ h
  · rw [hout]
    exact ⟨rfl, hstays⟩

theorem perform_of_not_divides {region : Region} (h : ¬packet.Divides region) (inbox : Inbox)
    {inbox' : Inbox} {n : Nat} (hdecode : Packet.decode (inbox'.front n) = .ok packet) :
    (perform .safe region inbox packet).region = (perform .vulnerable region inbox' packet).region ∧
      (perform .safe region inbox packet).outcome.isApplied =
        (perform .vulnerable region inbox' packet).outcome.isApplied := by
  by_cases hshort : packet.ShortBodied
  · obtain ⟨happlied, hstays⟩ := perform_of_shortBodied .safe hshort h inbox
    obtain ⟨happlied', hstays'⟩ := perform_of_shortBodied .vulnerable hshort h inbox'
    rw [happlied, happlied', hstays, hstays']
    exact ⟨rfl, rfl⟩
  · obtain ⟨hsame, hagrees⟩ := perform_agrees region inbox hdecode hshort
    exact ⟨hsame, hagrees.isApplied⟩

theorem Keeper.Handles.divided_iff {s v : Keeper} {done done' : Handled} (hs : s.policy = .safe)
    (hv : v.policy = .vulnerable) (hbound : s.region.Bounded) (hregion : s.region = v.region)
    (h : s.Handles packet done) (h' : v.Handles packet done') :
    (done.region ≠ done'.region ∨ done.outcome.isApplied ≠ done'.outcome.isApplied) ↔
      packet.Divides s.region := by
  obtain ⟨inbox, -, -, hout, hafter⟩ := h.perform
  obtain ⟨inbox', n, hdecode, hout', hafter'⟩ := h'.perform
  rw [hout, hout', hafter, hafter', hs, hv, ← hregion]
  constructor
  · intro hdiffer
    apply Classical.byContradiction
    intro hundivided
    obtain ⟨hsame, happlied⟩ := perform_of_not_divides hundivided inbox hdecode
    rcases hdiffer with hdiffer | hdiffer
    · exact hdiffer hsame
    · exact hdiffer happlied
  · intro hdivides
    obtain ⟨hrefused, happlied⟩ := perform_of_divides hbound hdivides inbox inbox'
    right
    rw [hrefused, happlied]
    exact Bool.false_ne_true

/-! ## 5. The law -/

/-- Over inputs without a short-bodied write, fresh keepers under the two policies keep equal
regions and agree on every outcome. Reachable keepers with equal regions are divided by a packet
exactly when it is a short-bodied write inside the region, which `safe` refuses and `vulnerable`
applies. -/
theorem policies_agree_but_for_short_writes :
    (∀ inputs input,
      (∀ x ∈ inputs ++ [input], ∀ packet, Packet.ofInput x = .ok packet → ¬packet.ShortBodied) →
      let s := (Keeper.fresh .safe).processAll inputs
      let v := (Keeper.fresh .vulnerable).processAll inputs
      s.region = v.region ∧ (s.process input).region = (v.process input).region ∧
        (s.processed input).outcome.response = (v.processed input).outcome.response ∧
        (s.processed input).outcome.isApplied = (v.processed input).outcome.isApplied ∧
        ∀ r r', (s.processed input).outcome = .refused r →
          (v.processed input).outcome = .refused r' →
            r = r' ∨ ∃ offset length stored, r = .outOfBounds offset length stored ∧
              r' = .uncheckedAccess (.outOfBounds offset length stored)) ∧
      ∀ s v : Keeper, s.Reachable → v.Reachable → s.policy = .safe → v.policy = .vulnerable →
        s.region = v.region → ∀ packet done done', s.Handles packet done → v.Handles packet done' →
          ((done.region ≠ done'.region ∨ done.outcome.isApplied ≠ done'.outcome.isApplied) ↔
              packet.Divides s.region) ∧
            (packet.Divides s.region →
              done.outcome = .refused (.payloadTooShort packet.length packet.available) ∧
                done'.outcome = .applied none) := by
  constructor
  · intro inputs input hfull s v
    have hs : s.policy = .safe := Keeper.processAll_policy _ inputs
    have hv : v.policy = .vulnerable := Keeper.processAll_policy _ inputs
    have hregion : s.region = v.region :=
      Keeper.agrees_processAll (s := .fresh .safe) (v := .fresh .vulnerable) rfl rfl rfl
        fun x hx => hfull x (List.mem_append_left _ hx)
    obtain ⟨hafter, hagrees⟩ :=
      Keeper.agrees_process hs hv hregion (hfull input (List.mem_append_right _ List.mem_cons_self))
    refine ⟨hregion, hafter, hagrees.response, hagrees.isApplied, fun r r' hr hr' => ?_⟩
    rw [hr, hr'] at hagrees
    exact hagrees.reason
  · intro s v hsreach _ hs hv hregion packet done done' hdone hdone'
    refine ⟨hdone.divided_iff hs hv hsreach.bounded hregion hdone', fun hdivides => ?_⟩
    obtain ⟨inbox, -, -, hout, -⟩ := hdone.perform
    obtain ⟨inbox', -, -, hout', -⟩ := hdone'.perform
    rw [hout, hout', hs, hv, ← hregion]
    exact perform_of_divides hsreach.bounded hdivides inbox inbox'

/-- Five bytes are stored. A read that runs past the end of the address space is refused under
either policy, and a write that carries one byte of three is carried out under one of them. -/
theorem policies_part_at_short_write :
    let stored : Packet := ⟨⟨.reset, 0, 5⟩, [1, 2, 3, 4, 5]⟩
    let read : Packet := ⟨⟨.read, 18446744073709551615, 2⟩, []⟩
    let write : Packet := ⟨⟨.write, 1, 3⟩, [9]⟩
    let s := (Keeper.fresh .safe).processAll [stored.encode]
    let v := (Keeper.fresh .vulnerable).processAll [stored.encode]
    (s.process read.encode).region = (v.process read.encode).region ∧
      (s.processed read.encode).outcome =
        .refused (.outOfBounds 18446744073709551615 2 5) ∧
      (v.processed read.encode).outcome =
        .refused (.uncheckedAccess (.outOfBounds 18446744073709551615 2 5)) ∧
      (s.processed write.encode).outcome = .refused (.payloadTooShort 3 1) ∧
      (v.processed write.encode).outcome = .applied none := by
  intro stored read write s v
  obtain ⟨hstep, hparts⟩ := policies_agree_but_for_short_writes
  have hstored : Packet.ofInput stored.encode = .ok stored := Packet.ofInput_encode rfl (by decide)
  have hread : Packet.ofInput read.encode = .ok read := Packet.ofInput_encode rfl (by decide)
  have hwrite : Packet.ofInput write.encode = .ok write := Packet.ofInput_encode rfl (by decide)
  have hfull : ∀ x ∈ [stored.encode] ++ [read.encode], ∀ packet, Packet.ofInput x = .ok packet →
      ¬packet.ShortBodied := by
    intro x hx packet hpacket
    simp only [List.cons_append, List.nil_append, List.mem_cons, List.not_mem_nil, or_false] at hx
    rcases hx with rfl | rfl
    · cases hpacket.symm.trans hstored
      decide
    · cases hpacket.symm.trans hread
      decide
  have hregion : s.region = ⟨some [1, 2, 3, 4, 5]⟩ := by decide +kernel
  obtain ⟨hsame, hafter, -⟩ := hstep [stored.encode] read.encode hfull
  obtain ⟨-, hdivided⟩ := hparts s v (Keeper.reachable_processAll _ _)
    (Keeper.reachable_processAll _ _) rfl rfl hsame write _ _ (.inr ⟨_, hwrite, rfl⟩)
    (.inr ⟨_, hwrite, rfl⟩)
  obtain ⟨hrefused, happlied⟩ :=
    hdivided ⟨by decide, _, congrArg Region.contents hregion, by decide⟩
  exact ⟨hafter, by decide +kernel, by decide +kernel, hrefused, happlied⟩

end BufferKeeper
