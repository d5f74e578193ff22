import BufferKeeper.Proofs.Calls
import BufferKeeper.Proofs.Frame
import BufferKeeper.Proofs.LastWriter

/-!
# The order of writes

Writes that carry all that they claim can be made in any order, as long as those that fit keep to
ranges of their own. Each of them is applied or refused by the size of the region alone, which no
write changes, and where it is applied it meets none of the others. Under `vulnerable` each order
leaves another inbox, but such a write takes no byte of it that it did not bring itself.
-/

namespace BufferKeeper

open Bytes

/-! ## 1. Data put over bytes -/

-- Data that fits side by side ends up the same in either order, what does not fit plays no part.
theorem Bytes.written_comm {bytes x y : List UInt8} {a b : Nat}
    (h : a + x.length ≤ bytes.length → b + y.length ≤ bytes.length →
      ∀ i, ¬((a ≤ i ∧ i < a + x.length) ∧ b ≤ i ∧ i < b + y.length)) :
    written (written bytes a x) b y = written (written bytes b y) a x := by
  apply List.ext_getElem?
  intro i
  by_cases hx : a ≤ i ∧ i < a + x.length
  · by_cases hy : b ≤ i ∧ i < b + y.length
    · rw [getElem?_written_of_inside hy, getElem?_written_of_inside hx, length_written,
        getElem?_written_of_inside hx, getElem?_written_of_inside hy, length_written]
      by_cases hfit : a + x.length ≤ bytes.length
      · have hunfit : ¬b + y.length ≤ bytes.length := fun hfit' => h hfit hfit' i ⟨hx, hy⟩
        rw [if_neg hunfit, if_pos hfit, if_pos hfit]
      · rw [if_neg hfit, if_neg hfit]
    · rw [getElem?_written_of_outside hy, getElem?_written_of_inside hx,
        getElem?_written_of_inside hx, length_written, getElem?_written_of_outside hy]
  · rw [getElem?_written_of_outside hx]
    by_cases hy : b ≤ i ∧ i < b + y.length
    · rw [getElem?_written_of_inside hy, getElem?_written_of_inside hy, length_written,
        getElem?_written_of_outside hx]
    · rw [getElem?_written_of_outside hy, getElem?_written_of_outside hy,
        getElem?_written_of_outside hx]

/-! ## 2. Full writes -/

namespace Packet

/-- A write that carries all that it claims. -/
def IsFullWrite (packet : Packet) : Prop :=
  packet.header.opcode = .write ∧ packet.length ≤ packet.available

/-- The packet's range lies inside what is stored. -/
def FitsIn (packet : Packet) (region : Region) : Prop :=
  ∃ stored, region.extent = some stored ∧ packet.offset + packet.length ≤ stored

/-- No position lies in the ranges of both packets. -/
def ApartFrom (p q : Packet) : Prop :=
  ∀ i, p.covers i → ¬q.covers i

theorem ApartFrom.symm {p q : Packet} (h : p.ApartFrom q) : q.ApartFrom p :=
  fun i hq hp => h i hp hq

end Packet

namespace Region

/-- The region after a full write: with the packet's data in its range, if that fits. -/
def put (region : Region) (packet : Packet) : Region :=
  ⟨region.contents.map fun bytes =>
    written bytes packet.offset (packet.payload.take packet.length)⟩

theorem extent_put (region : Region) (packet : Packet) :
    (region.put packet).extent = region.extent := by
  rcases region with ⟨_ | bytes⟩
  · rfl
  · exact congrArg some (length_written bytes _ _)

theorem put_put_comm {region : Region} {p q : Packet} (hp : p.length ≤ p.available)
    (hq : q.length ≤ q.available)
    (h : p.FitsIn region → q.FitsIn region → p.ApartFrom q) :
    (region.put p).put q = (region.put q).put p := by
  rcases region with ⟨_ | bytes⟩
  · rfl
  · have hcomm : written (written bytes p.offset (p.payload.take p.length)) q.offset
          (q.payload.take q.length) =
        written (written bytes q.offset (q.payload.take q.length)) p.offset
          (p.payload.take p.length) := by
      apply written_comm
      rw [Packet.length_take_payload hp, Packet.length_take_payload hq]
      intro hfit hfit' i hboth
      have happart := h ⟨_, rfl, hfit⟩ ⟨_, rfl, hfit'⟩ i
      simp only [Packet.covers, decide_eq_true_eq] at happart
      exact happart hboth.1 hboth.2
    exact congrArg (fun bytes => (⟨some bytes⟩ : Region)) hcomm

-- On the ways to permute a list: only the exchange of two neighbours needs the ranges to be apart.
theorem foldl_put_perm {region : Region} {packets order : List Packet}
    (hperm : packets.Perm order) (hfull : ∀ packet ∈ packets, packet.length ≤ packet.available)
    (hapart : packets.Pairwise fun p q => p.FitsIn region → q.FitsIn region → p.ApartFrom q) :
    packets.foldl put region = order.foldl put region := by
  induction hperm generalizing region with
  | nil => rfl
  | cons packet _ ih =>
    rw [List.forall_mem_cons] at hfull
    rw [List.pairwise_cons] at hapart
    apply ih hfull.2
    unfold Packet.FitsIn at hapart ⊢
    rw [extent_put]
    exact hapart.2
  | swap p q rest =>
    rw [List.forall_mem_cons, List.forall_mem_cons] at hfull
    rw [List.pairwise_cons] at hapart
    have hswap := put_put_comm hfull.1 hfull.2.1 (hapart.1 p List.mem_cons_self)
    rw [List.foldl_cons, List.foldl_cons, List.foldl_cons, List.foldl_cons, hswap]
  | trans hfirst _ ih ih' =>
    rw [ih hfull hapart]
    apply ih'
    · intro packet hpacket
      exact hfull packet (hfirst.mem_iff.mpr hpacket)
    · refine (hfirst.pairwise_iff ?_).mp hapart
      intro p q happart hq hp
      exact (happart hp hq).symm

end Region

/-! ## 3. Runs of full writes -/

def packetsOf (inputs : List (List UInt8)) : List Packet :=
  inputs.filterMap fun input => (Packet.ofInput input).toOption

/-- The input brings a write that carries all that it claims. -/
def BringsFullWrite (input : List UInt8) : Prop :=
  ∃ packet, Packet.ofInput input = .ok packet ∧ packet.IsFullWrite

theorem packetsOf_cons {input : List UInt8} {packet : Packet}
    (h : Packet.ofInput input = .ok packet) (rest : List (List UInt8)) :
    packetsOf (input :: rest) = packet :: packetsOf rest := by
  unfold packetsOf
  rw [List.filterMap_cons, h]
  rfl

theorem full_of_mem_packetsOf {inputs : List (List UInt8)}
    (hfull : ∀ input ∈ inputs, BringsFullWrite input) {packet : Packet}
    (h : packet ∈ packetsOf inputs) : packet.IsFullWrite := by
  obtain ⟨input, hinput, hpacket⟩ := List.mem_filterMap.mp h
  obtain ⟨packet', hpacket', hwrite⟩ := hfull input hinput
  rw [hpacket'] at hpacket
  cases hpacket
  exact hwrite

namespace Keeper

variable {k k' : Keeper} {input : List UInt8} {packet : Packet}

theorem region_of_full_write (k : Keeper) (h : Packet.ofInput input = .ok packet)
    (hwrite : packet.IsFullWrite) : (k.process input).region = k.region.put packet := by
  obtain ⟨op, henough⟩ := hwrite
  rcases hregion : k.region with ⟨_ | bytes⟩
  · rcases k.processed_cases_of_ofInput h with ⟨response, -, heffect⟩ | ⟨reason, -, hstays⟩
    · obtain ⟨bytes, data, hpresent, -⟩ := heffect.of_write op
      rw [hregion] at hpresent
      cases hpresent
    · rw [hstays, hregion]
      rfl
  · change _ = (⟨some (written bytes _ _)⟩ : Region)
    unfold written
    rw [Packet.length_take_payload henough]
    by_cases hfit : packet.offset + packet.length ≤ bytes.length
    · rw [(k.processed_of_full_write h hregion op henough hfit).2, if_pos hfit]
    · have hne : packet.header.opcode ≠ .reset := by
        rw [op]
        exact Opcode.noConfusion
      rw [(k.processed_of_unfit h hregion hne hfit).2, if_neg hfit]

theorem outcome_of_fitting_write (h : Packet.ofInput input = .ok packet)
    (hwrite : packet.IsFullWrite) (hfit : packet.FitsIn k.region) :
    (k.processed input).outcome = .applied none := by
  obtain ⟨stored, hstored, hfit⟩ := hfit
  rcases hregion : k.region with ⟨_ | bytes⟩
  · rw [hregion] at hstored
    cases hstored
  · rw [hregion] at hstored
    cases hstored
    exact (k.processed_of_full_write h hregion hwrite.1 hwrite.2 hfit).1

theorem outcome_of_unfit_write (h : Packet.ofInput input = .ok packet)
    (hwrite : packet.IsFullWrite) (hunfit : ¬packet.FitsIn k.region) :
    (k.processed input).outcome = .refused (k.policy.refusal packet k.region.extent) := by
  rw [(k.processed_of_ofInput h).1]
  rcases perform_eq_cases k.policy k.region (k.inbox.receive input) packet with
    ⟨response, after, heffect, -⟩ | hdone
  · obtain ⟨bytes, data, hregion, -, hfit, -⟩ := heffect.of_write hwrite.1
    exact absurd ⟨bytes.length, congrArg Region.extent hregion, hfit⟩ hunfit
  · rw [hdone]
    rfl

-- Of the region, only its size decides what becomes of a full write.
theorem outcome_congr_of_full_write (hpolicy : k.policy = k'.policy)
    (hextent : k.region.extent = k'.region.extent) (h : BringsFullWrite input) :
    (k.processed input).outcome = (k'.processed input).outcome := by
  obtain ⟨packet, hpacket, hwrite⟩ := h
  have hsame : packet.FitsIn k.region ↔ packet.FitsIn k'.region := by
    unfold Packet.FitsIn
    rw [hextent]
  by_cases hfit : packet.FitsIn k.region
  · rw [outcome_of_fitting_write hpacket hwrite hfit,
      outcome_of_fitting_write hpacket hwrite (hsame.mp hfit)]
  · rw [outcome_of_unfit_write hpacket hwrite hfit,
      outcome_of_unfit_write hpacket hwrite (mt hsame.mpr hfit), hpolicy, hextent]

theorem transcript_of_full_writes {inputs : List (List UInt8)}
    (hfull : ∀ input ∈ inputs, BringsFullWrite input) (hpolicy : k.policy = k'.policy)
    (hextent : k.region.extent = k'.region.extent) :
    k.transcript inputs = inputs.map fun input => ⟨input, (k'.processed input).outcome⟩ := by
  induction inputs generalizing k with
  | nil => rfl
  | cons input rest ih =>
    rw [List.forall_mem_cons] at hfull
    obtain ⟨packet, hpacket, hwrite⟩ := hfull.1
    have hnext : (k.process input).region.extent = k'.region.extent := by
      rw [k.region_of_full_write hpacket hwrite, Region.extent_put, hextent]
    rw [transcript, List.map_cons, ih (k := k.process input) hfull.2 hpolicy hnext,
      outcome_congr_of_full_write hpolicy hextent hfull.1]

theorem region_of_full_writes {inputs : List (List UInt8)}
    (hfull : ∀ input ∈ inputs, BringsFullWrite input) :
    (k.processAll inputs).region = (packetsOf inputs).foldl Region.put k.region := by
  induction inputs generalizing k with
  | nil => rfl
  | cons input rest ih =>
    rw [List.forall_mem_cons] at hfull
    obtain ⟨packet, hpacket, hwrite⟩ := hfull.1
    rw [processAll_cons, packetsOf_cons hpacket, List.foldl_cons, ih hfull.2,
      k.region_of_full_write hpacket hwrite]

end Keeper

/-! ## 4. The law -/

/-- Under either policy and from any keeper, take inputs that bring writes with all that they claim,
and of these let the ranges that fit lie apart. In whatever order they are processed, each has the
outcome that it would have as the first, and the region ends the same. -/
theorem order_of_writes_apart_is_free (k : Keeper) {inputs order : List (List UInt8)}
    (hfull : ∀ input ∈ inputs, BringsFullWrite input)
    (hapart : (packetsOf inputs).Pairwise fun p q =>
      p.FitsIn k.region → q.FitsIn k.region → p.ApartFrom q)
    (horder : inputs.Perm order) :
    k.transcript inputs = (inputs.map fun input => ⟨input, (k.processed input).outcome⟩) ∧
      k.transcript order = (order.map fun input => ⟨input, (k.processed input).outcome⟩) ∧
      (k.processAll order).region = (k.processAll inputs).region := by
  have hfull' : ∀ input ∈ order, BringsFullWrite input :=
    fun input hinput => hfull input (horder.mem_iff.mpr hinput)
  refine ⟨Keeper.transcript_of_full_writes hfull rfl rfl,
    Keeper.transcript_of_full_writes hfull' rfl rfl, ?_⟩
  rw [Keeper.region_of_full_writes hfull, Keeper.region_of_full_writes hfull']
  have hperm : (packetsOf inputs).Perm (packetsOf order) := horder.filterMap _
  exact (Region.foldl_put_perm hperm (fun _ hmem => (full_of_mem_packetsOf hfull hmem).2)
    hapart).symm

-- Of six bytes two writes take their own, and the one between them, which meets the second, reaches
-- past the end. Backwards the same two are applied, with the same end.
theorem three_writes_backwards :
    let k : Keeper := ⟨.vulnerable, ⟨some [0, 0, 0, 0, 0, 0]⟩, Inbox.zeros⟩
    let low : Packet := ⟨⟨.write, 0, 2⟩, [1, 2]⟩
    let past : Packet := ⟨⟨.write, 5, 2⟩, [9, 9]⟩
    let high : Packet := ⟨⟨.write, 3, 3⟩, [4, 5, 6, 7]⟩
    k.transcript [high.encode, past.encode, low.encode] =
        [⟨high.encode, .applied none⟩,
          ⟨past.encode, .refused (.uncheckedAccess (.outOfBounds 5 2 6))⟩,
          ⟨low.encode, .applied none⟩] ∧
      (k.processAll [high.encode, past.encode, low.encode]).region =
        ⟨some [1, 2, 0, 4, 5, 6]⟩ := by
  intro k low past high
  have hlow : Packet.ofInput low.encode = .ok low := Packet.ofInput_encode rfl (by decide)
  have hpast : Packet.ofInput past.encode = .ok past := Packet.ofInput_encode rfl (by decide)
  have hhigh : Packet.ofInput high.encode = .ok high := Packet.ofInput_encode rfl (by decide)
  have hfull : ∀ input ∈ [low.encode, past.encode, high.encode], BringsFullWrite input := by
    simp only [List.forall_mem_cons, List.not_mem_nil, false_imp_iff, implies_true, and_true]
    exact ⟨⟨low, hlow, rfl, by decide⟩, ⟨past, hpast, rfl, by decide⟩,
      ⟨high, hhigh, rfl, by decide⟩⟩
  have hapart : (packetsOf [low.encode, past.encode, high.encode]).Pairwise fun p q =>
      p.FitsIn k.region → q.FitsIn k.region → p.ApartFrom q := by
    have hunfit : ¬past.FitsIn k.region := by
      rintro ⟨stored, ⟨⟩, hfit⟩
      exact absurd hfit (by decide)
    rw [packetsOf_cons hlow, packetsOf_cons hpast, packetsOf_cons hhigh]
    simp only [packetsOf, List.filterMap_nil, List.pairwise_cons, List.forall_mem_cons,
      List.not_mem_nil, false_imp_iff, implies_true, and_true, List.Pairwise.nil]
    refine ⟨⟨fun _ hfit => absurd hfit hunfit, fun _ _ i hi => ?_⟩,
      fun hfit => absurd hfit hunfit⟩
    simp only [Packet.covers, decide_eq_true_eq] at hi ⊢
    have hlt : i < 0 + 2 := hi.2
    intro hcovers
    have hge : 3 ≤ i := hcovers.1
    omega
  obtain ⟨-, htranscript, hregion⟩ := order_of_writes_apart_is_free k hfull hapart
    (List.reverse_perm _).symm
  exact ⟨htranscript.trans (by decide +kernel), hregion.trans (by decide +kernel)⟩

end BufferKeeper
