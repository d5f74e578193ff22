import BufferKeeper.Proofs.Calls

/-!
# Snapshots

A reachable keeper never stores more than one packet can carry. So one read returns all that it
stores, and one reset that carries what was returned brings any other keeper to the same region,
whatever that keeper was and whichever policy it has. A region that is present and empty is no
exception: it comes out present and empty, and not absent.
-/

namespace BufferKeeper

open Bytes

variable {k : Keeper} {bytes : List UInt8}

theorem Keeper.processed_snapshot (hregion : k.region = ⟨some bytes⟩)
    (hbound : bytes.length ≤ capacity) :
    let snapshot : Packet := ⟨⟨.read, 0, UInt64.ofNat bytes.length⟩, []⟩
    (k.processed snapshot.encode).outcome = .applied (some bytes) ∧
      (k.process snapshot.encode).region = ⟨some bytes⟩ := by
  intro snapshot
  have hpacket : Packet.ofInput snapshot.encode = .ok snapshot :=
    Call.ofInput_read 0 (UInt64.ofNat bytes.length)
  have hoffset : snapshot.offset = 0 := rfl
  have hlength : snapshot.length = bytes.length := toNat_ofNat_of_le_capacity hbound
  have hfit : snapshot.offset + snapshot.length ≤ bytes.length := by omega
  have hread := k.processed_of_fitting_read hpacket hregion rfl hfit
  rw [hoffset, hlength, slice_zero_length] at hread
  exact hread

/-- From any reachable keeper with a present region, a read of the stored size from offset 0 returns
all the stored bytes and leaves the region. A reset that carries the returned bytes fits into one
packet, is applied by every keeper in any state, and makes its region the one that was read. -/
theorem Keeper.Reachable.snapshot_restores (hk : k.Reachable) (hpresent : k.region.isPresent) :
    let snapshot : Packet := ⟨⟨.read, 0, UInt64.ofNat k.region.size⟩, []⟩
    ∃ copy, k.region.contents = some copy ∧
      (k.processed snapshot.encode).outcome = .applied (some copy) ∧
      (k.process snapshot.encode).region = k.region ∧
      ∀ (other : Keeper) (offset : UInt64),
        let restore := Packet.carrying .reset offset copy
        restore.encode.length ≤ maxPacketSize ∧
          (other.processed restore.encode).outcome = .applied none ∧
          (other.process restore.encode).region = k.region := by
  have hbounded : k.region.Bounded := hk.bounded
  cases hregion : k.region with
  | mk contents =>
    rw [hregion] at hpresent hbounded
    cases contents with
    | none => cases hpresent
    | some copy =>
      have hbound : copy.length ≤ capacity := hbounded copy rfl
      have hread := k.processed_snapshot hregion hbound
      refine ⟨copy, rfl, hread.1, hread.2, fun other offset => ?_⟩
      have hfit := (Packet.length_encode_carrying_le_iff .reset offset copy).mpr hbound
      exact ⟨hfit, other.processed_of_full_reset offset hbound⟩

/-- A write under `vulnerable` left three bytes, and a reset under `safe` none. Each region is read
back and put into a keeper of the other policy, which held something else before. -/
theorem snapshots_of_three_bytes_and_of_none :
    let write : Packet := ⟨⟨.write, 1, 2⟩, [9]⟩
    let three := (Keeper.fresh .vulnerable).run
      [.process (Packet.carrying .reset 0 [1, 2, 3]).encode, .process write.encode]
    let empty := (Keeper.fresh .safe).run [.process (Packet.carrying .reset 0 []).encode]
    let other : Keeper := ⟨.safe, ⟨some [7, 7, 7, 7, 7]⟩, .zeros⟩
    let fresh := Keeper.fresh .vulnerable
    (other.process (Packet.carrying .reset 8 [1, 9, 2]).encode).region = three.region ∧
      (fresh.process (Packet.carrying .reset 0 []).encode).region = empty.region ∧
      three.region = ⟨some [1, 9, 2]⟩ ∧ empty.region = ⟨some []⟩ := by
  intro write three empty other fresh
  have hthree : three.region = ⟨some [1, 9, 2]⟩ := by decide +kernel
  have hempty : empty.region = ⟨some []⟩ := by decide +kernel
  have hreachable : three.Reachable := ⟨.vulnerable, _, rfl⟩
  have hreachable' : empty.Reachable := ⟨.safe, _, rfl⟩
  obtain ⟨copy, hcopy, -, -, hrestore⟩ := hreachable.snapshot_restores (by rw [hthree]; rfl)
  obtain ⟨copy', hcopy', -, -, hrestore'⟩ := hreachable'.snapshot_restores (by rw [hempty]; rfl)
  rw [hthree] at hcopy
  rw [hempty] at hcopy'
  cases hcopy
  cases hcopy'
  exact ⟨(hrestore other 8).2.2, (hrestore' fresh 0).2.2, hthree, hempty⟩

end BufferKeeper
