import BufferKeeper.Proofs.Frame
import BufferKeeper.Proofs.TrapFreedom

/-!
# Reading and writing the region

One check of the range decides reads and writes alike, and of the region it looks at the size alone.
So a write that succeeds leaves every later access to succeed or fail as it did before, and what the
bytes are afterwards is settled position by position: the data where it was written, the old bytes
elsewhere. On a machine the check is made on words whose sum may be too large for them, and the write
is done in place; both come to the same.
-/

namespace BufferKeeper

open Bytes

/-! ## 1. How an access turns out -/

/-- Whether an access succeeds, and how it fails where it does not. -/
def verdict {α : Type} (access : Except RangeError α) : Except RangeError Unit :=
  access.map fun _ => ()

theorem verdict_map {α β : Type} (f : α → β) (access : Except RangeError α) :
    verdict (access.map f) = verdict access := by
  cases access <;> rfl

theorem verdict_eq_ok_iff {α : Type} {access : Except RangeError α} :
    verdict access = .ok () ↔ ∃ result, access = .ok result := by
  cases access with
  | error cause =>
    constructor
    · rintro ⟨⟩
    · rintro ⟨_, ⟨⟩⟩
  | ok result => exact ⟨fun _ => ⟨result, rfl⟩, fun _ => rfl⟩

namespace Region

variable {r after : Region} {offset : Nat} {data : List UInt8}

theorem verdict_read (r : Region) (offset length : Nat) :
    verdict (r.read offset length) = verdict (r.checked offset length) :=
  verdict_map _ _

theorem verdict_write (r : Region) (offset : Nat) (data : List UInt8) :
    verdict (r.write offset data) = verdict (r.checked offset data.length) :=
  verdict_map _ _

theorem verdict_checked_some (bytes : List UInt8) (offset length : Nat) :
    verdict ((⟨some bytes⟩ : Region).checked offset length) =
      if offset + length ≤ bytes.length then .ok ()
      else .error (.outOfBounds offset length bytes.length) := by
  unfold checked
  dsimp only
  split <;> rfl

theorem verdict_checked_congr {r r' : Region} (h : r.extent = r'.extent) (offset length : Nat) :
    verdict (r.checked offset length) = verdict (r'.checked offset length) := by
  rcases r with ⟨_ | bytes⟩
  · rcases r' with ⟨_ | bytes'⟩
    · rfl
    · cases h
  · rcases r' with ⟨_ | bytes'⟩
    · cases h
    · have hlen : bytes.length = bytes'.length := Option.some.inj h
      rw [verdict_checked_some, verdict_checked_some, hlen]

theorem verdict_checked_eq_ok_iff {length : Nat} :
    verdict (r.checked offset length) = .ok () ↔
      ∃ bytes, r.contents = some bytes ∧ offset + length ≤ bytes.length := by
  rw [verdict_eq_ok_iff]
  simp only [checked_eq_ok_iff]

theorem verdict_checked_eq_error_iff {length : Nat} {cause : RangeError} :
    verdict (r.checked offset length) = .error cause ↔
      (r.contents = none ∧ cause = .absent) ∨
        ∃ bytes, r.contents = some bytes ∧ bytes.length < offset + length ∧
          cause = .outOfBounds offset length bytes.length := by
  rcases r with ⟨_ | bytes⟩
  · constructor
    · rintro ⟨⟩
      exact .inl ⟨rfl, rfl⟩
    · rintro (⟨-, rfl⟩ | ⟨_, ⟨⟩, -⟩)
      rfl
  · rw [verdict_checked_some]
    constructor
    · intro h
      split at h
      · cases h
      · cases h
        exact .inr ⟨bytes, rfl, by omega, rfl⟩
    · rintro (⟨⟨⟩, -⟩ | ⟨_, ⟨⟩, hover, rfl⟩)
      rw [if_neg (by omega)]

theorem extent_of_write (h : r.write offset data = .ok after) : after.extent = r.extent := by
  obtain ⟨bytes, hcontents, hfit, rfl⟩ := write_eq_ok_iff.mp h
  rw [extent, extent, hcontents]
  exact congrArg some (length_splice hfit)

/-! ## 2. What a write leaves -/

/-- What holds of the region `after` that has `data` written over `before` from `offset`. -/
structure Rewritten (before after : Region) (offset : Nat) (data : List UInt8) : Prop where
  reads_back : after.read offset data.length = .ok data
  reads_elsewhere : ∀ start count,
    (∀ i, start ≤ i → i < start + count → ¬(offset ≤ i ∧ i < offset + data.length)) →
    after.read start count = before.read start count
  reads_alike : ∀ start count,
    verdict (after.read start count) = verdict (before.read start count)
  writes_alike : ∀ start other,
    verdict (after.write start other) = verdict (before.write start other)
  written_again : ∀ other, other.length = data.length →
    after.write offset other = before.write offset other

theorem read_of_apart {bytes : List UInt8} {start count : Nat}
    (hfit : offset + data.length ≤ bytes.length)
    (hapart : ∀ i, start ≤ i → i < start + count → ¬(offset ≤ i ∧ i < offset + data.length)) :
    (⟨some (splice bytes offset data)⟩ : Region).read start count =
      (⟨some bytes⟩ : Region).read start count := by
  have hslice : slice (splice bytes offset data) start count = slice bytes start count := by
    apply slice_congr
    intro i hlow hhigh
    rw [getElem?_splice hfit, if_neg (hapart i hlow hhigh)]
  rw [read_some, read_some, length_splice hfit, hslice]

theorem write_write {bytes other : List UInt8} (hfit : offset + data.length ≤ bytes.length)
    (hlen : other.length = data.length) :
    (⟨some (splice bytes offset data)⟩ : Region).write offset other =
      (⟨some bytes⟩ : Region).write offset other := by
  rw [write_some, write_some, length_splice hfit, splice_splice hfit hlen]

theorem rewritten_of_write (h : r.write offset data = .ok after) :
    r.Rewritten after offset data := by
  have hextent := extent_of_write h
  obtain ⟨bytes, hcontents, hfit, rfl⟩ := write_eq_ok_iff.mp h
  obtain rfl : r = ⟨some bytes⟩ := congrArg Region.mk hcontents
  constructor
  case reads_back => rw [read_some, length_splice hfit, if_pos hfit, slice_splice hfit]
  case reads_elsewhere => exact fun start count => read_of_apart hfit
  case reads_alike =>
    intro start count
    rw [verdict_read, verdict_read, verdict_checked_congr hextent]
  case writes_alike =>
    intro start other
    rw [verdict_write, verdict_write, verdict_checked_congr hextent]
  case written_again => exact fun other => write_write hfit

theorem write_of_read {length : Nat} (h : r.read offset length = .ok data) :
    r.write offset data = .ok r := by
  obtain ⟨bytes, hcontents, hfit, rfl⟩ := read_eq_ok_iff.mp h
  obtain rfl : r = ⟨some bytes⟩ := congrArg Region.mk hcontents
  rw [write_some, length_slice hfit, if_pos hfit, splice_slice hfit]

end Region

/-! ## 3. Writing in place -/

namespace Machine

/-- A write done in place: its answer, and the region as it then is, whether the write failed or
not. -/
def writeInPlace (bits : Nat) (region : Region) (offset : UInt64) (data : List UInt8) :
    Except Trap (Except RangeError Unit × Region) := do
  match region.contents with
  | none => return (.error .absent, region)
  | some bytes =>
    match ← range bits offset (UInt64.ofNat data.length) bytes.length with
    | .error cause => return (.error cause, region)
    | .ok (first, last) =>
      let after ← copyInto bytes first last data
      return (.ok (), ⟨some after⟩)

theorem writeInPlace_eq_map_write (bits : Nat) (region : Region) (offset : UInt64)
    (data : List UInt8) :
    writeInPlace bits region offset data =
      (write bits region offset data).map fun
        | .ok after => (.ok (), after)
        | .error cause => (.error cause, region) := by
  rcases region with ⟨_ | bytes⟩
  · rfl
  · unfold writeInPlace write
    dsimp only
    cases range bits offset (UInt64.ofNat data.length) bytes.length with
    | error trap => rfl
    | ok checked =>
      cases checked with
      | error cause => rfl
      | ok ends =>
        show (copyInto bytes ends.1 ends.2 data >>= _) =
          (copyInto bytes ends.1 ends.2 data >>= _).map _
        cases copyInto bytes ends.1 ends.2 data <;> rfl

theorem writeInPlace_eq {bits : Nat} {region : Region} (offset : UInt64) {data : List UInt8}
    (h : Roomy bits region.size) (hdata : data.length < UInt64.size) :
    writeInPlace bits region offset data =
      .ok (match region.write offset.toNat data with
        | .ok after => (.ok (), after)
        | .error cause => (.error cause, region)) := by
  rw [writeInPlace_eq_map_write, write_eq offset h hdata]
  rfl

end Machine

/-! ## 4. The law -/

/-- A read and a write of one range succeed together, where something is stored and the range lies
inside it, or fail together for the same reason, with the numbers that were asked for. A write leaves
what `Rewritten` says, and bytes that were read change nothing when they are written back. With
indices of 16 to 64 bits and a region that fills at most half of them, the steps on words come to the
same at every offset, and a write in place that fails leaves the region as it was. -/
theorem reads_and_writes_are_lawful (r : Region) (offset : Nat) (data : List UInt8) :
    verdict (r.read offset data.length) = verdict (r.write offset data) ∧
      (verdict (r.write offset data) = .ok () ↔
        ∃ bytes, r.contents = some bytes ∧ offset + data.length ≤ bytes.length) ∧
      (∀ cause, verdict (r.write offset data) = .error cause ↔
        (r.contents = none ∧ cause = .absent) ∨
          ∃ bytes, r.contents = some bytes ∧ bytes.length < offset + data.length ∧
            cause = .outOfBounds offset data.length bytes.length) ∧
      (∀ after, r.write offset data = .ok after → r.Rewritten after offset data) ∧
      (∀ length, r.read offset length = .ok data → r.write offset data = .ok r) ∧
      ∀ (bits : Nat) (word : UInt64), 16 ≤ bits ∧ bits ≤ 64 → r.size < 2 ^ (bits - 1) →
        word.toNat = offset →
        (∀ length : UInt64,
          Machine.read bits r word length = .ok (r.read offset length.toNat)) ∧
        (data.length < UInt64.size →
          (∀ after, r.write offset data = .ok after →
            Machine.writeInPlace bits r word data = .ok (.ok (), after)) ∧
          ∀ cause, r.write offset data = .error cause →
            Machine.writeInPlace bits r word data = .ok (.error cause, r)) := by
  rw [Region.verdict_read, Region.verdict_write]
  refine ⟨rfl, Region.verdict_checked_eq_ok_iff, fun _ => Region.verdict_checked_eq_error_iff,
    fun _ => Region.rewritten_of_write, fun _ => Region.write_of_read, ?_⟩
  rintro bits word hbits hsize rfl
  have hroomy : Machine.Roomy bits r.size := Machine.roomy_of_half hbits hsize
  refine ⟨fun length => Machine.read_eq word length hroomy, fun hdata => ⟨?_, ?_⟩⟩
  · intro after hwrite
    rw [Machine.writeInPlace_eq word hroomy hdata, hwrite]
  · intro cause hwrite
    rw [Machine.writeInPlace_eq word hroomy hdata, hwrite]

-- The last two of five bytes are written over, and what is read there is put back. At the last of all
-- words, where the end of the range is no word, a read and a write fail alike and the bytes stay.
theorem accesses_at_the_end_and_at_the_last_word :
    let r : Region := ⟨some [1, 2, 3, 4, 5]⟩
    let after : Region := ⟨some [1, 2, 3, 9, 8]⟩
    let last : UInt64 := 0xffffffffffffffff
    let outside : RangeError := .outOfBounds 0xffffffffffffffff 2 5
    r.Rewritten after 3 [9, 8] ∧ Machine.writeInPlace 64 r 3 [9, 8] = .ok (.ok (), after) ∧
      after.write 3 [9, 8] = .ok after ∧
      Machine.read 64 r last 2 = .ok (.error outside) ∧
      Machine.writeInPlace 64 r last [9, 8] = .ok (.error outside, r) := by
  intro r after last outside
  have hbits : 16 ≤ 64 ∧ 64 ≤ 64 := by decide
  have hsize : r.size < 2 ^ (64 - 1) := by decide
  have hdata : [(9 : UInt8), 8].length < UInt64.size := by decide
  have hwrite : r.write 3 [9, 8] = .ok after := rfl
  have hread : after.read 3 2 = .ok [9, 8] := rfl
  obtain ⟨-, -, -, hwritten, -, hwords⟩ := reads_and_writes_are_lawful r 3 [9, 8]
  obtain ⟨-, -, -, -, hback, -⟩ := reads_and_writes_are_lawful after 3 [9, 8]
  obtain ⟨-, -, -, -, -, hwords'⟩ := reads_and_writes_are_lawful r last.toNat [9, 8]
  obtain ⟨-, hinside⟩ := hwords 64 3 hbits hsize rfl
  obtain ⟨hreads, houtside⟩ := hwords' 64 last hbits hsize rfl
  exact ⟨hwritten after hwrite, (hinside hdata).1 after hwrite, hback 2 hread, hreads 2,
    (houtside hdata).2 outside rfl⟩

end BufferKeeper
