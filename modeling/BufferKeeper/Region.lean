import BufferKeeper.Bytes.Splice
import BufferKeeper.Text.Numeral

/-!
# The kept region

The server keeps one region of bytes. It is absent until the first `replace`; from then on it has a
length that only another `replace` changes. `read` and `write` go through one range check, and a
write that fails the check changes nothing. Offsets and lengths are natural numbers here, so a
range whose end exceeds every machine word is simply out of bounds.

Main statements: `read_eq_ok_iff` and `write_eq_ok_iff` say when an access succeeds and with what.
-/

namespace BufferKeeper

open Bytes

/-! ## 1. The region and its failures -/

/-- The kept bytes; `none` before the first replacement. -/
structure Region where
  contents : Option (List UInt8)
  deriving DecidableEq

inductive RangeError where
  | absent
  | outOfBounds (offset length stored : Nat)
  deriving DecidableEq

def RangeError.message : RangeError → String
  | .absent => "stored buffer has not been allocated"
  | .outOfBounds offset length stored =>
    "range offset=" ++ Text.hex offset ++ " length=" ++ Text.hex length
      ++ " outside stored buffer of " ++ Text.hex stored ++ " bytes"

namespace Region

def absent : Region := ⟨none⟩

def isPresent (r : Region) : Bool :=
  r.contents.isSome

/-- An absent region has size 0. -/
def size (r : Region) : Nat :=
  match r.contents with
  | none => 0
  | some bytes => bytes.length

/-- An absent region is empty too. -/
def isEmpty (r : Region) : Bool :=
  r.size == 0

/-! ## 2. Operations -/

/-- The stored bytes, provided that the range of `length` bytes from `offset` lies inside them. -/
def checked (r : Region) (offset length : Nat) : Except RangeError (List UInt8) :=
  match r.contents with
  | none => .error .absent
  | some bytes =>
    if offset + length ≤ bytes.length then .ok bytes
    else .error (.outOfBounds offset length bytes.length)

def read (r : Region) (offset length : Nat) : Except RangeError (List UInt8) :=
  (r.checked offset length).map fun bytes => slice bytes offset length

def write (r : Region) (offset : Nat) (data : List UInt8) : Except RangeError Region :=
  (r.checked offset data.length).map fun bytes => ⟨some (splice bytes offset data)⟩

/-- What was stored before makes no difference. -/
def replace (_ : Region) (data : List UInt8) : Region :=
  ⟨some data⟩

/-! ## 3. When an access succeeds -/

theorem checked_eq_ok_iff {r : Region} {offset length : Nat} {bytes : List UInt8} :
    r.checked offset length = .ok bytes ↔
      r.contents = some bytes ∧ offset + length ≤ bytes.length := by
  obtain ⟨contents⟩ := r
  cases contents with
  | none => simp [checked]
  | some stored =>
    unfold checked
    dsimp only
    by_cases hfit : offset + length ≤ stored.length
    · rw [if_pos hfit]
      constructor
      · rintro ⟨⟩
        exact ⟨rfl, hfit⟩
      · rintro ⟨⟨⟩, -⟩
        rfl
    · rw [if_neg hfit]
      constructor
      · rintro ⟨⟩
      · rintro ⟨⟨⟩, hfit'⟩
        exact absurd hfit' hfit

-- Reads and writes are what the check gives, carried on by a function.
theorem map_checked_eq_ok_iff {α : Type} {f : List UInt8 → α} {r : Region} {offset length : Nat}
    {result : α} :
    (r.checked offset length).map f = .ok result ↔
      ∃ bytes, r.contents = some bytes ∧ offset + length ≤ bytes.length ∧ result = f bytes := by
  cases h : r.checked offset length with
  | error cause =>
    constructor
    · rintro ⟨⟩
    · rintro ⟨bytes, hcontents, hfit, -⟩
      cases h.symm.trans (checked_eq_ok_iff.mpr ⟨hcontents, hfit⟩)
  | ok bytes =>
    obtain ⟨hcontents, hfit⟩ := checked_eq_ok_iff.mp h
    constructor
    · rintro ⟨⟩
      exact ⟨bytes, hcontents, hfit, rfl⟩
    · rintro ⟨bytes', hcontents', -, rfl⟩
      cases hcontents.symm.trans hcontents'
      rfl

theorem read_eq_ok_iff {r : Region} {offset length : Nat} {data : List UInt8} :
    r.read offset length = .ok data ↔
      ∃ bytes, r.contents = some bytes ∧ offset + length ≤ bytes.length ∧
        data = slice bytes offset length :=
  map_checked_eq_ok_iff

theorem write_eq_ok_iff {r r' : Region} {offset : Nat} {data : List UInt8} :
    r.write offset data = .ok r' ↔
      ∃ bytes, r.contents = some bytes ∧ offset + data.length ≤ bytes.length ∧
        r' = ⟨some (splice bytes offset data)⟩ :=
  map_checked_eq_ok_iff

theorem read_some (bytes : List UInt8) (offset length : Nat) :
    (⟨some bytes⟩ : Region).read offset length =
      if offset + length ≤ bytes.length then .ok (slice bytes offset length)
      else .error (.outOfBounds offset length bytes.length) := by
  unfold read checked
  dsimp only
  split <;> rfl

theorem write_some (bytes : List UInt8) (offset : Nat) (data : List UInt8) :
    (⟨some bytes⟩ : Region).write offset data =
      if offset + data.length ≤ bytes.length then .ok ⟨some (splice bytes offset data)⟩
      else .error (.outOfBounds offset data.length bytes.length) := by
  unfold write checked
  dsimp only
  split <;> rfl

end Region

end BufferKeeper
