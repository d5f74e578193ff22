import Mathlib.Algebra.GroupWithZero.Nat
import BufferKeeper.Region

/-!
# Access piece by piece

A range can be read or written whole, or in pieces that follow one another. Both ways succeed for the
same ranges and with the same result, wherever the cuts are: the last piece ends where the whole range
does, and a write leaves the length as it was for the pieces after it. Pieces may be empty, but there
must be one, since no access at all succeeds even where nothing is stored.
-/

namespace BufferKeeper

open Bytes

/-! ## 1. Two adjacent ranges -/

theorem Bytes.slice_add (xs : List UInt8) (start count more : Nat) :
    slice xs start (count + more) = slice xs start count ++ slice xs (start + count) more := by
  rw [slice, slice, slice, List.take_add, List.drop_drop]

theorem Bytes.splice_append {xs ys zs : List UInt8} {start : Nat}
    (h : start + (ys ++ zs).length ≤ xs.length) :
    splice xs start (ys ++ zs) = splice (splice xs start ys) (start + ys.length) zs := by
  rw [List.length_append] at h
  have hfirst : start + ys.length ≤ xs.length := by omega
  have hsecond : start + ys.length + zs.length ≤ (splice xs start ys).length := by
    rw [length_splice hfirst]
    omega
  apply List.ext_getElem?
  intro i
  rw [getElem?_splice (by rw [List.length_append]; omega), getElem?_splice hsecond,
    getElem?_splice hfirst, List.length_append]
  by_cases hys : start ≤ i ∧ i < start + ys.length
  · rw [if_pos (by omega), if_neg (by omega), if_pos hys, List.getElem?_append_left (by omega)]
  · by_cases hzs : start + ys.length ≤ i ∧ i < start + ys.length + zs.length
    · rw [if_pos (by omega), if_pos hzs, List.getElem?_append_right (by omega)]
      congr 1
      omega
    · rw [if_neg (by omega), if_neg hzs, if_neg hys]

namespace Region

variable {r after : Region} {offset : Nat}

theorem read_add_eq_ok_iff {length more : Nat} {data : List UInt8} :
    r.read offset (length + more) = .ok data ↔
      ∃ part rest, r.read offset length = .ok part ∧ r.read (offset + length) more = .ok rest ∧
        data = part ++ rest := by
  simp only [read_eq_ok_iff]
  constructor
  · rintro ⟨bytes, hcontents, hfit, rfl⟩
    exact ⟨_, _, ⟨bytes, hcontents, by omega, rfl⟩, ⟨bytes, hcontents, by omega, rfl⟩,
      slice_add ..⟩
  · rintro ⟨_, _, ⟨bytes, hcontents, -, rfl⟩, ⟨bytes', hcontents', hfit, rfl⟩, rfl⟩
    cases hcontents.symm.trans hcontents'
    exact ⟨bytes, hcontents, by omega, (slice_add ..).symm⟩

theorem write_append_eq_ok_iff {piece rest : List UInt8} :
    r.write offset (piece ++ rest) = .ok after ↔
      ∃ between, r.write offset piece = .ok between ∧
        between.write (offset + piece.length) rest = .ok after := by
  simp only [write_eq_ok_iff]
  constructor
  · rintro ⟨bytes, hcontents, hfit, rfl⟩
    rw [splice_append hfit]
    rw [List.length_append] at hfit
    have hfirst : offset + piece.length ≤ bytes.length := by omega
    refine ⟨_, ⟨bytes, hcontents, hfirst, rfl⟩, _, rfl, ?_, rfl⟩
    rw [length_splice hfirst]
    omega
  · rintro ⟨_, ⟨bytes, hcontents, hfirst, rfl⟩, _, ⟨⟩, hsecond, rfl⟩
    rw [length_splice hfirst] at hsecond
    have hfit : offset + (piece ++ rest).length ≤ bytes.length := by
      rw [List.length_append]
      omega
    exact ⟨bytes, hcontents, hfit, by rw [splice_append hfit]⟩

/-! ## 2. Any number of pieces -/

theorem bind_eq_ok_iff {ε α β : Type} {x : Except ε α} {f : α → Except ε β} {b : β} :
    (x >>= f) = .ok b ↔ ∃ a, x = .ok a ∧ f a = .ok b := by
  cases x with
  | error cause =>
    constructor
    · rintro ⟨⟩
    · rintro ⟨_, ⟨⟩, -⟩
  | ok a =>
    constructor
    · intro h
      exact ⟨a, rfl, h⟩
    · rintro ⟨_, ⟨⟩, h⟩
      exact h

/-- The stored bytes of ranges that follow one another from `offset`, each read by itself. -/
def readPieces (r : Region) (offset : Nat) : List Nat → Except RangeError (List (List UInt8))
  | [] => .ok []
  | length :: lengths => do
    let part ← r.read offset length
    let parts ← r.readPieces (offset + length) lengths
    return part :: parts

/-- The region with pieces written one after another, each where the one before it ended. -/
def writePieces (r : Region) (offset : Nat) : List (List UInt8) → Except RangeError Region
  | [] => .ok r
  | piece :: pieces => do
    let between ← r.write offset piece
    between.writePieces (offset + piece.length) pieces

theorem readPieces_cons_eq_ok_iff {length : Nat} {lengths : List Nat} {parts : List (List UInt8)} :
    r.readPieces offset (length :: lengths) = .ok parts ↔
      ∃ part rest, r.read offset length = .ok part ∧
        r.readPieces (offset + length) lengths = .ok rest ∧ parts = part :: rest := by
  rw [readPieces, bind_eq_ok_iff]
  constructor
  · rintro ⟨part, hpart, hlater⟩
    obtain ⟨rest, hrest, ⟨⟩⟩ := bind_eq_ok_iff.mp hlater
    exact ⟨part, rest, hpart, hrest, rfl⟩
  · rintro ⟨part, rest, hpart, hrest, rfl⟩
    exact ⟨part, hpart, bind_eq_ok_iff.mpr ⟨rest, hrest, rfl⟩⟩

theorem writePieces_cons_eq_ok_iff {piece : List UInt8} {pieces : List (List UInt8)} :
    r.writePieces offset (piece :: pieces) = .ok after ↔
      ∃ between, r.write offset piece = .ok between ∧
        between.writePieces (offset + piece.length) pieces = .ok after :=
  bind_eq_ok_iff

-- The induction is on the later pieces; that there is a first one makes the range begin inside.
theorem read_sum_eq_ok_iff (r : Region) (offset length : Nat) (lengths : List Nat)
    (data : List UInt8) :
    r.read offset (length + lengths.sum) = .ok data ↔
      ∃ parts, r.readPieces offset (length :: lengths) = .ok parts ∧ data = parts.flatten := by
  induction lengths generalizing offset length data with
  | nil =>
    simp only [readPieces_cons_eq_ok_iff]
    constructor
    · intro hread
      exact ⟨_, ⟨data, [], hread, rfl, rfl⟩, (List.append_nil data).symm⟩
    · rintro ⟨_, ⟨part, _, hpart, ⟨⟩, rfl⟩, rfl⟩
      rw [List.flatten_cons, List.flatten_nil, List.append_nil]
      exact hpart
  | cons next lengths ih =>
    rw [List.sum_cons, read_add_eq_ok_iff]
    constructor
    · rintro ⟨part, rest, hpart, hrest, rfl⟩
      obtain ⟨parts, hparts, rfl⟩ := (ih (offset + length) next rest).mp hrest
      exact ⟨_, readPieces_cons_eq_ok_iff.mpr ⟨part, parts, hpart, hparts, rfl⟩, rfl⟩
    · rintro ⟨_, hall, rfl⟩
      obtain ⟨part, parts, hpart, hparts, rfl⟩ := readPieces_cons_eq_ok_iff.mp hall
      exact ⟨part, _, hpart, (ih (offset + length) next _).mpr ⟨parts, hparts, rfl⟩, rfl⟩

theorem write_flatten_eq_ok_iff (r : Region) (offset : Nat) (piece : List UInt8)
    (pieces : List (List UInt8)) (after : Region) :
    r.write offset (piece :: pieces).flatten = .ok after ↔
      r.writePieces offset (piece :: pieces) = .ok after := by
  induction pieces generalizing r offset piece with
  | nil =>
    rw [List.flatten_cons, List.flatten_nil, List.append_nil, writePieces_cons_eq_ok_iff]
    constructor
    · intro hwrite
      exact ⟨after, hwrite, rfl⟩
    · rintro ⟨between, hwrite, ⟨⟩⟩
      exact hwrite
  | cons next pieces ih =>
    rw [List.flatten_cons, write_append_eq_ok_iff, writePieces_cons_eq_ok_iff]
    simp only [ih]

end Region

/-! ## 3. The law -/

/-- Pieces that follow one another from `offset`, at least one, are read or written one by one exactly
when their whole range is read or written at once. What is read is the pieces put together, and what
is written leaves the same region. -/
theorem pieces_are_the_whole (r : Region) (offset : Nat) :
    (∀ lengths, lengths ≠ [] → ∀ data,
      r.read offset lengths.sum = .ok data ↔
        ∃ parts, r.readPieces offset lengths = .ok parts ∧ data = parts.flatten) ∧
    (∀ pieces, pieces ≠ [] → ∀ after,
      r.write offset pieces.flatten = .ok after ↔ r.writePieces offset pieces = .ok after) := by
  constructor
  · intro lengths hsome data
    obtain ⟨length, lengths, rfl⟩ := List.exists_cons_of_ne_nil hsome
    rw [List.sum_cons]
    exact r.read_sum_eq_ok_iff offset length lengths data
  · intro pieces hsome after
    obtain ⟨piece, pieces, rfl⟩ := List.exists_cons_of_ne_nil hsome
    exact r.write_flatten_eq_ok_iff offset piece pieces after

/-- Of five bytes the last three are read in two pieces with an empty one behind them, where the region
ends, and are written in two pieces; one byte further they are not read. -/
theorem pieces_up_to_the_end :
    let r : Region := ⟨some [1, 2, 3, 4, 5]⟩
    (∃ parts, r.readPieces 2 [1, 2, 0] = .ok parts ∧ parts.flatten = [3, 4, 5]) ∧
      (∀ parts, r.readPieces 3 [1, 2, 0] ≠ .ok parts) ∧
      r.writePieces 2 [[7], [8, 9]] = .ok ⟨some [1, 2, 7, 8, 9]⟩ := by
  intro r
  have hinside := pieces_are_the_whole r 2
  refine ⟨?_, ?_, ?_⟩
  · have hwhole : r.read 2 [1, 2, 0].sum = .ok [3, 4, 5] := rfl
    obtain ⟨parts, hparts, hdata⟩ := (hinside.1 [1, 2, 0] (by decide) _).mp hwhole
    exact ⟨parts, hparts, hdata.symm⟩
  · intro parts hparts
    have houtside : r.read 3 [1, 2, 0].sum = .error (.outOfBounds 3 3 5) := rfl
    have hwhole := ((pieces_are_the_whole r 3).1 [1, 2, 0] (by decide) _).mpr ⟨parts, hparts, rfl⟩
    cases houtside.symm.trans hwhole
  · exact (hinside.2 [[7], [8, 9]] (by decide) _).mp rfl

end BufferKeeper
