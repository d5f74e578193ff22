/-!
# Overwriting part of a byte list

`splice xs at ys` puts `ys` over the bytes of `xs` that start at position `at`. When `ys` fits
(`at + ys.length ≤ xs.length`) the length stays (`length_splice`), the spliced range reads back as
`ys` (`slice_splice`), and every byte outside it is the old one (`getElem?_splice`).
-/

namespace BufferKeeper.Bytes

/-! ## 1. Slices and splices -/

def slice (xs : List UInt8) (start count : Nat) : List UInt8 :=
  (xs.drop start).take count

def splice (xs : List UInt8) (start : Nat) (ys : List UInt8) : List UInt8 :=
  xs.take start ++ ys ++ xs.drop (start + ys.length)

/-! ## 2. Lengths -/

theorem length_slice {xs : List UInt8} {start count : Nat} (h : start + count ≤ xs.length) :
    (slice xs start count).length = count := by
  simp only [slice, List.length_take, List.length_drop]
  omega

theorem length_splice {xs ys : List UInt8} {start : Nat} (h : start + ys.length ≤ xs.length) :
    (splice xs start ys).length = xs.length := by
  simp only [splice, List.length_append, List.length_take, List.length_drop]
  omega

theorem slice_zero_length (xs : List UInt8) : slice xs 0 xs.length = xs := by
  rw [slice, List.drop_zero, List.take_length]

/-! ## 3. Single bytes -/

theorem getElem?_slice (xs : List UInt8) (start count i : Nat) :
    (slice xs start count)[i]? = if i < count then xs[start + i]? else none := by
  rw [slice, List.getElem?_take, List.getElem?_drop]

theorem getElem?_splice {xs ys : List UInt8} {start : Nat}
    (h : start + ys.length ≤ xs.length) (i : Nat) :
    (splice xs start ys)[i]? =
      if start ≤ i ∧ i < start + ys.length then ys[i - start]? else xs[i]? := by
  have hstart : (xs.take start).length = start := by rw [List.length_take]; omega
  unfold splice
  by_cases h1 : i < start
  · rw [List.append_assoc, List.getElem?_append_left (by omega), List.getElem?_take_of_lt h1,
      if_neg (by omega)]
  · by_cases h2 : i < start + ys.length
    · rw [List.append_assoc, List.getElem?_append_right (by omega), hstart,
        List.getElem?_append_left (by omega), if_pos ⟨by omega, h2⟩]
    · rw [List.getElem?_append_right (by rw [List.length_append]; omega), List.length_append,
        hstart, List.getElem?_drop, if_neg (by omega)]
      congr 1
      omega

theorem slice_congr {xs ys : List UInt8} {start count : Nat}
    (h : ∀ i, start ≤ i → i < start + count → xs[i]? = ys[i]?) :
    slice xs start count = slice ys start count := by
  apply List.ext_getElem?
  intro i
  rw [getElem?_slice, getElem?_slice]
  by_cases hi : i < count
  · rw [if_pos hi, if_pos hi, h _ (Nat.le_add_right _ _) (by omega)]
  · rw [if_neg hi, if_neg hi]

-- Of two splices over the same range only the second is seen.
theorem splice_splice {xs ys zs : List UInt8} {start : Nat} (h : start + ys.length ≤ xs.length)
    (hlen : zs.length = ys.length) : splice (splice xs start ys) start zs = splice xs start zs := by
  have hfit : start + zs.length ≤ xs.length := by omega
  have hfit' : start + zs.length ≤ (splice xs start ys).length := by rw [length_splice h]; exact hfit
  apply List.ext_getElem?
  intro i
  rw [getElem?_splice hfit', getElem?_splice hfit]
  by_cases hi : start ≤ i ∧ i < start + zs.length
  · rw [if_pos hi, if_pos hi]
  · rw [if_neg hi, if_neg hi, getElem?_splice h, if_neg (by omega)]

-- Bytes put back where they were taken from change nothing.
theorem splice_slice {xs : List UInt8} {start count : Nat} (h : start + count ≤ xs.length) :
    splice xs start (slice xs start count) = xs := by
  have hlen : (slice xs start count).length = count := length_slice h
  apply List.ext_getElem?
  intro i
  rw [getElem?_splice (by rw [hlen]; exact h), hlen, getElem?_slice]
  by_cases hi : start ≤ i ∧ i < start + count
  · rw [if_pos hi, if_pos (by omega)]
    congr 1
    omega
  · rw [if_neg hi]

theorem slice_splice {xs ys : List UInt8} {start : Nat} (h : start + ys.length ≤ xs.length) :
    slice (splice xs start ys) start ys.length = ys := by
  have hstart : (xs.take start).length = start := by rw [List.length_take]; omega
  unfold slice splice
  rw [List.append_assoc, List.drop_append_of_le_length (by omega)]
  simp [List.drop_of_length_le, hstart]

end BufferKeeper.Bytes
