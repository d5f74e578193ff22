/-!
# Little-endian words

A word of a packet header is a fixed number of bytes, least significant first. `ofNatLE` writes a
natural number into `width` bytes and `toNatLE` reads it back. Main statements: the written form
has exactly `width` bytes, `toNatLE (ofNatLE width n)` is `n` modulo `wordCount width`, and writing
what was read gives the same bytes, so the two are inverse to each other on words of one width.
-/

namespace BufferKeeper.Bytes

/-! ## 1. Writing and reading -/

/-- The `width` bytes of `n`, least significant first; digits beyond `width` are dropped. -/
def ofNatLE : Nat → Nat → List UInt8
  | 0, _ => []
  | width + 1, n => UInt8.ofNat n :: ofNatLE width (n / 256)

def toNatLE : List UInt8 → Nat
  | [] => 0
  | b :: bs => b.toNat + 256 * toNatLE bs

/-- How many words of `width` bytes there are. -/
def wordCount : Nat → Nat
  | 0 => 1
  | width + 1 => 256 * wordCount width

/-! ## 2. Round trips -/

@[simp] theorem length_ofNatLE (width n : Nat) : (ofNatLE width n).length = width := by
  induction width generalizing n with
  | zero => rfl
  | succ width ih => simp [ofNatLE, ih]

theorem toNatLE_ofNatLE (width n : Nat) : toNatLE (ofNatLE width n) = n % wordCount width := by
  induction width generalizing n with
  | zero => rw [wordCount, Nat.mod_one, ofNatLE, toNatLE]
  | succ width ih =>
    rw [ofNatLE, toNatLE, ih, wordCount, Nat.mod_mul]
    rfl

theorem toNatLE_lt (bs : List UInt8) : toNatLE bs < wordCount bs.length := by
  induction bs with
  | nil => exact Nat.one_pos
  | cons b bs ih =>
    have hb : b.toNat < 256 := b.toNat_lt
    rw [toNatLE, List.length_cons, wordCount]
    omega

theorem ofNatLE_toNatLE (bs : List UInt8) : ofNatLE bs.length (toNatLE bs) = bs := by
  induction bs with
  | nil => rfl
  | cons b bs ih =>
    have hb : b.toNat < 256 := b.toNat_lt
    have hdiv : (b.toNat + 256 * toNatLE bs) / 256 = toNatLE bs := by omega
    have hhead : UInt8.ofNat (b.toNat + 256 * toNatLE bs) = b := by
      apply UInt8.toNat.inj
      simp only [UInt8.toNat_ofNat']
      omega
    rw [List.length_cons, toNatLE, ofNatLE, hdiv, hhead, ih]

end BufferKeeper.Bytes
