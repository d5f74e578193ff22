import BufferKeeper.Text.Reader

/-!
# IPv4 addresses

Four numbers from 0 to 255, written in decimal with dots between them. A number has at most three
digits and no leading zero, so that each address has one written form.
-/

namespace BufferKeeper.Address

open Text

structure IPv4 where
  first : UInt8
  second : UInt8
  third : UInt8
  fourth : UInt8
  deriving DecidableEq

namespace IPv4

/-! ## 1. Writing -/

def render (ip : IPv4) : String :=
  decimal ip.first.toNat ++ "." ++ decimal ip.second.toNat ++ "."
    ++ decimal ip.third.toNat ++ "." ++ decimal ip.fourth.toNat

def groups (ip : IPv4) : List UInt16 :=
  [ip.first.toUInt16 * 256 + ip.second.toUInt16, ip.third.toUInt16 * 256 + ip.fourth.toUInt16]

def ofGroups (high low : UInt16) : IPv4 :=
  ⟨(high / 256).toUInt8, high.toUInt8, (low / 256).toUInt8, low.toUInt8⟩

/-! ## 2. Reading -/

def readOctet : Reader UInt8 := fun s =>
  let (digits, rest) := digitRun 10 s
  let leadingZero := digits.head? = some '0' ∧ 1 < digits.length
  if digits ≠ [] ∧ digits.length ≤ 3 ∧ ¬leadingZero ∧ valueOf 10 digits ≤ 255 then
    some (UInt8.ofNat (valueOf 10 digits), rest)
  else
    none

def read : Reader IPv4 := fun s => do
  let (first, s) ← readOctet s
  let s ← skipChar '.' s
  let (second, s) ← readOctet s
  let s ← skipChar '.' s
  let (third, s) ← readOctet s
  let s ← skipChar '.' s
  let (fourth, s) ← readOctet s
  return (⟨first, second, third, fourth⟩, s)

end IPv4

end BufferKeeper.Address
