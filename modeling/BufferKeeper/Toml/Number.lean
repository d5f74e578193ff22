import BufferKeeper.Text.Reader
import BufferKeeper.Toml.Value

/-!
# TOML numbers

Integers are decimal with an optional sign and no leading zero, or hexadecimal, octal or binary
after `0x`, `0o` or `0b` without a sign; they fit into 64 bits with sign. Floats have a fraction, an
exponent or both, or are `inf` or `nan`. A single underscore may stand between two digits.

A float is refused when it is positive and too large, that is, when the nearest of the 64-bit
floating-point values is infinite. `reachesInfinity` decides this in exact arithmetic.
-/

namespace BufferKeeper.Toml

open Text

/-! ## 1. Digits -/

/-- Digits of the given base with single underscores between them, read from behind a first
digit; the underscores are left out. -/
def readMoreDigits (base : Nat) : Reader (List Char)
  | [] => some ([], [])
  | c :: rest =>
    if isDigitIn base c then
      (readMoreDigits base rest).map fun (digits, behind) => (c :: digits, behind)
    else if c = '_' then
      match rest with
      | [] => none
      | d :: rest =>
        if isDigitIn base d then
          (readMoreDigits base rest).map fun (digits, behind) => (d :: digits, behind)
        else
          none
    else
      some ([], c :: rest)

def readDigits (base : Nat) : Reader (List Char)
  | [] => none
  | c :: rest =>
    if isDigitIn base c then
      (readMoreDigits base rest).map fun (digits, behind) => (c :: digits, behind)
    else
      none

def readSign : List Char → Bool × List Char
  | '-' :: rest => (true, rest)
  | '+' :: rest => (false, rest)
  | s => (false, s)

/-- The digits of a decimal integer: zero alone, or digits that do not start with zero. -/
def readWhole : Reader (List Char)
  | '0' :: rest => some (['0'], rest)
  | s => readDigits 10 s

/-! ## 2. Integers -/

def int64? (n : Int) : Option Int :=
  if -9223372036854775808 ≤ n ∧ n ≤ 9223372036854775807 then some n else none

def readDecimal : Reader Int := fun s => do
  let (negative, s) := readSign s
  let (digits, s) ← readWhole s
  let value := Int.ofNat (valueOf 10 digits)
  let value ← int64? (if negative then -value else value)
  return (value, s)

def readBased (base : Nat) : Reader Int := fun s => do
  let (digits, s) ← readDigits base s
  let value ← int64? (Int.ofNat (valueOf base digits))
  return (value, s)

def readInteger : Reader Int
  | '0' :: 'x' :: rest => readBased 16 rest
  | '0' :: 'o' :: rest => readBased 8 rest
  | '0' :: 'b' :: rest => readBased 2 rest
  | s => readDecimal s

/-! ## 3. Floats -/

/-- Half a unit above the largest finite 64-bit floating-point value. -/
def infinityBound : Nat := 1 <<< 1024 - 1 <<< 970

/-- Whether the number with these decimal digits, times ten to the given power, is nearest to
infinity. The powers of ten are computed only where the number of digits leaves it open. -/
def reachesInfinity (digits : List Char) (exponent : Int) : Bool :=
  let significant := digits.dropWhile (· = '0')
  let magnitude := Int.ofNat significant.length + exponent
  if significant = [] ∨ magnitude < 300 then false
  else if 320 < magnitude then true
  else
    infinityBound * Nat.pow 10 (-exponent).toNat ≤
      valueOf 10 significant * Nat.pow 10 exponent.toNat

def readFraction : Reader (List Char) := fun s => do
  let s ← skipChar '.' s
  readDigits 10 s

def readExponent : Reader Int
  | [] => none
  | c :: s =>
    if c = 'e' ∨ c = 'E' then
      let (negative, s) := readSign s
      (readDigits 10 s).map fun (digits, s) =>
        let value := Int.ofNat (valueOf 10 digits)
        (if negative then -value else value, s)
    else
      none

def readDigitFloat : Reader Value := fun s => do
  let (negative, behindSign) := readSign s
  let (whole, behindWhole) ← readWhole behindSign
  let fraction := readFraction behindWhole
  let (fractionDigits, behindFraction) := fraction.getD ([], behindWhole)
  let exponent := readExponent behindFraction
  let (power, rest) := exponent.getD (0, behindFraction)
  let digits := whole ++ fractionDigits
  let scale := power - fractionDigits.length
  if (fraction.isSome ∨ exponent.isSome) ∧ (negative ∨ ¬reachesInfinity digits scale) then
    some (.float (.finite negative digits scale), rest)
  else
    none

def readNamedFloat : Reader Value := fun s =>
  let (negative, name) := readSign s
  match skipChars ['i', 'n', 'f'] name with
  | some rest => some (.float (.infinite negative), rest)
  | none =>
    (skipChars ['n', 'a', 'n'] name).map fun rest => (.float (.notNumber negative), rest)

end BufferKeeper.Toml
