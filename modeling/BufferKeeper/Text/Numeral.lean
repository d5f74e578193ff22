/-!
# Numerals

Numbers are shown in decimal or as lower-case hexadecimal after `0x`, in both cases without
leading zeros. Reading goes the other way: `ofDigits?` is the value of a non-empty run of digits.
-/

namespace BufferKeeper.Text

/-! ## 1. Writing -/

def decimal (n : Nat) : String :=
  String.ofList (Nat.toDigits 10 n)

def hexDigits (n : Nat) : String :=
  String.ofList (Nat.toDigits 16 n)

def hex (n : Nat) : String :=
  "0x" ++ hexDigits n

def signedDecimal : Int → String
  | .ofNat n => decimal n
  | .negSucc n => "-" ++ decimal (n + 1)

/-! ## 2. Reading -/

/-- Letters count in either case. -/
def digitValue? (c : Char) : Option Nat :=
  if '0' ≤ c ∧ c ≤ '9' then some (c.toNat - '0'.toNat)
  else if 'a' ≤ c ∧ c ≤ 'f' then some (c.toNat - 'a'.toNat + 10)
  else if 'A' ≤ c ∧ c ≤ 'F' then some (c.toNat - 'A'.toNat + 10)
  else none

def isDigitIn (base : Nat) (c : Char) : Bool :=
  match digitValue? c with
  | some v => v < base
  | none => false

/-- The number written by digits of the given base, most significant first. -/
def valueOf (base : Nat) (digits : List Char) : Nat :=
  digits.foldl (fun acc c => acc * base + (digitValue? c).getD 0) 0

/-- The value of a text that is one or more digits of the given base and nothing else. -/
def ofDigits? (base : Nat) (digits : List Char) : Option Nat :=
  if digits ≠ [] ∧ digits.all (isDigitIn base) then some (valueOf base digits) else none

/-- The value of a decimal integer: an optional sign, then one or more digits. -/
def ofSigned? : List Char → Option Int
  | '+' :: digits => (ofDigits? 10 digits).map Int.ofNat
  | '-' :: digits => (ofDigits? 10 digits).map fun n => -Int.ofNat n
  | digits => (ofDigits? 10 digits).map Int.ofNat

end BufferKeeper.Text
