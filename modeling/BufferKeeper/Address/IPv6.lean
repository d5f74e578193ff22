import BufferKeeper.Address.IPv4

/-!
# IPv6 addresses

Eight 16-bit groups, written in hexadecimal with colons between them. On reading, `::` may stand
once for one or more zero groups, and the last two groups may be written as an IPv4 address. The
written form is in lower case, puts `::` for the first of the longest runs of at least two zero
groups, and shows the addresses of `::ffff:0:0/96` with an IPv4 tail.
-/

namespace BufferKeeper.Address

open Text

structure IPv6 where
  groups : List UInt16
  length_groups : groups.length = 8

namespace IPv6

/-! ## 1. Writing -/

def joined (groups : List UInt16) : String :=
  String.intercalate ":" (groups.map fun g => hexDigits g.toNat)

/-- The length of the run of zero groups that starts at position `start`. -/
def zeroRun (groups : List UInt16) (start : Nat) : Nat :=
  ((groups.drop start).takeWhile (· == 0)).length

/-- Position and length of the first of the longest runs of zero groups. -/
def longestZeroRun (groups : List UInt16) : Nat × Nat :=
  (List.range groups.length).foldl
    (fun best start =>
      if best.2 < zeroRun groups start then (start, zeroRun groups start) else best)
    (0, 0)

def compressed (groups : List UInt16) : String :=
  let (start, length) := longestZeroRun groups
  if 2 ≤ length then
    joined (groups.take start) ++ "::" ++ joined (groups.drop (start + length))
  else
    joined groups

/-- The IPv4 address in an address of `::ffff:0:0/96`. -/
def mappedIPv4? (ip : IPv6) : Option IPv4 :=
  match ip.groups with
  | [0, 0, 0, 0, 0, 0xffff, high, low] => some (IPv4.ofGroups high low)
  | _ => none

def render (ip : IPv6) : String :=
  match ip.mappedIPv4? with
  | some tail => "::ffff:" ++ tail.render
  | none => compressed ip.groups

/-! ## 2. Reading groups -/

structure Series where
  groups : List UInt16
  endsInIPv4 : Bool
  rest : List Char

/-- One group: one to four hexadecimal digits. -/
def readGroup : Reader UInt16 := fun s =>
  let (digits, rest) := digitRun 16 s
  if digits ≠ [] ∧ digits.length ≤ 4 then
    some (UInt16.ofNat (valueOf 16 digits), rest)
  else
    none

def skipSeparator (isFirst : Bool) (s : List Char) : Option (List Char) :=
  if isFirst then some s else skipChar ':' s

/-- As many groups as there are, at most `room`. An IPv4 address counts as two groups and ends the
series. -/
def readSeries : (room : Nat) → (isFirst : Bool) → List Char → Series
  | 0, _, s => ⟨[], false, s⟩
  | room + 1, isFirst, s =>
    let tail? := if 1 ≤ room then (skipSeparator isFirst s).bind IPv4.read else none
    match tail? with
    | some (tail, rest) => ⟨tail.groups, true, rest⟩
    | none =>
      match (skipSeparator isFirst s).bind readGroup with
      | none => ⟨[], false, s⟩
      | some (group, rest) =>
        let later := readSeries room false rest
        { later with groups := group :: later.groups }

theorem length_readSeries_le (room : Nat) (isFirst : Bool) (s : List Char) :
    (readSeries room isFirst s).groups.length ≤ room := by
  induction room generalizing isFirst s with
  | zero => simp [readSeries]
  | succ room ih =>
    rw [readSeries]
    split
    · next h =>
      split at h
      · simpa [IPv4.groups] using by omega
      · simp at h
    · split
      · simp
      · simpa using ih ..

/-! ## 3. Reading addresses -/

/-- The groups of `front`, then zeros, then those of `back`, eight in all. -/
def filled (front back : List UInt16) : List UInt16 :=
  front ++ List.replicate (8 - front.length - back.length) 0 ++ back

def read : Reader IPv6 := fun s =>
  let front := readSeries 8 true s
  if h : front.groups.length = 8 then
    some (⟨front.groups, h⟩, front.rest)
  else if front.endsInIPv4 then
    none
  else
    match front.rest with
    | ':' :: ':' :: rest =>
      let back := readSeries (7 - front.groups.length) true rest
      some (⟨filled front.groups back.groups, by
        have hfront : front.groups.length ≤ 8 := length_readSeries_le 8 true s
        have hback : back.groups.length ≤ 7 - front.groups.length :=
          length_readSeries_le (7 - front.groups.length) true rest
        simp only [filled, List.length_append, List.length_replicate]
        omega⟩, back.rest)
    | _ => none

end IPv6

end BufferKeeper.Address
