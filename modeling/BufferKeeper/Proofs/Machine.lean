import Mathlib.Algebra.Group.Nat.Defs
import BufferKeeper.Keeper

/-!
# The keeper on a machine

On a machine the steps of handling are partial: a slice must lie inside its bytes, a copy needs as
many bytes as it replaces, sums and conversions must stay below the index size. Here handling is
written out in steps that trap where their operands do not allow them. Offsets, lengths and sizes
meet as 64-bit words, and a word becomes an index of `bits` bits only where bytes are touched.
-/

namespace BufferKeeper

open Bytes Journal

/-! ## 1. Steps that may trap -/

/-- A step that its operands do not allow. -/
inductive Trap where
  | sliceStart (start stop : Nat)
  | sliceEnd (stop size : Nat)
  -- bytes are copied over another number of bytes
  | copyLength (target source : Nat)
  -- a number is read from too few bytes
  | numberEnd (width remaining : Nat)
  | sumTooLarge (a b : Nat)
  | differenceNegative (a b : Nat)
  | indexTooLarge (word : UInt64)
  deriving DecidableEq

namespace Machine

/-- The bytes from position `start` up to `stop`. -/
def between (xs : List UInt8) (start stop : Nat) : Except Trap (List UInt8) :=
  if start ≤ stop then
    if stop ≤ xs.length then .ok (slice xs start (stop - start))
    else .error (.sliceEnd stop xs.length)
  else
    .error (.sliceStart start stop)

def upTo (xs : List UInt8) (stop : Nat) : Except Trap (List UInt8) :=
  between xs 0 stop

def onward (xs : List UInt8) (start : Nat) : Except Trap (List UInt8) :=
  between xs start xs.length

-- A slice that says so when it is not there, instead of trapping.
def between? (xs : List UInt8) (start stop : Nat) : Option (List UInt8) :=
  if start ≤ stop ∧ stop ≤ xs.length then some (slice xs start (stop - start)) else none

/-- `xs` with `ys` copied over the bytes from position `start` up to `stop`. -/
def copyInto (xs : List UInt8) (start stop : Nat) (ys : List UInt8) :
    Except Trap (List UInt8) := do
  let target ← between xs start stop
  if target.length = ys.length then return splice xs start ys
  else throw (.copyLength target.length ys.length)

/-- The number in the first `width` bytes, least significant first, and the bytes behind it. -/
def getLE (width : Nat) (xs : List UInt8) : Except Trap (Nat × List UInt8) :=
  if width ≤ xs.length then .ok (toNatLE (xs.take width), xs.drop width)
  else .error (.numberEnd width xs.length)

def add (bits a b : Nat) : Except Trap Nat :=
  if a + b < 2 ^ bits then .ok (a + b) else .error (.sumTooLarge a b)

def sub (a b : Nat) : Except Trap Nat :=
  if b ≤ a then .ok (a - b) else .error (.differenceNegative a b)

def index (bits : Nat) (word : UInt64) : Except Trap Nat :=
  if word.toNat < 2 ^ bits then .ok word.toNat else .error (.indexTooLarge word)

-- A sum of words that says so when it is too large, instead of trapping.
def sum? (a b : UInt64) : Option UInt64 :=
  if a.toNat + b.toNat < UInt64.size then some (a + b) else none

section Steps

variable {xs ys : List UInt8} {start stop width bits a b : Nat} {v w : UInt64}

theorem ok_bind {α β : Type} (x : α) (f : α → Except Trap β) : (Except.ok x >>= f) = f x := rfl

theorem between_of_le (h : start ≤ stop) (h' : stop ≤ xs.length) :
    between xs start stop = .ok (slice xs start (stop - start)) := by
  rw [between, if_pos h, if_pos h']

theorem upTo_of_le (h : stop ≤ xs.length) : upTo xs stop = .ok (xs.take stop) :=
  between_of_le (Nat.zero_le stop) h

theorem onward_of_le (h : start ≤ xs.length) : onward xs start = .ok (xs.drop start) := by
  have hall : slice xs start (xs.length - start) = xs.drop start := by
    rw [slice, ← List.length_drop, List.take_length]
  rw [onward, between_of_le h (Nat.le_refl _), hall]

theorem copyInto_of_fit (h : start + ys.length ≤ xs.length) :
    copyInto xs start (start + ys.length) ys = .ok (splice xs start ys) := by
  have hlen : (slice xs start (start + ys.length - start)).length = ys.length := by
    rw [Nat.add_sub_cancel_left]
    exact length_slice h
  rw [copyInto, between_of_le (Nat.le_add_right _ _) h, ok_bind, if_pos hlen]
  rfl

theorem getLE_of_le (h : width ≤ xs.length) :
    getLE width xs = .ok (toNatLE (xs.take width), xs.drop width) := if_pos h

theorem add_of_lt (h : a + b < 2 ^ bits) : add bits a b = .ok (a + b) := if_pos h

theorem sub_of_le (h : b ≤ a) : sub a b = .ok (a - b) := if_pos h

theorem index_of_lt (h : w.toNat < 2 ^ bits) : index bits w = .ok w.toNat := if_pos h

theorem sum?_of_lt (h : v.toNat + w.toNat < UInt64.size) : sum? v w = some (v + w) := if_pos h

theorem sum?_of_not_lt (h : ¬v.toNat + w.toNat < UInt64.size) : sum? v w = none := if_neg h

theorem toNat_add_of_lt (h : v.toNat + w.toNat < UInt64.size) :
    (v + w).toNat = v.toNat + w.toNat := by
  rw [UInt64.toNat_add]
  exact Nat.mod_eq_of_lt h

-- A count of bytes compares with a word as a number does.
theorem not_ofNat_lt_of_le (h : a < UInt64.size) (hle : w.toNat ≤ a) : ¬UInt64.ofNat a < w := by
  rw [UInt64.lt_iff_toNat_lt, UInt64.toNat_ofNat_of_lt' h]
  omega

theorem ofNat_lt_of_not_le (h : a < UInt64.size) (hlt : ¬w.toNat ≤ a) : UInt64.ofNat a < w := by
  rw [UInt64.lt_iff_toNat_lt, UInt64.toNat_ofNat_of_lt' h]
  omega

end Steps

/-! ## 2. Decoding -/

def decodeHeader (input : List UInt8) : Except Trap (Except PacketError Header) := do
  if input.length < headerSize then
    return .error (.tooShort input.length)
  else
    let front ← upTo input headerSize
    let (tag, rest) ← getLE 4 front
    let (offset, rest) ← getLE 8 rest
    let (length, _) ← getLE 8 rest
    return .ok {
      opcode := .ofTag (UInt32.ofNat tag)
      offset := UInt64.ofNat offset
      length := UInt64.ofNat length }

def decode (input : List UInt8) : Except Trap (Except PacketError Packet) := do
  match ← decodeHeader input with
  | .error cause => return .error cause
  | .ok header =>
    let payload ← onward input headerSize
    return .ok { header, payload }

/-! ## 3. The region -/

/-- The start and the end of a range as indices, provided that it lies inside `stored` bytes. -/
def range (bits : Nat) (offset length : UInt64) (stored : Nat) :
    Except Trap (Except RangeError (Nat × Nat)) := do
  let size := UInt64.ofNat stored
  let outside := RangeError.outOfBounds offset.toNat length.toNat size.toNat
  match sum? offset length with
  | none => return .error outside
  | some stop =>
    if size < stop then
      return .error outside
    else
      let first ← index bits offset
      let last ← index bits stop
      return .ok (first, last)

def read (bits : Nat) (region : Region) (offset length : UInt64) :
    Except Trap (Except RangeError (List UInt8)) := do
  match region.contents with
  | none => return .error .absent
  | some bytes =>
    match ← range bits offset length bytes.length with
    | .error cause => return .error cause
    | .ok (first, last) =>
      let data ← between bytes first last
      return .ok data

def write (bits : Nat) (region : Region) (offset : UInt64) (data : List UInt8) :
    Except Trap (Except RangeError Region) := do
  match region.contents with
  | none => return .error .absent
  | some bytes =>
    match ← range bits offset (UInt64.ofNat data.length) bytes.length with
    | .error cause => return .error cause
    | .ok (first, last) =>
      let after ← copyInto bytes first last data
      return .ok ⟨some after⟩

/-! ## 4. The operations -/

def outOfBounds (region : Region) (header : Header) : Handled :=
  .refuse region
    (.outOfBounds header.offset.toNat header.length.toNat (UInt64.ofNat region.size).toNat)

def tooShort (region : Region) (header : Header) (available : Nat) : Handled :=
  .refuse region (.payloadTooShort header.length.toNat (UInt64.ofNat available).toNat)

def admitsRead (policy : Policy) (offset length stored : UInt64) : Bool :=
  match policy with
  | .safe => (sum? offset length).any fun stop => stop ≤ stored
  | .vulnerable => offset + length ≤ stored

def readPacket (bits : Nat) (policy : Policy) (region : Region) (header : Header) :
    Except Trap Handled := do
  if region.isPresent then
    if admitsRead policy header.offset header.length (UInt64.ofNat region.size) then
      match ← read bits region header.offset header.length with
      | .ok data => return { outcome := .applied (some data), region, events := [] }
      | .error cause => return .refuse region (.uncheckedAccess cause)
    else
      return outOfBounds region header
  else
    return .refuse region .regionAbsent

def writeChecked (bits : Nat) (region : Region) (packet : Packet) : Except Trap Handled := do
  if UInt64.ofNat packet.available < packet.header.length then
    return tooShort region packet.header packet.available
  else
    let length ← index bits packet.header.length
    let data ← upTo packet.payload length
    match ← write bits region packet.header.offset data with
    | .ok after => return { outcome := .applied none, region := after, events := [] }
    | .error _ => return outOfBounds region packet.header

def writeUnchecked (bits : Nat) (region : Region) (received : List UInt8) (header : Header) :
    Except Trap Handled := do
  if UInt64.ofNat region.size < header.length then
    return outOfBounds region header
  else
    let length ← index bits header.length
    let stop ← add bits headerSize length
    match between? received headerSize stop with
    | some data =>
      match ← write bits region header.offset data with
      | .ok after => return { outcome := .applied none, region := after, events := [] }
      | .error cause => return .refuse region (.uncheckedAccess cause)
    | none =>
      let available ← sub received.length headerSize
      return tooShort region header available

def writePacket (bits : Nat) (policy : Policy) (region : Region) (received : List UInt8)
    (packet : Packet) : Except Trap Handled := do
  if region.isPresent then
    match policy with
    | .safe => writeChecked bits region packet
    | .vulnerable => writeUnchecked bits region received packet.header
  else
    return .refuse region .regionAbsent

def resetPacket (bits : Nat) (region : Region) (packet : Packet) : Except Trap Handled := do
  let size := UInt64.ofNat packet.available
  if size < packet.header.length then
    return tooShort region packet.header packet.available
  else
    let length ← index bits packet.header.length
    let data ← upTo packet.payload length
    return {
      outcome := .applied none
      region := region.replace data
      events := [.replacing packet.header.length.toNat size.toNat,
        .replaced (region.contents.map List.length) data.length] }

/-! ## 5. Handling -/

def perform (bits : Nat) (policy : Policy) (region : Region) (received : List UInt8)
    (packet : Packet) : Except Trap Handled :=
  match packet.header.opcode with
  | .read => readPacket bits policy region packet.header
  | .write => writePacket bits policy region received packet
  | .reset => resetPacket bits region packet
  | .unknown tag => return .refuse region (.unknownOpcode tag)

/-- Handles the first `n` of the received bytes. -/
def handled (bits : Nat) (policy : Policy) (region : Region) (received : List UInt8) (n : Nat) :
    Except Trap Handled := do
  let input ← upTo received (min n received.length)
  match ← decode input with
  | .error cause =>
    return { outcome := .malformed cause, region, events := [.dropped cause] }
  | .ok packet =>
    let done ← perform bits policy region received packet
    return { done with
      events := .arrived packet.header.opcode :: done.events ++ done.outcome.report }

/-- Receives `input` and handles it: the received bytes afterwards, and what it comes to. -/
def processed (bits : Nat) (policy : Policy) (region : Region) (received input : List UInt8) :
    Except Trap (List UInt8 × Handled) := do
  let n := min input.length maxPacketSize
  let source ← upTo input n
  let after ← copyInto received 0 n source
  let done ← handled bits policy region after n
  return (after, done)

end Machine

end BufferKeeper
