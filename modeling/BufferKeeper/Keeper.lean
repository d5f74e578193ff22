import BufferKeeper.Inbox
import BufferKeeper.Journal.Event
import BufferKeeper.Outcome
import BufferKeeper.Policy
import BufferKeeper.Region

/-!
# The keeper

A keeper owns the region, a check policy and the inbox, and handles one packet at a time. Handling
reads the inbox and may change the region; the policy and the inbox stay as they are. `process`
receives a packet into the inbox and then handles it.

Under `safe` a write takes its data from the packet's own payload. Under `vulnerable` it takes the
claimed number of bytes from the inbox, so that a short packet is completed by whatever earlier
packets left there; the region's own range check still applies and an access it stops is refused as
`uncheckedAccess`.
-/

namespace BufferKeeper

open Journal

/-! ## 1. State and results -/

structure Keeper where
  policy : Policy
  region : Region
  inbox : Inbox

@[ext] theorem Keeper.ext {k k' : Keeper} (policy : k.policy = k'.policy)
    (region : k.region = k'.region) (inbox : k.inbox = k'.inbox) : k = k' := by
  cases k
  cases k'
  cases policy
  cases region
  cases inbox
  rfl

structure Handled where
  outcome : Outcome
  region : Region
  events : List Event

namespace Handled

def refuse (region : Region) (reason : Refusal) : Handled :=
  { outcome := .refused reason, region, events := [] }

end Handled

/-! ## 2. The three operations -/

def readPacket (policy : Policy) (region : Region) (header : Header) : Handled :=
  if region.isPresent then
    if policy.admitsRead header.offset header.length region.size then
      -- the end may have wrapped around in the policy's check; here it does not
      match region.read header.offset.toNat header.length.toNat with
      | .ok data => { outcome := .applied (some data), region, events := [] }
      | .error cause => .refuse region (.uncheckedAccess cause)
    else
      .refuse region (.outOfBounds header.offset.toNat header.length.toNat region.size)
  else
    .refuse region .regionAbsent

/-- A write under `safe`: the payload must hold the claimed length and the range must fit. -/
def writeChecked (region : Region) (packet : Packet) : Handled :=
  let length := packet.header.length.toNat
  if length ≤ packet.available then
    match region.write packet.header.offset.toNat (packet.payload.take length) with
    | .ok after => { outcome := .applied none, region := after, events := [] }
    -- the region is present, so its range check is all that can fail
    | .error _ =>
      .refuse region (.outOfBounds packet.header.offset.toNat length region.size)
  else
    .refuse region (.payloadTooShort length packet.available)

/-- A write under `vulnerable`: only the length is checked, and the data comes from the inbox. -/
def writeUnchecked (region : Region) (inbox : Inbox) (header : Header) : Handled :=
  let length := header.length.toNat
  if length ≤ region.size then
    -- more bytes may be claimed than arrived, the rest is from earlier packets
    match inbox.source? length with
    | some data =>
      match region.write header.offset.toNat data with
      | .ok after => { outcome := .applied none, region := after, events := [] }
      | .error cause => .refuse region (.uncheckedAccess cause)
    | none => .refuse region (.payloadTooShort length (inbox.bytes.length - headerSize))
  else
    .refuse region (.outOfBounds header.offset.toNat length region.size)

def writePacket (policy : Policy) (region : Region) (inbox : Inbox) (packet : Packet) : Handled :=
  if region.isPresent then
    match policy with
    | .safe => writeChecked region packet
    | .vulnerable => writeUnchecked region inbox packet.header
  else
    .refuse region .regionAbsent

/-- The same under both policies. -/
def resetPacket (region : Region) (packet : Packet) : Handled :=
  let length := packet.header.length.toNat
  if length ≤ packet.available then
    let previous := region.contents.map List.length
    { outcome := .applied none
      region := region.replace (packet.payload.take length)
      events := [.replacing length packet.available, .replaced previous length] }
  else
    .refuse region (.payloadTooShort length packet.available)

/-! ## 3. Handling a packet -/

-- Accesses that the region stopped are reported with more weight than other refusals.
def Outcome.report : Outcome → List Event
  | .refused (.uncheckedAccess cause) => [.prevented (.uncheckedAccess cause)]
  | .refused reason => [.refused reason]
  | .applied _ => []
  | .malformed _ => []

def perform (policy : Policy) (region : Region) (inbox : Inbox) (packet : Packet) : Handled :=
  match packet.header.opcode with
  | .read => readPacket policy region packet.header
  | .write => writePacket policy region inbox packet
  | .reset => resetPacket region packet
  | .unknown tag => .refuse region (.unknownOpcode tag)

namespace Keeper

def fresh (policy : Policy) : Keeper :=
  { policy, region := .absent, inbox := .zeros }

/-- Handles the first `n` bytes of the inbox as one packet; an `n` beyond the inbox means all. -/
def handled (k : Keeper) (n : Nat) : Handled :=
  match Packet.decode (k.inbox.front n) with
  | .error cause =>
    { outcome := .malformed cause, region := k.region, events := [.dropped cause] }
  | .ok packet =>
    let done := perform k.policy k.region k.inbox packet
    { done with
      events := .arrived packet.header.opcode :: done.events ++ done.outcome.report }

def handle (k : Keeper) (n : Nat) : Keeper :=
  { k with region := (k.handled n).region }

def receive (k : Keeper) (input : List UInt8) : Keeper :=
  { k with inbox := k.inbox.receive input }

/-- How many bytes of `input` one receive takes in. -/
def taken (input : List UInt8) : Nat :=
  min input.length maxPacketSize

def processed (k : Keeper) (input : List UInt8) : Handled :=
  (k.receive input).handled (taken input)

def process (k : Keeper) (input : List UInt8) : Keeper :=
  (k.receive input).handle (taken input)

/-! ## 4. Actions and runs -/

inductive Action where
  | process (input : List UInt8)
  | handle (n : Nat)
  /-- Bytes are put into the inbox from a position on, and nothing is handled. -/
  | fill (start : Nat) (data : List UInt8)

def handled? (k : Keeper) : Action → Option Handled
  | .process input => some (k.processed input)
  | .handle n => some (k.handled n)
  | .fill _ _ => none

def act (k : Keeper) : Action → Keeper
  | .process input => k.process input
  | .handle n => k.handle n
  | .fill start data => { k with inbox := k.inbox.overwrite start data }

def run (k : Keeper) (actions : List Action) : Keeper :=
  actions.foldl act k

/-- Actions that handle nothing are left out. -/
def history (k : Keeper) : List Action → List Handled
  | [] => []
  | action :: rest => (k.handled? action).toList ++ (k.act action).history rest

def journal (k : Keeper) (actions : List Action) : List Event :=
  (k.history actions).flatMap Handled.events

end Keeper

end BufferKeeper
