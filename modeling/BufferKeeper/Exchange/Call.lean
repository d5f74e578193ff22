import BufferKeeper.Exchange.Connection
import BufferKeeper.Fault

/-!
# Client calls

A client opens a connection for every call, sends one packet and collects what the server sends
before it closes. A call that cannot reach the server fails and the server never hears of it.
-/

namespace BufferKeeper

/-! ## 1. Calls and their packets -/

inductive Call where
  | read (offset length : UInt64)
  | write (offset : UInt64) (data : List UInt8)
  | reset (data : List UInt8)
  | raw (packet : List UInt8)

namespace Call

/-- Writes and resets claim exactly the data that they carry. -/
def packet : Call → List UInt8
  | .read offset length => Packet.encode ⟨⟨.read, offset, length⟩, []⟩
  | .write offset data => Packet.encode ⟨⟨.write, offset, UInt64.ofNat data.length⟩, data⟩
  | .reset data => Packet.encode ⟨⟨.reset, 0, UInt64.ofNat data.length⟩, data⟩
  | .raw packet => packet

/-- The connection of a call whose packet arrives whole and whose client waits for the reply. -/
def connection (call : Call) : Connection :=
  { received := some call.packet, canSend := true }

end Call

/-! ## 2. Reaching the server -/

inductive Link where
  | up
  | down (fault : Fault)

namespace Link

def call (link : Link) (k : Keeper) (call : Call) : Except Fault (List UInt8) × Keeper :=
  match link with
  | .up => (.ok (k.serve call.connection).reply, (k.serve call.connection).keeper)
  | .down fault => (.error fault, k)

def replies (link : Link) (k : Keeper) : List Call → List (Except Fault (List UInt8))
  | [] => []
  | call :: rest => (link.call k call).1 :: link.replies (link.call k call).2 rest

end Link

end BufferKeeper
