import BufferKeeper.Exchange.Call

/-!
# Hosts

A host is where a server runs: it may refuse to bind an address, and clients may or may not be able
to reach what is bound. A server that can bind starts with a fresh keeper.
-/

namespace BufferKeeper

open Address

structure Host where
  bindFault : SocketAddress → Option Fault
  link : Link

namespace Host

def bind (host : Host) (address : SocketAddress) (policy : Policy) : Except ServerError Keeper :=
  match host.bindFault address with
  | some cause => .error (.bind address cause)
  | none => .ok (.fresh policy)

end Host

end BufferKeeper
