import BufferKeeper.Address.IPv6

/-!
# Socket addresses

An address to listen on: an IPv4 address and a port, or an IPv6 address in brackets, with an
optional scope after `%`, and a port. Ports and scopes may have leading zeros; they are written
without, and a scope of 0 is not written.
-/

namespace BufferKeeper.Address

open Text

inductive SocketAddress where
  | v4 (ip : IPv4) (port : UInt16)
  | v6 (ip : IPv6) (port : UInt16) (scope : UInt32)

namespace SocketAddress

def isV6 : SocketAddress → Bool
  | .v4 _ _ => false
  | .v6 _ _ _ => true

/-! ## 1. Writing -/

def renderScope (scope : UInt32) : String :=
  if scope = 0 then "" else "%" ++ decimal scope.toNat

def render : SocketAddress → String
  | .v4 ip port => ip.render ++ ":" ++ decimal port.toNat
  | .v6 ip port scope =>
    "[" ++ ip.render ++ renderScope scope ++ "]:" ++ decimal port.toNat

/-! ## 2. Reading -/

def readPort : Reader UInt16 := fun s => do
  let s ← skipChar ':' s
  let (port, s) ← readNumber 10 65535 s
  return (UInt16.ofNat port, s)

def readScope : Reader UInt32 := fun s => do
  let s ← skipChar '%' s
  let (scope, s) ← readNumber 10 4294967295 s
  return (UInt32.ofNat scope, s)

def readV4 : Reader SocketAddress := fun s => do
  let (ip, s) ← IPv4.read s
  let (port, s) ← readPort s
  return (.v4 ip port, s)

def readV6 : Reader SocketAddress := fun s => do
  let s ← skipChar '[' s
  let (ip, s) ← IPv6.read s
  let (scope, s) := (readScope s).getD (0, s)
  let s ← skipChar ']' s
  let (port, s) ← readPort s
  return (.v6 ip port scope, s)

def parse? (text : String) : Option SocketAddress :=
  match (readV4 text.toList).or (readV6 text.toList) with
  | some (address, []) => some address
  | _ => none

end SocketAddress

end BufferKeeper.Address
