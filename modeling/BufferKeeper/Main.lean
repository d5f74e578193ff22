import BufferKeeper.Program
import Std.Async.TCP

/-!
# The server program

Reads the command line, the configuration file and the environment, binds the address and serves
connections one after another. What is decided on the way is decided by the library; here files are
read, sockets are used and lines are printed.
-/

namespace BufferKeeper

open Address CommandLine Journal Text
open Std.Async Std.Async.TCP

/-! ## 1. Surroundings -/

def faultOf : IO.Error → Fault
  | .noFileOrDirectory _ _ _ => .notFound
  | .noSuchThing _ 2 _ => .notFound
  | .inappropriateType _ 20 _ => .notDirectory
  | .inappropriateType _ 21 _ => .isDirectory
  | .resourceBusy _ _ => .addressInUse
  | .invalidArgument _ 36 _ => .nameTooLong
  | error => .other error.toString

/-- The file system, as far as a command line needs it: the file that it names. -/
def filesFor (arguments : List Argument) : IO FileSystem := do
  match Given.ofArguments arguments with
  | .ok { config := some path, .. } =>
    let result ← (IO.FS.readBinFile (lossy path)).toBaseIO
    return fun _ => (result.mapError faultOf).map ByteArray.toList
  | _ => return fun _ => .error .notFound

def netAddress : SocketAddress → Std.Net.SocketAddress
  | .v4 ip port => .v4 ⟨.ofParts ip.first ip.second ip.third ip.fourth, port⟩
  | .v6 ip port _ => .v6 ⟨⟨⟨ip.groups.toArray, by simp [ip.length_groups]⟩⟩, port⟩

def renderNet : Std.Net.SocketAddress → String
  | .v4 a => a.addr.toString ++ ":" ++ decimal a.port.toNat
  | .v6 a => "[" ++ a.addr.toString ++ "]:" ++ decimal a.port.toNat

def listenOn (settings : Settings) : IO Socket.Server := do
  let server ← Socket.Server.mk
  server.bind (netAddress settings.listen)
  server.listen settings.backlog.toUInt32
  return server

/-! ## 2. Serving -/

def printLines (lines : List String) : IO Unit := do
  for line in lines do
    IO.println line
  (← IO.getStdout).flush

def serveClient (client : Socket.Client) (peer : String) (k : Keeper)
    (directives : List Directive) : IO Keeper := do
  let data ← (client.recv? maxPacketSize.toUInt64).block
  let input := (data.getD .empty).toList
  let received := k.receive input
  printLines (noticeLines directives [.received input.length])
  let handled := received.handled (Keeper.taken input)
  printLines (eventLines directives handled.events)
  if handled.outcome.reply ≠ [] then
    try
      (client.send ⟨handled.outcome.reply.toArray⟩).block
    catch error =>
      printLines (noticeLines directives [.failed peer error.toString])
  return received.handle (Keeper.taken input)

partial def serveForever (server : Socket.Server) (k : Keeper) (directives : List Directive) :
    IO Unit := do
  let client ← server.accept.block
  let peer := renderNet (← client.getPeerName)
  printLines (noticeLines directives [.connected peer])
  let after ←
    try
      serveClient client peer k directives
    catch error =>
      printLines (noticeLines directives [.failed peer error.toString])
      pure k
  try client.shutdown.block catch _ => pure ()
  printLines (noticeLines directives [.closed peer])
  serveForever server after directives

/-! ## 3. The program -/

def finish (result : End) : IO UInt32 := do
  printLines result.output
  for line in result.errors.getD [] do
    IO.eprintln line
  return result.exitCode.toUInt32

def start (arguments : List Argument) : IO UInt32 := do
  let files ← filesFor arguments
  let directives ← IO.getEnv "RUST_LOG"
  let startOn (host : Host) := Start.ofArguments { files, host, directives } arguments
  match startOn { bindFault := fun _ => none, link := .up } with
  | .ended result => finish result
  | .serving settings keeper directives output warnings =>
    match ← (listenOn settings).toBaseIO with
    | .error error =>
      match startOn { bindFault := fun _ => some (faultOf error), link := .up } with
      | .ended result => finish result
      | .serving _ _ _ _ _ => return 1
    | .ok server =>
      for warning in warnings do
        IO.eprintln warning
      let address := renderNet (← server.getSockName)
      printLines (output ++ noticeLines directives
        [.listening address settings.backlog.toInt settings.policy])
      serveForever server keeper directives
      return 0

end BufferKeeper

def main (arguments : List String) : IO UInt32 :=
  BufferKeeper.start
    (BufferKeeper.Text.ofString BufferKeeper.CommandLine.programName
      :: arguments.map BufferKeeper.Text.ofString)
