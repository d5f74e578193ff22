import BufferKeeper.Journal.Event
import BufferKeeper.Policy

/-!
# Notices

What the server reports about itself and about its connections, apart from the packets that they
carry: that it starts and listens, and the course of each connection.
-/

namespace BufferKeeper.Journal

inductive Notice where
  | starting (program listen : String) (backlog : Int) (policy : Policy)
  | listening (address : String) (backlog : Int) (policy : Policy)
  | connected (peer : String)
  | received (count : Nat)
  | failed (peer reason : String)
  | closed (peer : String)
  | notAccepted (reason : String)
  deriving DecidableEq

namespace Notice

def level : Notice → Level
  | .starting _ _ _ _ => .info
  | .listening _ _ _ => .info
  | .connected _ => .debug
  | .received _ => .debug
  | .failed _ _ => .debug
  | .closed _ => .trace
  | .notAccepted _ => .error

def message : Notice → String
  | .starting program _ _ _ => "Starting " ++ program ++ " server"
  | .listening _ _ _ => "Server listening"
  | .connected _ => "got a new connection"
  | .received _ => "Received packet"
  | .failed _ _ => "Connection error"
  | .closed _ => "Connection closed"
  | .notAccepted _ => "Failed to accept connection"

/-- The fields that describe how a server was set up, its address under `name`. -/
def setUp (name address : String) (backlog : Int) (policy : Policy) : List Field :=
  [(name, some address), ("backlog", some (Text.signedDecimal backlog)),
    ("mode", some policy.title)]

def fields : Notice → List Field
  | .starting _ listen backlog policy => setUp "listen" listen backlog policy
  | .listening address backlog policy => setUp "address" address backlog policy
  | .connected peer => [("peer", some peer)]
  | .received count => [("bytes_read", some (Text.decimal count))]
  | .failed peer reason => [("peer", some peer), ("error", some reason)]
  | .closed peer => [("peer", some peer)]
  | .notAccepted reason => [("error", some reason)]

def line (n : Notice) : String :=
  lineOf n.level n.message n.fields

end Notice

end BufferKeeper.Journal
