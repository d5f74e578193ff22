import BufferKeeper.Journal.Level
import BufferKeeper.Outcome

/-!
# Log events

What the server reports while it handles a packet is a list of events. An event has a level and a
message and fields, and a threshold decides which events become lines. A line is the level's label, a
blank and the message; fields follow as ` name=value`, and one without a value is left out.
-/

namespace BufferKeeper.Journal

/-! ## 1. Events -/

abbrev Field := String × Option String

def fieldText : Field → String
  | (name, some value) => " " ++ name ++ "=" ++ value
  | (_, none) => ""

def lineOf (level : Level) (message : String) (fields : List Field) : String :=
  level.label ++ " " ++ message ++ String.join (fields.map fieldText)

/-- The names by which directives know the parts of a line with these fields. -/
def partNames (fields : List Field) : List String :=
  "message" :: fields.map Prod.fst

inductive Event where
  | dropped (cause : PacketError)
  | arrived (opcode : Opcode)
  /-- The region is about to be replaced by the first `length` of `available` payload bytes. -/
  | replacing (length available : Nat)
  /-- The region was replaced; `previous` is the size it had, if it was present. -/
  | replaced (previous : Option Nat) (length : Nat)
  /-- An access that the policy let through was stopped at the region. -/
  | prevented (reason : Refusal)
  | refused (reason : Refusal)
  deriving DecidableEq

namespace Event

def level : Event → Level
  | .dropped _ => .debug
  | .arrived _ => .debug
  | .replacing _ _ => .debug
  | .replaced _ _ => .trace
  | .prevented _ => .warn
  | .refused _ => .debug

/-! ## 2. Lines -/

def message : Event → String
  | .dropped _ => "Dropping packet"
  | .arrived .read => "got a data read packet"
  | .arrived .write => "got a data write packet"
  | .arrived .reset => "got a data reset packet"
  | .arrived (.unknown _) => "got an unknown datagram type"
  | .replacing _ _ => "Resetting stored buffer"
  | .replaced _ _ => "Stored buffer replaced"
  | .prevented _ => "Out-of-range access prevented"
  | .refused _ => "Packet rejected"

def fields : Event → List Field
  | .dropped cause => [("error", some cause.message)]
  | .arrived (.unknown tag) => [("tag", some (Text.decimal tag.toNat))]
  | .arrived _ => []
  | .replacing length available =>
    [("length", some (Text.decimal length)), ("available", some (Text.decimal available))]
  | .replaced previous length =>
    [("previous_len", previous.map Text.decimal), ("len", some (Text.decimal length))]
  | .prevented reason => [("reason", some reason.message)]
  | .refused reason => [("reason", some reason.message)]

def line (e : Event) : String :=
  lineOf e.level e.message e.fields

end Event

def lines (threshold : Threshold) (events : List Event) : List String :=
  (events.filter fun e => threshold.admits e.level).map Event.line

end BufferKeeper.Journal
