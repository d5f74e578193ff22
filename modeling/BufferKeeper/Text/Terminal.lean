/-!
# Text without terminal controls

A text may hold control sequences for a terminal: an escape character and what belongs to it. What
is left of a text without them and without other control characters is its plain text; tabs, line
ends and form feeds stay. The states are those of a terminal that reads the text.

A character outside ASCII that stands within a sequence is lost and the sequence goes on. Only the
byte 9C, which is the terminator of strings where characters are single bytes, ends a string also
when it is part of such a character.
-/

namespace BufferKeeper.Text

/-! ## 1. States -/

/-- Where in a control sequence a terminal is. -/
inductive Sequence where
  | outside
  | escape
  /-- Behind an escape character and characters that qualify it. -/
  | qualified
  /-- Between an opening bracket and the letter that ends the sequence. -/
  | control
  /-- In a command that a bell ends. -/
  | command
  | device
  | deviceParameters
  | deviceQualified
  /-- In a string that only its terminator ends. -/
  | body
  deriving DecidableEq

/-- Whether a character is a control that moves on in the text: a tab, a line end or a form feed. -/
def isMove (c : Char) : Bool :=
  c = '\t' ∨ c = '\n' ∨ c = '\x0C' ∨ c = '\r'

def isPlain (c : Char) : Bool :=
  isMove c || (0x20 ≤ c.toNat && c ≠ '\x7F')

namespace Sequence

/-- The state behind a character that is not shown and starts or breaks off no sequence. -/
def within (state : Sequence) (c : Char) : Sequence :=
  match state with
  | .outside => .outside
  | .escape =>
    if c = '[' then .control
    else if c = ']' then .command
    else if c = 'P' then .device
    else if c = 'X' ∨ c = '^' ∨ c = '_' then .body
    else if c.toNat < 0x20 then .escape
    else if c.toNat < 0x30 then .qualified
    else .outside
  | .qualified => if c.toNat < 0x30 then .qualified else .outside
  | .control => if c.toNat < 0x40 then .control else .outside
  | .command => if c = '\x07' then .outside else .command
  | .device =>
    if c.toNat < 0x20 then .device
    else if c.toNat < 0x30 then .deviceQualified
    else if c.toNat < 0x40 then .deviceParameters
    else .body
  | .deviceParameters =>
    if c.toNat < 0x20 then .deviceParameters
    else if c.toNat < 0x30 then .deviceQualified
    else if c.toNat < 0x3C then .deviceParameters
    else .body
  | .deviceQualified => if c.toNat < 0x30 then .deviceQualified else .body
  | .body => .body

def next (state : Sequence) (c : Char) : Sequence :=
  if 0x80 ≤ c.toNat then
    if state = .body ∧ (String.utf8EncodeChar c).contains 0x9C then .outside else state
  else if c = '\x1B' then .escape
  else if c = '\x18' ∨ c = '\x1A' then .outside
  else if c = '\x7F' then state
  else state.within c

/-- Whether tabs and line ends stay and end the sequence. -/
def yieldsToMoves (state : Sequence) : Bool :=
  state = .outside ∨ state = .escape ∨ state = .qualified ∨ state = .control

/-- Whether a character is shown: outside sequences the plain ones, else at most tabs and line
ends. -/
def shows (state : Sequence) (c : Char) : Bool :=
  if state = .outside then isPlain c else isMove c && state.yieldsToMoves

end Sequence

/-! ## 2. Plain text -/

/-- The plain text of characters behind a beginning that leads to `state`. -/
def plainFrom (state : Sequence) : List Char → List Char
  | [] => []
  | c :: rest => if state.shows c then c :: plainFrom .outside rest else plainFrom (state.next c) rest

def plain (s : String) : String :=
  String.ofList (plainFrom .outside s.toList)

end BufferKeeper.Text
