import BufferKeeper.Text.Classes

/-!
# Modes of expressions

Flags change how an expression is read from where they stand. In the spaced mode blanks and
comments between its parts do not count; `skip` passes over them, and `peek` looks at the next
character that counts.
-/

namespace BufferKeeper.Pattern

open Text

/-- The flags that decide whether an expression is right. -/
structure Mode where
  caseless : Bool
  /-- Classes and the dot stand for characters; otherwise for bytes of ASCII. -/
  unicode : Bool
  /-- Blanks and comments between the parts of an expression do not count. -/
  spaced : Bool
  deriving DecidableEq

namespace Mode

def initial : Mode := ⟨false, true, false⟩

/-- Flags that do not decide about rightness change nothing. -/
def set (mode : Mode) (flag : Char) (value : Bool) : Mode :=
  match flag with
  | 'i' => { mode with caseless := value }
  | 'u' => { mode with unicode := value }
  | 'x' => { mode with spaced := value }
  | _ => mode

/-- Whether letters would have to be compared by Unicode's case tables. -/
def needsCases (mode : Mode) : Bool :=
  mode.caseless && mode.unicode

def skip (mode : Mode) (s : List Char) : List Char :=
  if mode.spaced then go false s else s
where
  go (comment : Bool) : List Char → List Char
    | [] => []
    | c :: rest =>
      if comment then go (c ≠ '\n') rest
      else if isSpace c then go false rest
      else if c = '#' then go true rest
      else c :: rest

def advance (mode : Mode) (s : List Char) : List Char :=
  mode.skip s.tail

/-- The next character that is no blank. Where blanks do not count, the mark of a comment is passed
over too, but what the comment says is not. -/
def peek (mode : Mode) (s : List Char) : Option Char :=
  if mode.spaced then
    match s.dropWhile isSpace with
    | '#' :: comment => (comment.dropWhile isSpace).head?
    | rest => rest.head?
  else
    s.head?

end Mode

end BufferKeeper.Pattern
