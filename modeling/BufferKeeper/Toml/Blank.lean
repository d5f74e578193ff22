import BufferKeeper.Text.Reader

/-!
# Blanks, comments and line ends

A line ends with a line feed, with a carriage return and a line feed, or with the document. Before
its end there may be blanks and a comment. Control characters other than the tab occur nowhere but
in line ends.
-/

namespace BufferKeeper.Toml

open Text

/-! ## 1. Characters -/

def isBlank (c : Char) : Bool :=
  c = ' ' ∨ c = '\t'

/-- A character that may stand in a comment or, unless it has a meaning there, in a string. -/
def isPlain (c : Char) : Bool :=
  c = '\t' ∨ (' ' ≤ c ∧ c ≠ '\x7F')

/-! ## 2. Skipping -/

def skipBlanks (s : List Char) : List Char :=
  s.dropWhile isBlank

def skipNewline : List Char → Option (List Char)
  | '\n' :: rest => some rest
  | '\r' :: '\n' :: rest => some rest
  | _ => none

def skipComment : List Char → List Char
  | '#' :: rest => rest.dropWhile isPlain
  | s => s

/-- The text behind the rest of a line that holds nothing but blanks and a comment. -/
def finishLine (s : List Char) : Option (List Char) :=
  match skipComment (skipBlanks s) with
  | [] => some []
  | rest => skipNewline rest

/-- One blank, or one line end with the comment before it. -/
def readFiller : Reader Unit
  | [] => none
  | c :: rest =>
    if isBlank c then some ((), rest)
    else (skipNewline (skipComment (c :: rest))).map fun rest => ((), rest)

def skipFiller (s : List Char) : List Char :=
  (many readFiller s).2

end BufferKeeper.Toml
