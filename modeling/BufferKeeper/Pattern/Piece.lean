import BufferKeeper.Pattern.Mode
import BufferKeeper.Text.Numeral

/-!
# Escapes

A backslash makes a mark stand for itself, or a letter for something else: a control character, a
code point in hexadecimal digits, a class of characters, or a place such as the border of a word.
-/

namespace BufferKeeper.Pattern

open Text

/-- What stands for itself or for a class. -/
inductive Piece where
  | literal (c : Char)
  | named
  /-- A place between characters; whether it is told by the letters of all scripts. -/
  | place (allScripts : Bool)
  deriving DecidableEq

/-- Hexadecimal digits behind the first character of `s`, blanks between them skipped. -/
def hexValue (mode : Mode) : Nat → Nat → List Char → Option (Nat × List Char)
  | 0, value, s => some (value, s)
  | count + 1, value, s =>
    match s with
    | [] => none
    | c :: _ => do
      let digit ← digitValue? c
      hexValue mode count (value * 16 + digit) (mode.advance s)

/-- In ASCII mode a byte is no character by itself unless it is one of ASCII. -/
def codePoint (mode : Mode) (digits : Nat) (s : List Char) : Option (Piece × List Char) := do
  let (value, rest) ← hexValue mode digits 0 (mode.advance s)
  if value.isValidChar ∧ (mode.unicode ∨ digits ≠ 2 ∨ value < 0x80) then
    return (.literal (Char.ofNat value), rest)
  else
    none

def controlLetters : List (Char × Char) :=
  [('a', '\x07'), ('f', '\x0C'), ('t', '\t'), ('n', '\n'), ('r', '\r'), ('v', '\x0B')]

def escape (mode : Mode) (s : List Char) : Option (Piece × List Char) :=
  match s with
  | [] => none
  | c :: rest =>
    if c = 'x' then codePoint mode 2 s
    else if c = 'u' then codePoint mode 4 s
    else if c = 'U' then codePoint mode 8 s
    else if c = 'd' ∨ c = 's' ∨ c = 'w' then
      if mode.unicode then none else some (.named, rest)
    else if c = 'b' ∨ c = 'B' ∨ c = '<' ∨ c = '>' then
      some (.place mode.unicode, rest)
    else if c = 'A' ∨ c = 'z' then some (.place false, rest)
    else
      match controlLetters.lookup c with
      | some control => some (.literal control, rest)
      | none => if c.toNat < 0x80 ∧ ¬ c.isAlphanum then some (.literal c, rest) else none

end BufferKeeper.Pattern
