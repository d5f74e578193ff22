import BufferKeeper.Toml.Quoted

/-!
# TOML keys

A key names a place: the tables that lead to it and its own name. Each part is bare (letters,
digits, `-` and `_`) or a string on one line; parts are joined by dots with blanks around them. A
key has fewer than eighty parts.
-/

namespace BufferKeeper.Toml

open Text

/-- A place in a table: the names of the tables on the way, and the last name. -/
structure Key where
  path : List String
  name : String
  deriving DecidableEq

/-- The number of parts, and of nested brackets, that is too many. -/
def nestingLimit : Nat := 80

def isBareChar (c : Char) : Bool :=
  c.isAlphanum ∨ c = '-' ∨ c = '_'

def readPart : Reader String
  | [] => none
  | c :: rest =>
    if c = quotationMark ∨ c = apostrophe then
      readLineString c rest
    else
      let part := (c :: rest).takeWhile isBareChar
      if part = [] then none
      else some (String.ofList part, (c :: rest).dropWhile isBareChar)

def readSpacedPart : Reader String := fun s =>
  (readPart (skipBlanks s)).map fun (part, rest) => (part, skipBlanks rest)

def readKey : Reader Key := fun s => do
  let (parts, rest) ← separated '.' readSpacedPart s
  let name ← parts.getLast?
  if parts.length < nestingLimit then
    return (⟨parts.dropLast, name⟩, rest)
  else
    none

end BufferKeeper.Toml
