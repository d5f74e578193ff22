import BufferKeeper.Pattern.Height
import BufferKeeper.Pattern.Piece
import BufferKeeper.Text.Reader

/-!
# Classes in brackets

A class lists characters, ranges, named classes and other classes in brackets, and joins such lists
by the set operations `&&`, `--` and `~~`. Letters cannot be compared regardless of case for all
scripts, so in that mode a class can have no members. In ASCII mode a complement would have members
outside ASCII, so there is none.
-/

namespace BufferKeeper.Pattern

open Text

/-! ## 1. Members -/

def asciiClassNames : List String :=
  ["alnum", "alpha", "ascii", "blank", "cntrl", "digit", "graph", "lower", "print", "punct",
    "space", "upper", "word", "xdigit"]

/-- What stands behind a class of ASCII such as `[:alpha:]`, and whether it is a complement. -/
def asciiClass? (s : List Char) : Option (Bool × List Char) :=
  match s with
  | '[' :: ':' :: inner =>
    let complement := inner.head? = some '^'
    let body := if complement then inner.tail else inner
    let name := body.takeWhile (· ≠ ':')
    match body.drop name.length with
    | ':' :: ']' :: rest =>
      if asciiClassNames.contains (String.ofList name) then some (complement, rest) else none
    | _ => none
  | _ => none

def member (mode : Mode) : Reader Piece
  | [] => none
  | '\\' :: rest => escape mode rest
  | c :: rest => some (.literal c, rest)

/-- In ASCII mode a class has members of ASCII only. -/
def isMember (mode : Mode) : Piece → Bool
  | .literal c => mode.unicode || c.toNat < 0x80
  | .named => true
  | .place _ => false

/-- A hyphen before a closing bracket or another hyphen makes no range. -/
def memberOrRange (mode : Mode) (s : List Char) : Option (List Char) := do
  let (first, rest) ← member mode s
  let rest := mode.skip rest
  if rest = [] ∨ ¬ isMember mode first then none
  else if rest.head? ≠ some '-' ∨ mode.peek rest.tail = some ']' ∨ mode.peek rest.tail = some '-' then
    some rest
  else
    let (last, rest) ← member mode (mode.advance rest)
    match first, last with
    | .literal a, .literal b => if a ≤ b ∧ isMember mode last then some rest else none
    | _, _ => none

/-! ## 2. Openings -/

/-- A hyphen at the beginning of a class, which stands for itself. -/
def hyphen (mode : Mode) : Reader Unit := fun s =>
  if s.head? = some '-' then some ((), mode.advance s) else none

/-- What a class begins with, read from its opening bracket: perhaps a complement mark, then
hyphens, or else a closing bracket that stands for itself. -/
def openClass (mode : Mode) : Reader Level := fun s =>
  let inner := mode.advance s
  let complement := inner.head? = some '^'
  let body := if complement then mode.advance inner else inner
  let (hyphens, rest) := many (hyphen mode) body
  let bracket := hyphens = [] ∧ rest.head? = some ']'
  let count := if bracket then 1 else hyphens.length
  let rest := if bracket then mode.advance rest else rest
  if (complement ∧ ¬ mode.unicode) ∨ (mode.needsCases ∧ count ≠ 0) ∨ rest = [] then none
  else some (.ofSeries (.characters count), rest)

/-! ## 3. Contents -/

/-- The height of a class whose opening has been read, with the levels of the classes around it;
read in at most one step for each character of `clock`. -/
def classWithin (mode : Mode) :
    (clock : List Char) → (level : Level) → (around : List Level) → Reader Nat
  | [], _, _, _ => none
  | _ :: clock, level, around, s =>
    match mode.skip s with
    | [] => none
    | ']' :: rest =>
      match around with
      | [] => some (level.height + 1, rest)
      | outer :: around => classWithin mode clock (outer.add (level.height + 1)) around rest
    | '&' :: '&' :: rest => classWithin mode clock level.operation around rest
    | '-' :: '-' :: rest => classWithin mode clock level.operation around rest
    | '~' :: '~' :: rest => classWithin mode clock level.operation around rest
    | '[' :: inner =>
      match asciiClass? ('[' :: inner) with
      | some (complement, rest) =>
        if mode.needsCases ∨ (complement ∧ ¬ mode.unicode) then none
        else classWithin mode clock (level.add 0) around rest
      | none => do
        let (opening, rest) ← openClass mode ('[' :: inner)
        classWithin mode clock opening (level :: around) rest
    | c :: inner => do
      let rest ← memberOrRange mode (c :: inner)
      if mode.needsCases then none else classWithin mode clock (level.add 0) around rest

def readClass (mode : Mode) : Reader Nat := fun s => do
  let (level, rest) ← openClass mode s
  classWithin mode rest level [] rest

end BufferKeeper.Pattern
