import BufferKeeper.Pattern.Mode

/-!
# Heads of groups

A group can begin with flags for its contents or with a name. Flags alone between the brackets hold
for what follows.
-/

namespace BufferKeeper.Pattern

open Text

/-- What the head of a group, or a group of flags alone, comes to. -/
inductive Head where
  | group (mode : Mode) (rest : List Char)
  | named (name : List Char) (rest : List Char)
  /-- Flags for what follows. -/
  | flags (mode : Mode) (rest : List Char)

/-- The flags of a group's head, each at most once, with at most one minus sign before those that
are cleared; `seen` are those read so far. -/
def flagsFrom (mode : Mode) (value : Bool) (seen : List Char) : List Char → Option Head
  | [] => none
  | ')' :: rest => if seen = [] ∨ seen.head? = some '-' then none else some (.flags mode rest)
  | ':' :: rest => if seen.head? = some '-' then none else some (.group mode rest)
  | c :: rest =>
    if seen.contains c then none
    else if c = '-' then flagsFrom mode false ('-' :: seen) rest
    else if "imsURux".toList.contains c then flagsFrom (mode.set c value) value (c :: seen) rest
    else none

def nameFrom (s : List Char) : Option (List Char × List Char) :=
  let name := s.takeWhile (· ≠ '>')
  let canFollow (c : Char) : Bool :=
    c = '_' ∨ c = '.' ∨ c = '[' ∨ c = ']' ∨ isLetterOrNumber c
  match name, s.drop name.length with
  | c :: others, _ :: rest =>
    if (c = '_' ∨ isLetter c) ∧ others.all canFollow then some (name, rest) else none
  | _, _ => none

def groupHead (mode : Mode) (s : List Char) : Option Head :=
  match mode.skip s with
  | '?' :: '!' :: _ => none
  | '?' :: '<' :: '!' :: _ => none
  | '?' :: 'P' :: '<' :: rest => (nameFrom rest).map fun (name, rest) => .named name rest
  | '?' :: '<' :: rest => (nameFrom rest).map fun (name, rest) => .named name rest
  | '?' :: rest => flagsFrom mode true [] rest
  | rest => some (.group mode rest)

end BufferKeeper.Pattern
