import BufferKeeper.Pattern.CharacterClass
import BufferKeeper.Pattern.Group

/-!
# Regular expressions

Expressions have alternatives, groups, the repetitions `?`, `*` and `+`, classes in brackets with
ranges and set operations, and escapes. `check` tells whether a text is one; what it matches does
not matter here. It is read from left to right, one part a step.

Expressions match bytes that spell UTF-8, and they are read without the tables of Unicode: outside
ASCII mode there are no classes named by a letter and no letters regardless of case. Borders of
words can be written there, but no expression with one can be matched. In ASCII mode nothing may
match a single byte outside ASCII, as the dot and complements would.
-/

namespace BufferKeeper.Pattern

open Text

/-! ## 1. Faults -/

inductive Flaw where
  /-- It is wrong somewhere, or too high. -/
  | malformed
  /-- It has a border of words in all scripts. -/
  | wordBorder
  deriving DecidableEq

/-! ## 2. Reading -/

structure Reading where
  mode : Mode
  level : Level
  around : List (Mode × Level)
  names : List (List Char)
  repeatable : Bool
  wordBorder : Bool

namespace Reading

def start : Reading := ⟨.initial, .ofSeries .empty, [], [], false, false⟩

def put (r : Reading) (height : Nat) : Reading :=
  { r with level := r.level.add height, repeatable := true }

def openGroup (r : Reading) (mode : Mode) : Reading :=
  { r with
    mode, level := .ofSeries .empty, around := (r.mode, r.level) :: r.around, repeatable := false }

def closeGroup? (r : Reading) : Option Reading :=
  match r.around with
  | [] => none
  | (mode, outer) :: around =>
    some { r with mode, level := outer.add (r.level.height + 1), around, repeatable := true }

/-- What one step of reading comes to; `none` if the expression is wrong. -/
def step (r : Reading) (s : List Char) : Option (Reading × List Char) :=
  match s with
  | [] => none
  | '(' :: rest =>
    match groupHead r.mode rest with
    | none => none
    | some (.flags mode rest) =>
      some ({ r with mode, level := r.level.add 0, repeatable := false }, rest)
    | some (.group mode rest) => some (r.openGroup mode, rest)
    | some (.named name rest) =>
      if r.names.contains name then none
      else some ({ r.openGroup r.mode with names := name :: r.names }, rest)
  | ')' :: rest => r.closeGroup?.map fun r => (r, rest)
  | '|' :: rest => some ({ r with level := r.level.bar, repeatable := false }, rest)
  | '[' :: _ => (readClass r.mode s).map fun (height, rest) => (r.put height, rest)
  | '\x7B' :: _ => none
  | '\\' :: rest =>
    match escape r.mode rest with
    | none => none
    | some (.literal _, rest) => if r.mode.needsCases then none else some (r.put 0, rest)
    | some (.named, rest) => some (r.put 0, rest)
    | some (.place allScripts, rest) =>
      some ({ r.put 0 with wordBorder := r.wordBorder || allScripts }, rest)
  | '.' :: rest => if r.mode.unicode then some (r.put 0, rest) else none
  | '^' :: rest => some (r.put 0, rest)
  | '$' :: rest => some (r.put 0, rest)
  | c :: rest =>
    if c = '?' ∨ c = '*' ∨ c = '+' then
      if r.repeatable then
        some ({ r with level := r.level.repeatLast },
          if rest.head? = some '?' then rest.tail else rest)
      else
        none
    else if r.mode.needsCases then none
    else some (r.put 0, rest)

def finish (r : Reading) : Except Flaw Unit :=
  if r.around ≠ [] ∨ heightLimit < r.level.height then .error .malformed
  else if r.wordBorder then .error .wordBorder
  else .ok ()

/-- Reads on to the end, in at most one step for each character of `clock`. -/
def run : (clock : List Char) → Reading → List Char → Except Flaw Unit
  | clock, r, s =>
    match clock, r.mode.skip s with
    | _, [] => r.finish
    | [], _ :: _ => .error .malformed
    | _ :: clock, c :: rest =>
      match r.step (c :: rest) with
      | none => .error .malformed
      | some (r, rest) => run clock r rest

end Reading

def check (s : List Char) : Except Flaw Unit :=
  Reading.start.run s s

end BufferKeeper.Pattern
