import BufferKeeper.Text.Numeral

/-!
# Reading from the front of a text

A reader takes the characters still to be read and gives a value with the characters behind it, or
`none`. The small readers here take one given character, a given text, or a run of digits.
`readUntil`, `many` and `separated` repeat a reader. They make at most one round for each character
of the text, which is enough for a reader that takes at least one character each time; so they end
on every input whatever the reader they repeat.
-/

namespace BufferKeeper.Text

abbrev Reader (α : Type) := List Char → Option (α × List Char)

/-! ## 1. Fixed texts -/

def skipChar (c : Char) : List Char → Option (List Char)
  | [] => none
  | d :: rest => if d = c then some rest else none

def skipChars : List Char → List Char → Option (List Char)
  | [], s => some s
  | c :: cs, s => (skipChar c s).bind (skipChars cs)

@[simp] theorem skipChar_cons (c : Char) (rest : List Char) : skipChar c (c :: rest) = some rest := by
  simp [skipChar]

/-! ## 2. Runs of digits -/

def digitRun (base : Nat) (s : List Char) : List Char × List Char :=
  (s.takeWhile (isDigitIn base), s.dropWhile (isDigitIn base))

/-- A number of one or more digits that is at most `largest`; zeros may lead. -/
def readNumber (base largest : Nat) : Reader Nat := fun s =>
  let (digits, rest) := digitRun base s
  if digits ≠ [] ∧ valueOf base digits ≤ largest then
    some (valueOf base digits, rest)
  else
    none

/-- Exactly `count` decimal digits whose value lies between `least` and `largest`. -/
def readFixed (count least largest : Nat) : Reader Nat := fun s =>
  match ofDigits? 10 (s.take count) with
  | some n =>
    if (s.take count).length = count ∧ least ≤ n ∧ n ≤ largest then some (n, s.drop count)
    else none
  | none => none

/-! ## 3. Repetition -/

/-- Pieces one after another until `stop` succeeds, at most one for each character of `clock`; the
pieces and what `stop` gave are joined. -/
def readUntilWithin {α : Type} (stop piece : Reader (List α)) :
    (clock : List Char) → Reader (List α)
  | [], s => stop s
  | _ :: clock, s =>
    match stop s with
    | some found => some found
    | none =>
      match piece s with
      | none => none
      | some (front, rest) =>
        (readUntilWithin stop piece clock rest).map fun (back, behind) => (front ++ back, behind)

def readUntil {α : Type} (stop piece : Reader (List α)) : Reader (List α) := fun s =>
  readUntilWithin stop piece s s

/-- Values one after another for as long as the reader succeeds, at most one for each character of
`clock`. -/
def manyWithin {α : Type} (item : Reader α) : (clock : List Char) → List Char → List α × List Char
  | [], s => ([], s)
  | _ :: clock, s =>
    match item s with
    | none => ([], s)
    | some (x, rest) =>
      let (xs, behind) := manyWithin item clock rest
      (x :: xs, behind)

def many {α : Type} (item : Reader α) (s : List Char) : List α × List Char :=
  manyWithin item s s

def separated {α : Type} (mark : Char) (item : Reader α) : Reader (List α) := fun s => do
  let (x, s) ← item s
  let (xs, s) := many (fun s => (skipChar mark s).bind item) s
  return (x :: xs, s)

end BufferKeeper.Text
