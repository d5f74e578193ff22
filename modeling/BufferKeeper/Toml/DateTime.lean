import BufferKeeper.Text.Reader
import BufferKeeper.Toml.Value

/-!
# TOML dates and times

A day is written `YYYY-MM-DD` and must exist in the calendar; a time is written `HH:MM:SS` with an
optional fraction of any number of digits, where the second 60 is allowed. A day and a time are
joined by `T`, `t` or a blank and may be followed by an offset: `Z`, `z` or a signed `HH:MM`.
-/

namespace BufferKeeper.Toml

open Text

/-! ## 1. Days -/

def isLeapYear (year : Nat) : Bool :=
  year % 4 = 0 ∧ (year % 100 ≠ 0 ∨ year % 400 = 0)

def daysInMonth (year month : Nat) : Nat :=
  if month = 2 then (if isLeapYear year then 29 else 28)
  else if month = 4 ∨ month = 6 ∨ month = 9 ∨ month = 11 then 30
  else 31

def readDate : Reader Date := fun s => do
  let (year, s) ← readFixed 4 0 9999 s
  let s ← skipChar '-' s
  let (month, s) ← readFixed 2 1 12 s
  let s ← skipChar '-' s
  let (day, s) ← readFixed 2 1 (daysInMonth year month) s
  return (⟨year, month, day⟩, s)

/-! ## 2. Times and offsets -/

def readSecondFraction (s : List Char) : List Char × List Char :=
  match s with
  | '.' :: rest => if (digitRun 10 rest).1 = [] then ([], s) else digitRun 10 rest
  | _ => ([], s)

def readTime : Reader Time := fun s => do
  let (hour, s) ← readFixed 2 0 23 s
  let s ← skipChar ':' s
  let (minute, s) ← readFixed 2 0 59 s
  let s ← skipChar ':' s
  let (second, s) ← readFixed 2 0 60 s
  let (fraction, s) := readSecondFraction s
  return (⟨hour, minute, second, fraction⟩, s)

/-- An offset from UTC in minutes. -/
def readOffset : Reader Int
  | [] => none
  | c :: rest =>
    if c = 'Z' ∨ c = 'z' then
      some (0, rest)
    else if c = '+' ∨ c = '-' then do
      let (hour, s) ← readFixed 2 0 23 rest
      let s ← skipChar ':' s
      let (minute, s) ← readFixed 2 0 59 s
      let minutes := Int.ofNat (hour * 60 + minute)
      return (if c = '-' then -minutes else minutes, s)
    else
      none

/-! ## 3. Both together -/

def readTimeOfDate : Reader (Time × Option Int)
  | [] => none
  | c :: rest =>
    if c = 'T' ∨ c = 't' ∨ c = ' ' then do
      let (time, s) ← readTime rest
      match readOffset s with
      | some (offset, s) => return ((time, some offset), s)
      | none => return ((time, none), s)
    else
      none

def readDateTime : Reader DateTime := fun s =>
  match readDate s with
  | some (date, rest) =>
    match readTimeOfDate rest with
    | some ((time, offset), rest) => some (⟨some date, some time, offset⟩, rest)
    | none => some (⟨some date, none, none⟩, rest)
  | none => (readTime s).map fun (time, rest) => (⟨none, some time, none⟩, rest)

end BufferKeeper.Toml
