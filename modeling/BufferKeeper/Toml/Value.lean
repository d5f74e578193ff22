/-!
# TOML values

A document is a table: pairs of a key and a value in the order in which the keys were first
written. A table remembers how it came to be, since that decides what may still be added to it.
-/

namespace BufferKeeper.Toml

/-! ## 1. Dates and times -/

structure Date where
  year : Nat
  month : Nat
  day : Nat
  deriving DecidableEq

/-- A time of day; the fraction of the second is kept as its digits. -/
structure Time where
  hour : Nat
  minute : Nat
  second : Nat
  fraction : List Char
  deriving DecidableEq

/-- A day, a time, or both; only both together can have an offset from UTC, in minutes. -/
structure DateTime where
  date : Option Date
  time : Option Time
  offset : Option Int
  deriving DecidableEq

/-! ## 2. Values -/

inductive Origin where
  /-- By a header that names it. -/
  | header
  /-- By a header that names a table inside it. -/
  | implied
  /-- By a dotted key that leads through it. -/
  | dotted
  /-- Between braces. -/
  | inline
  deriving DecidableEq

inductive Decimal where
  /-- Digits without their point, times a power of ten. -/
  | finite (negative : Bool) (digits : List Char) (exponent : Int)
  | infinite (negative : Bool)
  | notNumber (negative : Bool)
  deriving DecidableEq

inductive Value where
  | text (value : String)
  | integer (value : Int)
  | float (value : Decimal)
  | boolean (value : Bool)
  | dateTime (value : DateTime)
  | array (items : List Value)
  | table (origin : Origin) (entries : List (String × Value))
  /-- Tables collected under one name by double-bracket headers. -/
  | tables (items : List (List (String × Value)))

abbrev Entries := List (String × Value)

end BufferKeeper.Toml
