import BufferKeeper.Toml.Key
import BufferKeeper.Toml.Value

/-!
# Building TOML tables

Keys and headers add to a table step by step, and none of them may define anything twice. A dotted
key goes only through tables that dotted keys or nothing but headers of tables inside them have
brought into being. A header may pass through any table that does not stand between braces, and of
tables collected under one name it means the last.
-/

namespace BufferKeeper.Toml

namespace Entries

/-! ## 1. Single entries -/

def value? (entries : Entries) (name : String) : Option Value :=
  entries.lookup name

/-- The name keeps its place. -/
def replaceValue (entries : Entries) (name : String) (value : Value) : Entries :=
  entries.map fun entry => if entry.1 = name then (name, value) else entry

def addValue (entries : Entries) (name : String) (value : Value) : Entries :=
  entries ++ [(name, value)]

/-- The entries changed in their table collected last. -/
def changeLast (items : List Entries) (change : Entries → Option Entries) :
    Option (List Entries) := do
  let last ← items.getLast?
  let changed ← change last
  return items.dropLast ++ [changed]

/-! ## 2. Assignments -/

/-- The entries with `value` under a key. Every table on the way must be one that keys may still
extend, and the one that receives the value must have been made by dotted keys. -/
def assign (entries : Entries) (path : List String) (name : String) (value : Value) :
    Option Entries :=
  match path with
  | [] =>
    match entries.value? name with
    | none => some (entries.addValue name value)
    | some _ => none
  | part :: path =>
    match entries.value? part with
    | none => (assign [] path name value).map fun inner => entries.addValue part (.table .dotted inner)
    | some (.table .dotted inner) =>
      (assign inner path name value).map fun inner => entries.replaceValue part (.table .dotted inner)
    | some (.table .implied inner) =>
      if path = [] then none
      else (assign inner path name value).map fun inner => entries.replaceValue part (.table .implied inner)
    | some (.tables items) =>
      if path = [] then none
      else
        (changeLast items fun inner => assign inner path name value).map fun items =>
          entries.replaceValue part (.tables items)
    | some _ => none

def ofPairs (pairs : List (Key × Value)) : Option Entries :=
  pairs.foldlM (fun entries (key, value) => assign entries key.path key.name value) []

/-! ## 3. Headers -/

/-- The entries changed in the table that the header path leads to; tables that are missing on the
way are implied. -/
def changeAt (entries : Entries) (path : List String) (change : Entries → Option Entries) :
    Option Entries :=
  match path with
  | [] => change entries
  | part :: path =>
    match entries.value? part with
    | none => (changeAt [] path change).map fun inner => entries.addValue part (.table .implied inner)
    | some (.table .inline _) => none
    | some (.table origin inner) =>
      (changeAt inner path change).map fun inner => entries.replaceValue part (.table origin inner)
    | some (.tables items) =>
      (changeLast items fun inner => changeAt inner path change).map fun items =>
        entries.replaceValue part (.tables items)
    | some _ => none

/-- A table that was only implied so far is opened; any other table of that name is a second
definition. -/
def openTable (entries : Entries) (key : Key) : Option Entries :=
  entries.changeAt key.path fun inner =>
    match inner.value? key.name with
    | none => some (inner.addValue key.name (.table .header []))
    | some (.table .implied known) => some (inner.replaceValue key.name (.table .header known))
    | some _ => none

def openItem (entries : Entries) (key : Key) : Option Entries :=
  entries.changeAt key.path fun inner =>
    match inner.value? key.name with
    | none => some (inner.addValue key.name (.tables [[]]))
    | some (.tables items) => some (inner.replaceValue key.name (.tables (items ++ [[]])))
    | some _ => none

end Entries

end BufferKeeper.Toml
