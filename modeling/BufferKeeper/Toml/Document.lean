import BufferKeeper.Toml.DateTime
import BufferKeeper.Toml.Number
import BufferKeeper.Toml.Table

/-!
# TOML documents

A document is a series of statements, each on a line of its own: a key with its value, a header
that opens a table, or a double-bracket header that adds a table to a collection. `statements?`
reads them, `Entries.ofStatements` builds the table that they describe, and `parse?` does both. A
document with any fault has no table at all.
-/

namespace BufferKeeper.Toml

open Text

/-! ## 1. Values -/

/-- A value that contains no other. -/
def readScalar : Reader Value := fun s =>
  ((readString s).map fun (x, rest) => (Value.text x, rest))
    <|> ((skipChars ['t', 'r', 'u', 'e'] s).map fun rest => (Value.boolean true, rest))
    <|> ((skipChars ['f', 'a', 'l', 's', 'e'] s).map fun rest => (Value.boolean false, rest))
    <|> ((readDateTime s).map fun (x, rest) => (Value.dateTime x, rest))
    <|> readDigitFloat s
    <|> readNamedFloat s
    <|> ((readInteger s).map fun (x, rest) => (Value.integer x, rest))

def readItemsEnd : Reader (List Value) := fun s =>
  (skipChar ']' (skipFiller s)).map fun rest => ([], rest)

/-- An item of an array with the comma behind it, or without one before the closing bracket. -/
def readItem (value : Reader Value) : Reader (List Value) := fun s => do
  let (item, rest) ← value (skipFiller s)
  match skipFiller rest with
  | ',' :: rest => return ([item], rest)
  | ']' :: rest => return ([item], ']' :: rest)
  | _ => none

/-- Read from behind the opening bracket. -/
def readItems (value : Reader Value) : Reader (List Value) :=
  readUntil readItemsEnd (readItem value)

def readPair (value : Reader Value) : Reader (Key × Value) := fun s => do
  let (key, s) ← readKey s
  let s ← skipChar '=' s
  let (x, s) ← value (skipBlanks s)
  return ((key, x), skipBlanks s)

/-- The pairs between braces, read from behind the opening one; they stay on one line, and no comma
follows the last. -/
def readPairs (value : Reader Value) : Reader (List (Key × Value)) := fun s =>
  match skipBlanks s with
  | '\x7D' :: rest => some ([], rest)
  | _ => do
    let (pairs, rest) ← separated ',' (readPair value) s
    let rest ← skipChar '\x7D' rest
    return (pairs, rest)

/-- A value with at most `nesting` brackets and braces around its innermost part. -/
def readValue : (nesting : Nat) → Reader Value
  | 0 => readScalar
  | nesting + 1 => fun s =>
    match s with
    | '[' :: rest =>
      (readItems (readValue nesting) rest).map fun (items, rest) => (.array items, rest)
    | '\x7B' :: rest => do
      let (pairs, rest) ← readPairs (readValue nesting) rest
      let entries ← Entries.ofPairs pairs
      return (.table .inline entries, rest)
    | _ => readScalar s

/-! ## 2. Statements -/

inductive Statement where
  | assign (key : Key) (value : Value)
  | table (key : Key)
  | item (key : Key)

def readBareStatement : Reader Statement
  | '[' :: '[' :: s => do
    let (key, s) ← readKey s
    let s ← skipChars [']', ']'] s
    return (.item key, s)
  | '[' :: s => do
    let (key, s) ← readKey s
    let s ← skipChar ']' s
    return (.table key, s)
  | s => (readPair (readValue (nestingLimit - 1)) s).map
      fun ((key, value), s) => (.assign key value, s)

def readStatement : Reader Statement := fun s => do
  let (statement, s) ← readBareStatement s
  let s ← finishLine s
  return (statement, s)

/-- A line that holds at most a comment says nothing. -/
def readLine : Reader (List Statement) := fun s =>
  match finishLine s with
  | some rest => some ([], rest)
  | none => (readStatement (skipBlanks s)).map fun (statement, rest) => ([statement], rest)

def readEnd : Reader (List Statement)
  | [] => some ([], [])
  | _ :: _ => none

def skipByteOrderMark : List Char → List Char
  | '\uFEFF' :: rest => rest
  | s => s

def statements? (text : String) : Option (List Statement) :=
  (readUntil readEnd readLine (skipByteOrderMark text.toList)).map Prod.fst

/-! ## 3. The described table -/

/-- A document half read: the table so far, and where keys without a header go. -/
structure Draft where
  root : Entries
  current : List String

namespace Draft

def step (draft : Draft) : Statement → Option Draft
  | .assign key value => do
    let root ← draft.root.changeAt draft.current fun inner => inner.assign key.path key.name value
    return { draft with root }
  | .table key => do
    let root ← draft.root.openTable key
    return { root, current := key.path ++ [key.name] }
  | .item key => do
    let root ← draft.root.openItem key
    return { root, current := key.path ++ [key.name] }

end Draft

def Entries.ofStatements (statements : List Statement) : Option Entries :=
  (statements.foldlM Draft.step ⟨[], []⟩).map Draft.root

def parse? (text : String) : Option Entries :=
  (statements? text).bind Entries.ofStatements

end BufferKeeper.Toml
