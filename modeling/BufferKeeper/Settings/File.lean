import BufferKeeper.Settings.Preferences
import BufferKeeper.Toml.Document

/-!
# The configuration file

The file is a TOML document with the sections `server` (`listen`, `backlog`), `protocol` (`mode`)
and `logging` (`level`). Every section and every key may be missing, and unknown ones are ignored,
but a known key with a value of the wrong kind makes the whole file invalid.

A section is a table, or an array of its values in the order above. A date or time in its place
sets nothing. The mode is the name of a policy, or a table whose only key is that name and whose
value is an empty table or array.
-/

namespace BufferKeeper.ConfigFile

open Toml

/-! ## 1. Values of the right kind -/

def asText? : Value → Option String
  | .text s => some s
  | _ => none

def asBacklog? : Value → Option Int32
  | .integer n => int32? n
  | _ => none

def isEmpty : Value → Bool
  | .table _ [] => true
  | .array [] => true
  | _ => false

def asPolicy? : Value → Option Policy
  | .text name => Policy.ofName? name
  | .table _ [(name, value)] => if isEmpty value then Policy.ofName? name else none
  | _ => none

/-! ## 2. Sections -/

/-- The values that a section gives to the fields of these names, in order. -/
def fields? (names : List String) : Value → Option (List (Option Value))
  | .table _ entries => some (names.map (Entries.value? entries))
  | .array items => some ((List.range names.length).map fun i => items[i]?)
  | .tables items => some ((List.range names.length).map fun i => items[i]?.map (.table .header))
  | .dateTime _ => some (names.map fun _ => none)
  | _ => none

def section? (entries : Entries) (name : String) (names : List String) :
    Option (List (Option Value)) :=
  match entries.value? name with
  | none => some (names.map fun _ => none)
  | some value => fields? names value

/-- A missing field sets nothing. -/
def field? {α : Type} (kind : Value → Option α) (fields : List (Option Value)) (index : Nat) :
    Option (Option α) :=
  match fields[index]?.join with
  | none => some none
  | some value => (kind value).map some

/-! ## 3. Documents -/

def ofEntries? (entries : Entries) : Option Preferences := do
  let server ← section? entries "server" ["listen", "backlog"]
  let listen ← field? asText? server 0
  let backlog ← field? asBacklog? server 1
  let protocol ← section? entries "protocol" ["mode"]
  let policy ← field? asPolicy? protocol 0
  let logging ← section? entries "logging" ["level"]
  let level ← field? asText? logging 0
  return { listen, backlog, policy, level }

def parse? (text : String) : Option Preferences :=
  (Toml.parse? text).bind ofEntries?

end BufferKeeper.ConfigFile
