import BufferKeeper.CommandLine.Usage
import BufferKeeper.Settings.Preferences
import BufferKeeper.Text.Numeral

/-!
# What the command line gives

Arguments are taken from left to right. A setting without an attached value waits for the next
argument, which must be plain. The first plain argument that nobody waits for begins the extra
arguments, and so does the separator; whatever follows belongs to them.

A value is checked only when the next option, an extra argument or the end is reached. A request
with a value attached and an option name that is no text are refused at once, before any value that
is still unchecked.
-/

namespace BufferKeeper.CommandLine

open Text

/-! ## 1. Results -/

inductive UsageError where
  | missingValue (setting : Setting)
  | invalidValue (setting : Setting)
  | invalidNumber (setting : Setting)
  | repeated (setting : Setting)
  | notText
  /-- An option's name is no text. -/
  | unknownOption
  /-- A request has a value attached. -/
  | unexpectedValue
  deriving DecidableEq

inductive Stop where
  | help (isLong : Bool)
  | version
  | refused (error : UsageError)
  deriving DecidableEq

structure Given where
  config : Option Argument
  preferences : Preferences
  extras : List String
  deriving DecidableEq

namespace Given

def nothing : Given :=
  ⟨none, .none, []⟩

def has (given : Given) : Setting → Bool
  | .config => given.config.isSome
  | .listen => given.preferences.listen.isSome
  | .backlog => given.preferences.backlog.isSome
  | .mode => given.preferences.policy.isSome
  | .logLevel => given.preferences.level.isSome

/-! ## 2. Values -/

def textValue (value : Argument) : Except Stop String :=
  match text? value with
  | some text => .ok text
  | none => .error (.refused .notText)

def backlogValue (value : Argument) : Except Stop Int32 := do
  let text ← textValue value
  match (ofSigned? text.toList).bind int32? with
  | some n => .ok n
  | none => .error (.refused (.invalidNumber .backlog))

def modeValue (value : Argument) : Except Stop Policy :=
  match (text? value).bind Policy.ofName? with
  | some policy => .ok policy
  | none => .error (.refused (.invalidValue .mode))

def assign (given : Given) (setting : Setting) (value : Argument) : Except Stop Given :=
  match setting with
  | .config =>
    if value = [] then .error (.refused (.invalidValue .config))
    else .ok { given with config := some value }
  | .listen => do
    let listen ← textValue value
    return { given with preferences := { given.preferences with listen := some listen } }
  | .backlog => do
    let backlog ← backlogValue value
    return { given with preferences := { given.preferences with backlog := some backlog } }
  | .mode => do
    let policy ← modeValue value
    return { given with preferences := { given.preferences with policy := some policy } }
  | .logLevel => do
    let level ← textValue value
    return { given with preferences := { given.preferences with level := some level } }

/-- What is given with one more setting, which must not have been given before. -/
def record (given : Given) (setting : Setting) (value : Argument) : Except Stop Given :=
  if given.has setting then .error (.refused (.repeated setting)) else given.assign setting value

def withExtras (given : Given) (arguments : List Argument) : Except Stop Given := do
  let extras ← arguments.mapM textValue
  return { given with extras }

/-! ## 3. Arguments -/

/-- The last option, as far as its value has not been checked. -/
inductive Pending where
  | nothing
  | awaiting (setting : Setting)
  | holding (setting : Setting) (value : Argument)
  deriving DecidableEq

def settle (given : Given) : Pending → Except Stop Given
  | .nothing => .ok given
  | .awaiting setting => .error (.refused (.missingValue setting))
  | .holding setting value => given.record setting value

def stopFor (request : Request) (isLong : Bool) : Stop :=
  match request with
  | .help => .help isLong
  | .version => .version

def scan (given : Given) (pending : Pending) : List Argument → Except Stop Given
  | [] => given.settle pending
  | argument :: rest =>
    match Token.ofArgument argument with
    | .unreadable => .error (.refused .unknownOption)
    | .overfull => .error (.refused .unexpectedValue)
    | .separator => do
      let given ← given.settle pending
      given.withExtras rest
    | .request request isLong => do
      let _ ← given.settle pending
      .error (stopFor request isLong)
    | .setting setting (some value) => do
      let given ← given.settle pending
      let given ← given.record setting value
      scan given .nothing rest
    | .setting setting none => do
      let given ← given.settle pending
      scan given (.awaiting setting) rest
    | .plain =>
      match pending with
      | .awaiting setting => scan given (.holding setting argument) rest
      | _ => do
        let given ← given.settle pending
        given.withExtras (argument :: rest)

/-- The first argument is the path of the program and gives nothing. -/
def ofArguments (arguments : List Argument) : Except Stop Given :=
  scan nothing .nothing arguments.tail

end Given

/-- The text printed for a stop that is no error. -/
def Stop.text? (arguments : List Argument) : Stop → Option String
  | .help true => some (longHelp (usageName arguments.head?))
  | .help false => some (shortHelp (usageName arguments.head?))
  | .version => some versionText
  | .refused _ => none

end BufferKeeper.CommandLine
