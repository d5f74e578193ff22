import BufferKeeper.CommandLine.Given
import BufferKeeper.Settings.Directory
import BufferKeeper.Settings.File

/-!
# Resolving settings

The command line takes precedence over the configuration file that it names, and the file over the
defaults, for each setting by itself. The file is read and checked before the listen address is, so
a bad file is reported whatever else is wrong.
-/

namespace BufferKeeper

open Address CommandLine Text

/-! ## 1. Settings -/

structure Settings where
  listen : SocketAddress
  backlog : Int32
  policy : Policy
  level : String
  extras : List String

namespace Settings

/-- A single extra argument asks for log lines. -/
def verbose (settings : Settings) : Bool :=
  settings.extras.length = 1

def logFilter (settings : Settings) : String :=
  if settings.verbose then settings.level else "off"

end Settings

/-! ## 2. The file -/

def ConfigFile.load (files : FileSystem) (path : List Glyph) : Except ConfigError Preferences :=
  match files path with
  | .error cause => .error (.fileRead path cause)
  | .ok bytes =>
    match text? (ofBytes bytes) with
    | none => .error (.fileRead path .notUtf8)
    | some text =>
      match ConfigFile.parse? text with
      | none => .error (.fileInvalid path)
      | some preferences => .ok preferences

def ConfigFile.loadGiven (files : FileSystem) (given : Given) : Except ConfigError Preferences :=
  match given.config with
  | none => .ok .none
  | some path => ConfigFile.load files path

/-! ## 3. Both together -/

def Settings.resolve (files : FileSystem) (given : Given) : Except ConfigError Settings := do
  let file ← ConfigFile.loadGiven files given
  let choices := (given.preferences.orElse file).complete
  match SocketAddress.parse? choices.listen with
  | none => .error (.invalidListen choices.listen)
  | some listen =>
    return {
      listen
      backlog := choices.backlog
      policy := choices.policy
      level := choices.level
      extras := given.extras }

inductive LoadError where
  | stopped (stop : Stop)
  | config (error : ConfigError)

def Settings.load (files : FileSystem) (arguments : List Argument) : Except LoadError Settings :=
  match Given.ofArguments arguments with
  | .error stop => .error (.stopped stop)
  | .ok given =>
    match Settings.resolve files given with
    | .error error => .error (.config error)
    | .ok settings => .ok settings

end BufferKeeper
