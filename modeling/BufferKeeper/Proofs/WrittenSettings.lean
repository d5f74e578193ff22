import BufferKeeper.Proofs.AddressForms
import BufferKeeper.Proofs.Precedence
import BufferKeeper.Proofs.WrittenOptions

/-!
# Settings as a command line

Settings can be written as a command line that names no file: each of the four options with its value
attached, so that a value may look like anything, and the extra arguments behind the separator. This
command line leads back to the settings.
-/

namespace BufferKeeper

open Address CommandLine Text

/-! ## 1. Values -/

theorem Text.ofString_append (s t : String) : ofString (s ++ t) = ofString s ++ ofString t := by
  rw [ofString, String.toList_append, List.map_append]
  rfl

namespace CommandLine

theorem Given.textValue_ofString (text : String) : textValue (ofString text) = .ok text := by
  rw [textValue, text?_ofString]

theorem Given.backlogValue_written (n : Int32) :
    backlogValue (ofString (signedDecimal n.toInt)) = .ok n := by
  have hnumber : (ofSigned? (signedDecimal n.toInt).toList).bind int32? = some n := by
    rw [ofSigned?_signedDecimal, Option.bind_some, int32?_toInt]
  unfold backlogValue
  rw [textValue_ofString]
  dsimp only [bind, Except.bind]
  rw [hnumber]

theorem Given.modeValue_written (policy : Policy) : modeValue (ofString policy.name) = .ok policy := by
  rw [modeValue, text?_ofString, Option.bind_some, Policy.ofName?_name]

theorem reads_written (setting : Setting) (value : String) :
    Reads setting (ofString value) [ofString ("--" ++ setting.name ++ "=" ++ value)] := by
  rw [ofString_append]
  exact .attached (ofArgument_attached setting (ofString value))

end CommandLine

/-! ## 2. The command line -/

namespace Settings

def arguments (program : Argument) (settings : Settings) : List Argument :=
  [ program,
    ofString ("--listen=" ++ settings.listen.render),
    ofString ("--backlog=" ++ signedDecimal settings.backlog.toInt),
    ofString ("--mode=" ++ settings.policy.name),
    ofString ("--log-level=" ++ settings.level),
    ofString "--" ] ++ settings.extras.map ofString

/-- What the written command line gives: everything but a file. -/
def given (settings : Settings) : Given where
  config := none
  preferences :=
    { listen := some settings.listen.render
      backlog := some settings.backlog
      policy := some settings.policy
      level := some settings.level }
  extras := settings.extras

theorem ofArguments_arguments (program : Argument) (settings : Settings) :
    Given.ofArguments (settings.arguments program) = .ok settings.given := by
  have hlisten : Choice.read .listen (ofString settings.listen.render) =
      .ok (.listen settings.listen.render) := by
    rw [Choice.read, Given.textValue_ofString]
    rfl
  have hbacklog : Choice.read .backlog (ofString (signedDecimal settings.backlog.toInt)) =
      .ok (.backlog settings.backlog) := by
    rw [Choice.read, Given.backlogValue_written]
    rfl
  have hmode : Choice.read .mode (ofString settings.policy.name) = .ok (.mode settings.policy) := by
    rw [Choice.read, Given.modeValue_written]
    rfl
  have hlevel : Choice.read .logLevel (ofString settings.level) = .ok (.logLevel settings.level) := by
    rw [Choice.read, Given.textValue_ofString]
    rfl
  calc
    Given.ofArguments (settings.arguments program)
    _ = _ := (reads_written .listen _).scan_append (Given.record_of_not_has rfl hlisten) _
    _ = _ := (reads_written .backlog _).scan_append (Given.record_of_not_has rfl hbacklog) _
    _ = _ := (reads_written .mode _).scan_append (Given.record_of_not_has rfl hmode) _
    _ = _ := (reads_written .logLevel _).scan_append (Given.record_of_not_has rfl hlevel) _
    _ = _ := Given.scan_separator _ settings.extras

end Settings

/-! ## 3. The law -/

/-- Settings of any kind, and so all that a command line and files can lead to, come back from their
written command line, whatever the files: address with port and scope, backlog, policy, level and extra
arguments, and with these the wish for log lines and their filter. -/
theorem settings_reproduce_themselves (files : FileSystem) (program : Argument) (settings : Settings) :
    Settings.load files (settings.arguments program) = .ok settings := by
  have hresolve : Settings.resolve files settings.given = .ok settings := by
    have hlisten :
        SocketAddress.parse? (settings.given.preferences.orElse .none).complete.listen =
          some settings.listen := SocketAddress.parse?_render settings.listen
    rw [Settings.resolve_of_loadGiven rfl]
    dsimp only
    rw [hlisten]
    rfl
  unfold Settings.load
  rw [Settings.ofArguments_arguments]
  dsimp only
  rw [hresolve]

example :
    let settings : Settings :=
      { listen := .v6 ⟨[0xfe80, 0, 0, 0, 0, 0, 0, 1], rfl⟩ 80 2
        backlog := -3
        policy := .vulnerable
        level := "--mode"
        extras := ["-h"] }
    settings.arguments (ofString "keeper") =
      ["keeper", "--listen=[fe80::1%2]:80", "--backlog=-3", "--mode=vulnerable", "--log-level=--mode",
        "--", "-h"].map ofString := by
  decide

end BufferKeeper
