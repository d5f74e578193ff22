import BufferKeeper.Exchange.Host
import BufferKeeper.Journal.Directives
import BufferKeeper.Journal.Notice
import BufferKeeper.Settings.Resolve
import BufferKeeper.Text.Escaped

/-!
# The program

The program loads its settings, prints a first log line, binds its address and serves. It ends by
itself only before it serves: with a help or version text and exit code 0, on a refused command line
with exit code 2, and on any other error with exit code 1. `Start.ofArguments` decides how far it
gets.

Log lines go to the standard output. They are filtered by the log level of the settings, and only
when log lines are wanted at all; then log directives from the environment, if they can be read,
replace the level.
-/

namespace BufferKeeper

open Address CommandLine Journal Text

/-! ## 1. Reports of errors -/

def Fault.report (fault : Fault) : String :=
  let kindAndText := "kind: " ++ fault.kind ++ ", message: " ++ quoted fault.text ++ " \x7d"
  match fault.code? with
  | some code => "Os \x7b code: " ++ decimal code ++ ", " ++ kindAndText
  | none =>
    match fault with
    | .other text => "Custom \x7b kind: Other, error: " ++ quoted text ++ " \x7d"
    | _ => "Error \x7b " ++ kindAndText

/-- `none` for an invalid file, since what is wrong inside is not said. -/
def ConfigError.report? : ConfigError → Option String
  | .fileRead path cause =>
    some ("FileRead(" ++ quotedGlyphs path ++ ", " ++ cause.report ++ ")")
  | .fileInvalid _ => none
  | .invalidListen text => some ("InvalidListen(" ++ quoted text ++ ")")

def ServerError.report : ServerError → String
  | .bind address cause => "Bind(" ++ address.render ++ ", " ++ cause.report ++ ")"
  | .listener cause => "Io(" ++ cause.report ++ ")"

/-! ## 2. Ends -/

/-- `errors` is `none` where the text on the standard error is left open. -/
structure End where
  exitCode : Nat
  output : List String
  errors : Option (List String)
  deriving DecidableEq

/-- The lines of a text that ends with a line end. -/
def linesOf (text : String) : List String :=
  ((text.toList.splitOn '\n').dropLast).map String.ofList

def endOfStop (arguments : List Argument) (stop : Stop) : End :=
  match stop.text? arguments with
  | some text => { exitCode := 0, output := linesOf text, errors := some [] }
  | none => { exitCode := 2, output := [], errors := none }

def endOfError (output warnings : List String) (report? : Option String) : End :=
  { exitCode := 1, output, errors := report?.map fun report => warnings ++ ["Error: " ++ report] }

/-! ## 3. Starting -/

structure Surroundings where
  files : FileSystem
  host : Host
  directives : Option String

def programTarget : String :=
  String.ofList (programName.toList.map fun c => if c = '-' then '_' else c)

/-- The target of a notice: the program itself starts, and its server does the rest. -/
def noticeTarget : Notice → String
  | .starting _ _ _ _ => programTarget
  | _ => programTarget ++ "::server"

/-- The target of an event: the region reports that it was replaced, the keeper everything else. -/
def eventTarget : Event → String
  | .replaced _ _ => programTarget ++ "::storage"
  | _ => programTarget ++ "::handler"

/-- The directives in force, and what is said about directives that cannot be read. -/
def logDirectives (surroundings : Surroundings) (settings : Settings) :
    List Directive × List String :=
  match if settings.verbose then surroundings.directives.bind readDirectives? else none with
  | some directives => (directives, [])
  | none => (readableDirectives settings.logFilter, complaints settings.logFilter)

def startNotice (settings : Settings) : Notice :=
  .starting programName settings.listen.render settings.backlog.toInt settings.policy

def noticeLines (directives : List Directive) (notices : List Notice) : List String :=
  let admitted (n : Notice) :=
    directivesAdmit directives (noticeTarget n) (partNames n.fields) n.level
  (notices.filter admitted).map Notice.line

def eventLines (directives : List Directive) (events : List Event) : List String :=
  let admitted (e : Event) :=
    directivesAdmit directives (eventTarget e) (partNames e.fields) e.level
  (events.filter admitted).map Event.line

/-- How far the program gets: it ends, or it serves with these settings and log directives after it
has printed these lines. -/
inductive Start where
  | ended (result : End)
  | serving (settings : Settings) (keeper : Keeper) (directives : List Directive)
      (output warnings : List String)

/-- The first argument is the program's own path. -/
def Start.ofArguments (surroundings : Surroundings) (arguments : List Argument) : Start :=
  match Settings.load surroundings.files arguments with
  | .error (.stopped stop) => .ended (endOfStop arguments stop)
  | .error (.config error) => .ended (endOfError [] [] error.report?)
  | .ok settings =>
    let (directives, warnings) := logDirectives surroundings settings
    let output := noticeLines directives [startNotice settings]
    match surroundings.host.bind settings.listen settings.policy with
    | .error error => .ended (endOfError output warnings (some error.report))
    | .ok keeper => .serving settings keeper directives output warnings

end BufferKeeper
