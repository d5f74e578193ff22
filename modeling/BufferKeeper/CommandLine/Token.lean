import BufferKeeper.Text.Utf8

/-!
# Options on the command line

An argument is one of these: the separator `--`; a setting, spelled out after two hyphens or as one
letter after a single one, with or without a value attached; a request for help or for the version;
or plain, which includes everything that merely looks like an option. Letters may be joined only
when each of them is known, and then the first one counts: a request acts, and a setting takes the
other letters as its value.
-/

namespace BufferKeeper.CommandLine

open Text

abbrev Argument := List Glyph

/-! ## 1. Names -/

/-- An option that takes a value. -/
inductive Setting where
  | config
  | listen
  | backlog
  | mode
  | logLevel
  deriving DecidableEq

/-- An option that ends the program with a text. -/
inductive Request where
  | help
  | version
  deriving DecidableEq

def Setting.ofName? (name : String) : Option Setting :=
  if name = "config" then some .config
  else if name = "listen" then some .listen
  else if name = "backlog" then some .backlog
  else if name = "mode" then some .mode
  else if name = "log-level" then some .logLevel
  else none

def Setting.name : Setting → String
  | .config => "config"
  | .listen => "listen"
  | .backlog => "backlog"
  | .mode => "mode"
  | .logLevel => "log-level"

def Request.ofName? (name : String) : Option Request :=
  if name = "help" then some .help
  else if name = "version" then some .version
  else none

def Setting.ofLetter? (c : Char) : Option Setting :=
  if c = 'c' then some .config
  else if c = 'l' then some .listen
  else none

def Request.ofLetter? (c : Char) : Option Request :=
  if c = 'h' then some .help
  else if c = 'V' then some .version
  else none

def isKnownLetter : Glyph → Bool
  | .char c => (Setting.ofLetter? c).isSome || (Request.ofLetter? c).isSome
  | .broken _ => false

/-! ## 2. Kinds of arguments -/

inductive Token where
  /-- Two hyphens and nothing else. -/
  | separator
  | setting (setting : Setting) (attached : Option Argument)
  | request (request : Request) (isLong : Bool)
  /-- A request with a value attached. -/
  | overfull
  /-- Two hyphens and a name that is no text. -/
  | unreadable
  | plain
  deriving DecidableEq

def ofLong (body : List Glyph) : Token :=
  let name := body.takeWhile (· ≠ .char '=')
  let attached := (body.dropWhile (· ≠ .char '=')).tail?
  match text? name with
  | none => .unreadable
  | some name =>
    match Setting.ofName? name, Request.ofName? name, attached with
    | some setting, _, _ => .setting setting attached
    | none, some request, none => .request request true
    | none, some _, some _ => .overfull
    | none, none, _ => .plain

def ofShort (body : List Glyph) : Token :=
  match body with
  | .char c :: rest =>
    if body.all isKnownLetter then
      match Setting.ofLetter? c, Request.ofLetter? c with
      | some setting, _ => .setting setting (if rest = [] then none else some rest)
      | none, some request => .request request false
      | none, none => .plain
    else
      .plain
  | _ => .plain

def Token.ofArgument : Argument → Token
  | .char '-' :: .char '-' :: body => if body = [] then .separator else ofLong body
  | .char '-' :: body => ofShort body
  | _ => .plain

end BufferKeeper.CommandLine
