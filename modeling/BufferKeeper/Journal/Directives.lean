import BufferKeeper.Bytes.Splice
import BufferKeeper.Journal.Level
import BufferKeeper.Journal.ValuePattern
import BufferKeeper.Text.Utf8

/-!
# Log directives

A filter for log lines is written as directives with commas between them. A directive is a level, a
target, or a target with a level after an equals sign; a target alone stands for every level. Of
the directives whose target starts the target of a line, the one with the longest target decides.

Behind the target, brackets may hold the name of a span and, in braces, a field. A directive with a
field concerns only lines that have the field, and goes before one without. A directive with a
span's name or with a value for its field concerns spans only and lets no line through by itself.
-/

namespace BufferKeeper.Journal

open Text

/-! ## 1. Directives -/

/-- Without a target a directive concerns every target. -/
structure Directive where
  target : String
  field : Option String
  spansOnly : Bool
  threshold : Threshold
  deriving DecidableEq

inductive DirectiveError where
  | malformed
  | noLevel
  | noPattern (flaw : Pattern.Flaw)
  deriving DecidableEq

def flawText : Pattern.Flaw → String
  | .malformed => "error building NFA"
  | .wordBorder =>
    "unsupported regex feature for DFAs: cannot build DFAs for regexes with Unicode word "
      ++ "boundaries; switch to ASCII word boundaries, or heuristically enable Unicode word "
      ++ "boundaries or use a different regex engine"

def DirectiveError.message : DirectiveError → String
  | .malformed => "invalid filter directive"
  | .noLevel =>
    "error parsing level filter: expected one of \"off\", \"error\", \"warn\", \"info\", \"debug\", "
      ++ "\"trace\", or a number 0-5"
  | .noPattern flaw => "invalid field filter: " ++ flawText flaw

namespace Directive

def everything : Directive :=
  ⟨"", none, false, .atLeast .trace⟩

def errors : Directive :=
  ⟨"", none, false, .atLeast .error⟩

end Directive

/-! ## 2. Levels -/

/-- The threshold of a number from 0 to 5, perhaps with a plus sign, or of a word in either case. -/
def thresholdOf? (word : String) : Option Threshold :=
  let digits := match word.toList with
    | '+' :: digits => digits
    | digits => digits
  match ofDigits? 10 digits with
  | some 0 => some .off
  | some 1 => some (.atLeast .error)
  | some 2 => some (.atLeast .warn)
  | some 3 => some (.atLeast .info)
  | some 4 => some (.atLeast .debug)
  | some 5 => some (.atLeast .trace)
  | _ => Threshold.ofName? word.toLower

/-- The level behind an equals sign; nothing stands for every level. -/
def Directive.withLevel (d : Directive) (word : String) : Except DirectiveError Directive :=
  if word = "" then .ok d
  else
    match thresholdOf? word with
    | some threshold => .ok { d with threshold }
    | none => .error .noLevel

/-! ## 3. Reading -/

def byteSize (cs : List Char) : Nat :=
  cs.foldl (fun size c => size + c.utf8Size) 0

def trimmed (s : String) : List Char :=
  ((s.toList.dropWhile isSpace).reverse.dropWhile isSpace).reverse

/-- Positions are in bytes. -/
def part (s : String) (start stop : Nat) : String :=
  lossy (ofBytes (Bytes.slice s.toUTF8.toList start (stop - start)))

def partFrom (s : String) (start : Nat) : String :=
  part s start s.utf8ByteSize

/-- Whether a character can be the first of a directive that does not start with brackets. -/
def canStart (c : Char) : Bool :=
  isLetterOrNumber c || c = '-' || c = ':' || c = '_'

namespace Directive

def withField (d : Directive) (text : String) : Except DirectiveError Directive :=
  let name := text.toList.takeWhile (· ≠ '=')
  match text.toList.drop name.length with
  | [] => if name = [] then .error .malformed else .ok { d with field := String.ofList name }
  | _ :: value =>
    match checkValuePattern (value.takeWhile (· ≠ '=')) with
    | .ok _ => .ok { d with spansOnly := true }
    | .error flaw => .error (.noPattern flaw)

/-- The directive with what stands behind its brackets, which is `rest` and begins at `position`. -/
def withRest (d : Directive) (s : String) (position : Nat) (rest : List Char) :
    Except DirectiveError Directive :=
  match rest with
  | [] => .ok d
  | '=' :: _ => d.withLevel (partFrom s (position + 1))
  | _ => .error .malformed

/-- The directive with brackets, whose inside is `inner` and begins at `position`. -/
def withBrackets (d : Directive) (s : String) (position : Nat) (inner : List Char) :
    Except DirectiveError Directive :=
  let name := inner.takeWhile fun c => c ≠ ']' ∧ c ≠ '\x7B'
  let stop := position + byteSize name
  match inner.drop name.length with
  | [] => .error .malformed
  | ']' :: rest => { d with spansOnly := true }.withRest s (stop + 1) rest
  | _ :: inBraces => do
    let d := { d with spansOnly := part s position stop ≠ "" }
    let field := inBraces.takeWhile (· ≠ '\x7D')
    let fieldStop := stop + 1 + byteSize field
    match inBraces.drop field.length with
    | [] => .error .malformed
    | _ :: behind =>
      let d ← d.withField (part s (stop + 1) fieldStop)
      match behind with
      | ']' :: rest => d.withRest s (fieldStop + 2) rest
      | _ => .error .malformed

/-- The directive that a text without commas is. Blanks around it do not count when its parts are
told apart. The parts themselves are then cut out of the whole text, at the positions that they have
without the blanks before them. -/
def read (s : String) : Except DirectiveError Directive :=
  match trimmed s with
  | [] => .error .malformed
  | '[' :: inner => everything.withBrackets s 1 inner
  | c :: rest =>
    if canStart c then
      let name := (c :: rest).takeWhile fun c => c ≠ '=' ∧ c ≠ '['
      let stop := byteSize name
      match (c :: rest).drop name.length with
      | [] =>
        match thresholdOf? s with
        | some threshold => .ok { everything with threshold }
        | none => .ok { everything with target := s }
      | '=' :: _ => { everything with target := part s 0 stop }.withLevel (partFrom s (stop + 1))
      | _ :: inner => { everything with target := part s 0 stop }.withBrackets s (stop + 1) inner
    else
      .error .malformed

end Directive

/-! ## 4. Lists of directives -/

def directiveTexts (s : String) : List String :=
  ((s.toList.splitOn ',').filter (· ≠ [])).map String.ofList

def readDirectives? (s : String) : Option (List Directive) :=
  (directiveTexts s).mapM fun text => (Directive.read text).toOption

/-- Errors are let through if no directive can be read. -/
def readableDirectives (s : String) : List Directive :=
  match (directiveTexts s).filterMap fun text => (Directive.read text).toOption with
  | [] => [.errors]
  | directives => directives

def complaints (s : String) : List String :=
  (directiveTexts s).filterMap fun text =>
    match Directive.read text with
    | .ok _ => none
    | .error e => some ("ignoring \x60" ++ text ++ "\x60: " ++ e.message)

/-! ## 5. Filtering -/

namespace Directive

def concerns (d : Directive) (target : String) (fields : List String) : Bool :=
  !d.spansOnly && d.target.toList.isPrefixOf target.toList && d.field.all fields.contains

/-- Whether a directive decides only where the other does not: its target is shorter, or as long
and only the other has a field, or both have one and the other's is later in order. -/
def isWeaker (d other : Directive) : Bool :=
  d.target.length < other.target.length ||
    (d.target.length = other.target.length &&
      match d.field, other.field with
      | none, some _ => true
      | some field, some later => field < later
      | _, none => false)

/-- The one of two directives that decides; of equals the later. -/
def stronger (best : Option Directive) (d : Directive) : Option Directive :=
  match best with
  | none => some d
  | some b => if d.isWeaker b then some b else some d

end Directive

def directivesAdmit (directives : List Directive) (target : String) (fields : List String)
    (level : Level) : Bool :=
  match (directives.filter fun d => d.concerns target fields).foldl Directive.stronger none with
  | none => false
  | some d => d.threshold.admits level

end BufferKeeper.Journal
