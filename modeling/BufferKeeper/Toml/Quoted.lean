import BufferKeeper.Toml.Blank

/-!
# TOML strings

A string stands between quotation marks, where a backslash starts an escape, or between
apostrophes, where every character is itself. Either kind may be written with three marks on both
sides; it can then span lines, a line end right after the opening marks is dropped, every line end
counts as a line feed, and up to two marks may stand directly before the closing three.
-/

namespace BufferKeeper.Toml

open Text

/-! ## 1. Marks and escapes -/

/-- The mark of strings with escapes. -/
def quotationMark : Char := '\x22'

/-- The mark of strings without escapes. -/
def apostrophe : Char := '\x27'

def readCodePoint (count : Nat) : Reader Char := fun s =>
  match ofDigits? 16 (s.take count) with
  | some n =>
    if (s.take count).length = count ∧ n.isValidChar then some (Char.ofNat n, s.drop count)
    else none
  | none => none

/-- Read from behind the backslash. -/
def readEscape : Reader Char
  | 'b' :: rest => some ('\x08', rest)
  | 't' :: rest => some ('\t', rest)
  | 'n' :: rest => some ('\n', rest)
  | 'f' :: rest => some ('\x0C', rest)
  | 'r' :: rest => some ('\r', rest)
  | '\\' :: rest => some ('\\', rest)
  | 'u' :: rest => readCodePoint 4 rest
  | 'U' :: rest => readCodePoint 8 rest
  | c :: rest => if c = quotationMark then some (c, rest) else none
  | [] => none

/-! ## 2. Strings on one line -/

def readClose (mark : Char) : Reader (List Char) := fun s =>
  (skipChar mark s).map fun rest => ([], rest)

def readLinePiece (escapes : Bool) : Reader (List Char)
  | [] => none
  | c :: rest =>
    if escapes ∧ c = '\\' then (readEscape rest).map fun (x, rest) => ([x], rest)
    else if isPlain c then some ([c], rest)
    else none

/-- Read from behind the opening mark. -/
def readLineString (mark : Char) : Reader String := fun s =>
  (readUntil (readClose mark) (readLinePiece (mark = quotationMark)) s).map
    fun (cs, rest) => (String.ofList cs, rest)

/-! ## 3. Strings over several lines -/

/-- The closing three marks, with up to two more of them before that belong to the string. -/
def readTripleClose (mark : Char) : Reader (List Char) := fun s =>
  (skipChars [mark, mark, mark] s).map fun rest =>
    let inner := (rest.take 2).takeWhile (· = mark)
    (inner, rest.drop inner.length)

def readBlankOrNewline : Reader Unit
  | [] => none
  | c :: rest =>
    if isBlank c then some ((), rest) else (skipNewline (c :: rest)).map fun rest => ((), rest)

/-- The text behind a line end that a backslash escapes, with all blanks and line ends that follow;
read from behind the backslash. -/
def skipEscapedNewline (s : List Char) : Option (List Char) :=
  (skipNewline (skipBlanks s)).map fun rest =>
    (many readBlankOrNewline rest).2

def readBlockPiece (escapes : Bool) : Reader (List Char) := fun s =>
  match skipNewline s with
  | some rest => some (['\n'], rest)
  | none =>
    match s with
    | [] => none
    | c :: rest =>
      if escapes ∧ c = '\\' then
        match skipEscapedNewline rest with
        | some rest => some ([], rest)
        | none => (readEscape rest).map fun (x, rest) => ([x], rest)
      else if isPlain c then
        some ([c], rest)
      else
        none

def readBlockString (mark : Char) : Reader String := fun s =>
  (readUntil (readTripleClose mark) (readBlockPiece (mark = quotationMark))
      ((skipNewline s).getD s)).map
    fun (cs, rest) => (String.ofList cs, rest)

def readString : Reader String
  | [] => none
  | mark :: rest =>
    if mark = quotationMark ∨ mark = apostrophe then
      match skipChars [mark, mark] rest with
      | some inner => readBlockString mark inner
      | none => readLineString mark rest
    else
      none

end BufferKeeper.Toml
