import BufferKeeper.CommandLine.Token
import BufferKeeper.Text.Terminal

/-!
# Help and version texts

The usage line of both help texts names the program by the last component of the path under which
it was called, without terminal controls. The version text always has the program's own name.
-/

namespace BufferKeeper.CommandLine

open Text

/-! ## 1. The program's name -/

def programName : String := "slab-vault"

def components (path : List Glyph) : List (List Glyph) :=
  path.splitOn (.char '/')

/-- The last component of a path that names a file: empty parts and single dots do not count, and a
path that ends in two dots names none. -/
def fileName? (path : List Glyph) : Option (List Glyph) :=
  match ((components path).filter fun part => part ≠ [] ∧ part ≠ ofString ".").getLast? with
  | none => none
  | some part => if part = ofString ".." then none else some part

def usageName (path : Option Argument) : String :=
  plain (((path.bind fileName?).bind text?).getD programName)

/-! ## 2. Texts -/

def textOfLines (lines : List String) : String :=
  String.join (lines.map (· ++ "\n"))

def longHelp (name : String) : String :=
  textOfLines
    [ "A single-connection server guarding one stored byte buffer",
      "",
      "Usage: " ++ name ++ " [OPTIONS] [VERBOSE]...",
      "",
      "Arguments:",
      "  [VERBOSE]...",
      "          A single extra argument of any kind enables verbose logging",
      "",
      "Options:",
      "  -c, --config <CONFIG>",
      "          Path to TOML configuration file",
      "",
      "  -l, --listen <LISTEN>",
      "          Address to bind to (e.g., 0.0.0.0:8080)",
      "",
      "      --backlog <BACKLOG>",
      "          Listen backlog for pending connections",
      "",
      "      --mode <MODE>",
      "          Bounds checking policy",
      "",
      "          Possible values:",
      "          - safe:       Full offset + length checks on every read and write",
      "          - vulnerable: Reproduce the historical admission checks: writes only compare "
        ++ "`length` against the stored size and reads use wrapping arithmetic",
      "",
      "      --log-level <LOG_LEVEL>",
      "          Log level used when verbose logging is on (trace, debug, info, warn, error)",
      "",
      "  -h, --help",
      "          Print help (see a summary with '-h')",
      "",
      "  -V, --version",
      "          Print version" ]

def shortHelp (name : String) : String :=
  textOfLines
    [ "A single-connection server guarding one stored byte buffer",
      "",
      "Usage: " ++ name ++ " [OPTIONS] [VERBOSE]...",
      "",
      "Arguments:",
      "  [VERBOSE]...  A single extra argument of any kind enables verbose logging",
      "",
      "Options:",
      "  -c, --config <CONFIG>        Path to TOML configuration file",
      "  -l, --listen <LISTEN>        Address to bind to (e.g., 0.0.0.0:8080)",
      "      --backlog <BACKLOG>      Listen backlog for pending connections",
      "      --mode <MODE>            Bounds checking policy [possible values: safe, vulnerable]",
      "      --log-level <LOG_LEVEL>  Log level used when verbose logging is on "
        ++ "(trace, debug, info, warn, error)",
      "  -h, --help                   Print help (see more with '--help')",
      "  -V, --version                Print version" ]

def versionText : String :=
  textOfLines [programName ++ " 0.1.0"]

end BufferKeeper.CommandLine
