import BufferKeeper.Address.Socket
import BufferKeeper.Text.Utf8

/-!
# Faults of the environment

Files and connections can fail for reasons that lie outside the server. A fault names the reason;
most are reported by the operating system under a number. The errors that end the program while it
sets itself up wrap such a fault together with the file or address concerned.
-/

namespace BufferKeeper

open Address Text

/-! ## 1. Faults -/

inductive Fault where
  | notFound
  | notDirectory
  | isDirectory
  | nameTooLong
  | addressInUse
  | addressNotAvailable
  | networkUnreachable
  | zeroInName
  | notUtf8
  | other (text : String)
  deriving DecidableEq

namespace Fault

/-- The operating system's number, where the fault has one. -/
def code? : Fault → Option Nat
  | .notFound => some 2
  | .notDirectory => some 20
  | .isDirectory => some 21
  | .nameTooLong => some 36
  | .addressInUse => some 98
  | .addressNotAvailable => some 99
  | .networkUnreachable => some 101
  | .zeroInName => none
  | .notUtf8 => none
  | .other _ => none

/-- The text of a fault without its number. -/
def text : Fault → String
  | .notFound => "No such file or directory"
  | .notDirectory => "Not a directory"
  | .isDirectory => "Is a directory"
  | .nameTooLong => "File name too long"
  | .addressInUse => "Address already in use"
  | .addressNotAvailable => "Cannot assign requested address"
  | .networkUnreachable => "Network is unreachable"
  | .zeroInName => "file name contained an unexpected NUL byte"
  | .notUtf8 => "stream did not contain valid UTF-8"
  | .other text => text

def message (f : Fault) : String :=
  match f.code? with
  | some code => f.text ++ " (os error " ++ decimal code ++ ")"
  | none => f.text

def kind : Fault → String
  | .notFound => "NotFound"
  | .notDirectory => "NotADirectory"
  | .isDirectory => "IsADirectory"
  | .nameTooLong => "InvalidFilename"
  | .addressInUse => "AddrInUse"
  | .addressNotAvailable => "AddrNotAvailable"
  | .networkUnreachable => "NetworkUnreachable"
  | .zeroInName => "InvalidInput"
  | .notUtf8 => "InvalidData"
  | .other _ => "Other"

end Fault

/-! ## 2. Errors of the set-up -/

inductive ConfigError where
  | fileRead (path : List Glyph) (cause : Fault)
  | fileInvalid (path : List Glyph)
  | invalidListen (text : String)
  deriving DecidableEq

/-- What is wrong inside an invalid file is not said. -/
def ConfigError.message : ConfigError → String
  | .fileRead path cause =>
    "Failed to read config file '" ++ lossy path ++ "': " ++ cause.message
  | .fileInvalid path => "Failed to parse config file '" ++ lossy path ++ "': "
  | .invalidListen text => "Invalid listen address '" ++ text ++ "'"

inductive ServerError where
  | bind (address : SocketAddress) (cause : Fault)
  | listener (cause : Fault)

def ServerError.message : ServerError → String
  | .bind address cause => "Failed to bind " ++ address.render ++ ": " ++ cause.message
  | .listener cause => "Listener error: " ++ cause.message

end BufferKeeper
