import BufferKeeper.Fault

/-!
# Files by path

Settings need one thing of the file system: what comes of opening a path and reading all of it. A
`Directory` is the part of a file system that is known by listing it, and `Directory.fileSystem` walks a
path through it, component by component, as an operating system does.
-/

namespace BufferKeeper

open Text

abbrev FileSystem := List Glyph → Except Fault (List UInt8)

/-! ## 1. Listed files -/

inductive Entry where
  | file (bytes : List UInt8)
  /-- A directory with nothing in it. -/
  | directory
  deriving DecidableEq

/-- All directories but the working directory are empty. -/
structure Directory where
  entries : List (String × Entry)

namespace Directory

inductive Place where
  | here
  /-- Any other directory; `depth` tells how far below the working directory, if it is below. -/
  | elsewhere (depth : Option Nat)
  | file (bytes : List UInt8)
  deriving DecidableEq

def maxNameSize : Nat := 255

/-- Bytes of the longest path, with the zero byte at its end. -/
def maxPathSize : Nat := 4096

/-- Empty components and single dots stay in a directory. -/
def step (directory : Directory) (place : Place) (component : List Glyph) : Except Fault Place :=
  match place with
  | .file _ => .error .notDirectory
  | place =>
    if component = [] ∨ component = ofString "." then
      .ok place
    else if component = ofString ".." then
      match place with
      | .elsewhere (some 1) => .ok .here
      | .elsewhere (some (depth + 2)) => .ok (.elsewhere (some (depth + 1)))
      | _ => .ok (.elsewhere none)
    else if maxNameSize < byteCount component then
      .error .nameTooLong
    else
      match place with
      | .here =>
        match (text? component).bind fun name => directory.entries.lookup name with
        | some (.file bytes) => .ok (.file bytes)
        | some .directory => .ok (.elsewhere (some 1))
        | none => .error .notFound
      | _ => .error .notFound

def start (path : List Glyph) : Place :=
  if path.head? = some (.char '/') then .elsewhere none else .here

def fileSystem (directory : Directory) : FileSystem := fun path =>
  if (path.flatMap Glyph.bytes).contains 0 then .error .zeroInName
  else if path = [] then .error .notFound
  else if maxPathSize ≤ byteCount path then .error .nameTooLong
  else
    match (path.splitOn (.char '/')).foldlM directory.step (start path) with
    | .error fault => .error fault
    | .ok (.file bytes) => .ok bytes
    | .ok _ => .error .isDirectory

end Directory

end BufferKeeper
