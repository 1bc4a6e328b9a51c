import Promptsmith.Files.Path
import Promptsmith.Text.Blank
import Promptsmith.Text.Utf8

/-!
# File trees

Files and directories, and the directory that relative paths start from. Paths are walked component
by component, as a file system does: every component but the last must be a directory. Names and
paths have a greatest length, counted in bytes, and no path holds the character of code zero.
-/
namespace Promptsmith.Files

/-- What a file holds: a text, or bytes that may be none. -/
inductive Content where
  | text (s : String)
  | raw (bytes : List UInt8)
  deriving DecidableEq, Repr

/-- The text of a file, its line endings unified. -/
def Content.read : Content → Except Text.Utf8Fault String
  | .text s => .ok (String.ofList (Text.unifyLines s.toList))
  | .raw bytes => (Text.decodeUtf8 bytes).map fun cs => String.ofList (Text.unifyLines cs)

def Content.bytes : Content → List UInt8
  | .text s => s.toUTF8.toList
  | .raw bytes => bytes

inductive Entry where
  | file (content : Content)
  | directory
  deriving DecidableEq, Repr

/-- The entries under their paths from the top, and the path of the current directory. The top
itself is always a directory. -/
structure Tree where
  here : List String
  entries : List (List String × Entry)
  deriving DecidableEq, Repr

/-- Why a file operation fails. -/
inductive Cause where
  | notFound
  | exists
  | notDirectory
  | isDirectory
  | tooLong
  deriving DecidableEq, Repr

def Cause.number : Cause → Nat
  | .notFound => 2
  | .exists => 17
  | .notDirectory => 20
  | .isDirectory => 21
  | .tooLong => 36

def Cause.describe : Cause → String
  | .notFound => "No such file or directory"
  | .exists => "File exists"
  | .notDirectory => "Not a directory"
  | .isDirectory => "Is a directory"
  | .tooLong => "File name too long"

inductive FileError where
  | system (cause : Cause) (path : String)
  | encoding (fault : Text.Utf8Fault)
  | nullByte
  deriving DecidableEq, Repr

def FileError.message : FileError → String
  | .system cause path =>
    "[Errno " ++ toString cause.number ++ "] " ++ cause.describe ++ ": " ++ Text.quoted path
  | .encoding fault => fault.message
  | .nullByte => "embedded null byte"

/-- The most bytes that a name may have. -/
def maxNameBytes : Nat := 255

/-- The most bytes that a path may have. -/
def maxPathBytes : Nat := 4095

namespace Tree

/-- The paths down to a path, itself included. -/
def prefixes (parts : List String) : List (List String) :=
  (List.range parts.length).map fun n => parts.take (n + 1)

/-- The tree with no more than the current directory. -/
def empty (here : List String) : Tree :=
  ⟨here, (prefixes here).map fun parts => (parts, .directory)⟩

def entry? (t : Tree) (parts : List String) : Option Entry :=
  match parts with
  | [] => some .directory
  | parts => t.entries.lookup parts

def put (t : Tree) (parts : List String) (e : Entry) : Tree :=
  if t.entries.any (·.1 == parts) then
    { t with entries := t.entries.map fun f => if f.1 == parts then (parts, e) else f }
  else { t with entries := t.entries ++ [(parts, e)] }

/-- Walks down from a directory; the top is above itself. The last component need not exist. -/
def walk (t : Tree) (place : List String) : List String → Except Cause (List String)
  | [] => .ok place
  | part :: rest =>
    if part = ".." then walk t place.dropLast rest
    else if maxNameBytes < part.utf8ByteSize then .error .tooLong
    else
      match t.entry? (place ++ [part]), rest with
      | some .directory, rest => walk t (place ++ [part]) rest
      | _, [] => .ok (place ++ [part])
      | some (.file _), _ => .error .notDirectory
      | none, _ => .error .notFound

/-- The place that a path leads to. -/
def resolve (t : Tree) (p : Path) : Except FileError (List String) :=
  if '\x00' ∈ p.text.toList then .error .nullByte
  else if maxPathBytes < p.text.utf8ByteSize then .error (.system .tooLong p.text)
  else
    (t.walk (if p.isAbsolute then [] else t.here) p.parts).mapError fun cause =>
      .system cause p.text

/-- What stands at a path, or why nothing can. -/
def find? (t : Tree) (p : Path) : Except FileError (Option Entry) :=
  (t.resolve p).map t.entry?

/-- Whether what stands at a path is of some kind. Where nothing can stand it is not; only a name
that is too long is an error. -/
def test (t : Tree) (p : Path) (kind : Entry → Bool) : Except FileError Bool :=
  match t.find? p with
  | .ok found => .ok (found.any kind)
  | .error (.system .tooLong path) => .error (.system .tooLong path)
  | .error _ => .ok false

def isFile (t : Tree) (p : Path) : Except FileError Bool :=
  t.test p fun
    | .file _ => true
    | .directory => false

def isDirectory (t : Tree) (p : Path) : Except FileError Bool :=
  t.test p fun
    | .file _ => false
    | .directory => true

/-- Something stands at the path. -/
def isThere (t : Tree) (p : Path) : Except FileError Bool :=
  t.test p fun _ => true

/-- The bytes of a file. -/
def bytes? (t : Tree) (parts : List String) : Option (List UInt8) :=
  match t.entry? parts with
  | some (.file c) => some c.bytes
  | _ => none

/-- The text of the file at a path. -/
def read (t : Tree) (p : Path) : Except FileError String :=
  match t.find? p with
  | .ok (some (.file c)) => c.read.mapError .encoding
  | .ok (some .directory) => .error (.system .isDirectory p.text)
  | .ok none => .error (.system .notFound p.text)
  | .error e => .error e

/-- Makes one directory. -/
def makeDirectory (t : Tree) (p : Path) : Except FileError Tree :=
  match t.resolve p with
  | .error e => .error e
  | .ok parts =>
    match t.entry? parts with
    | some _ => .error (.system .exists p.text)
    | none => .ok (t.put parts .directory)

/-- Makes a directory unless it is there. -/
def ensureDirectory (t : Tree) (p : Path) : Tree × Except FileError Unit :=
  match t.makeDirectory p with
  | .ok t => (t, .ok ())
  | .error (.system .exists path) =>
    match t.isDirectory p with
    | .ok true => (t, .ok ())
    | _ => (t, .error (.system .exists path))
  | .error e => (t, .error e)

/-- Makes a directory and those above it that are missing; whatever fails, the tree so far is kept.
`above` bounds how many. -/
def ensureDirectories (t : Tree) (p : Path) : Nat → Tree × Except FileError Unit
  | 0 => t.ensureDirectory p
  | above + 1 =>
    match t.makeDirectory p with
    | .error (.system .notFound _) =>
      match t.ensureDirectories p.parent above with
      | (t, .ok ()) => t.ensureDirectory p
      | failed => failed
    | _ => t.ensureDirectory p

/-- Writes a text into a file, in place of what it held. -/
def write (t : Tree) (p : Path) (s : String) : Tree × Except FileError Unit :=
  match t.resolve p with
  | .error e => (t, .error e)
  | .ok parts =>
    match t.entry? parts with
    | some .directory => (t, .error (.system .isDirectory p.text))
    | _ => (t.put parts (.file (.text s)), .ok ())

/-- Writes a text into a file below directories that need not be there yet. -/
def save (t : Tree) (p : Path) (s : String) : Tree × Except FileError Unit :=
  match t.ensureDirectories p.parent p.parts.length with
  | (t, .ok ()) => t.write p s
  | failed => failed

/-- Puts a file, and directories for the path down to it. -/
def putFile (t : Tree) (parts : List String) (c : Content) : Tree :=
  ((prefixes parts.dropLast).foldl (fun t d => t.put d .directory) t).put parts (.file c)

/-- The tree that holds some files below the current directory. -/
def ofFiles (here : List String) (files : List (List String × Content)) : Tree :=
  files.foldl (fun t f => t.putFile (here ++ f.1) f.2) (empty here)

/-- A path down from the top, with each double dot taken for one step up. -/
def down (here : List String) (p : Path) : List String :=
  p.parts.foldl (fun place part => if part = ".." then place.dropLast else place ++ [part])
    (if p.isAbsolute then [] else here)

/-- What the entries of a tree add to or change in those of an earlier one. -/
def changes (t before : Tree) : List (List String × Entry) :=
  t.entries.filter fun f => before.entry? f.1 ≠ some f.2

end Tree

end Promptsmith.Files
