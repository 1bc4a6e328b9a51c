import Promptsmith.Bodies
import Promptsmith.Failure

/-!
# Stores of template bodies

A store serves bodies by their path: from memory as they are, or from files below a directory.
Reads may be made to fail; what fails to be read tells why. The bundled bodies are files below a
directory of their own.
-/
namespace Promptsmith

/-- The directory of the bundled bodies. -/
def bundledRoot : String := "/usr/share/promptgen/templates"

/-- A tree with the bundled bodies in their directory. -/
def Files.Tree.withBundled (t : Files.Tree) : Files.Tree :=
  let root := Files.Path.ofText bundledRoot
  Bodies.all.foldl (fun t f => t.putFile (root.join f.1).parts (.text f.2)) t

inductive Source where
  | memory (bodies : List (String × String))
  | directory (tree : Files.Tree) (root : String)
  deriving DecidableEq, Repr

/-- Why a read fails: a reason that is passed on, or a failure that ends the operation. -/
inductive ReadFault where
  | reason (message : String)
  | fatal (failure : Failure)
  deriving DecidableEq, Repr

namespace Source

def missingMessage (path : String) : String :=
  "template body not found: " ++ path

/-- Why a file cannot be read. A path that cannot be one is no reason. -/
def faultOf : Files.FileError → ReadFault
  | .nullByte => .fatal (.file .nullByte)
  | e => .reason e.message

def has (s : Source) (path : String) : Except Files.FileError Bool :=
  match s with
  | .memory bodies => .ok (bodies.lookup path).isSome
  | .directory tree root => tree.isFile ((Files.Path.ofText root).join path)

def read (s : Source) (path : String) : Except ReadFault String :=
  match s with
  | .memory bodies =>
    match bodies.lookup path with
    | some body => .ok body
    | none => .error (.reason (missingMessage path))
  | .directory tree root =>
    (tree.read ((Files.Path.ofText root).join path)).mapError faultOf

/-- Puts a body into memory; files are not touched. -/
def put (s : Source) (path body : String) : Source :=
  match s with
  | .memory bodies => .memory ((path, body) :: bodies.filter (·.1 ≠ path))
  | .directory tree root => .directory tree root

/-- Takes a body out of memory; files are not touched. -/
def erase (s : Source) (path : String) : Source :=
  match s with
  | .memory bodies => .memory (bodies.filter (·.1 ≠ path))
  | .directory tree root => .directory tree root

/-- The body that memory holds at a path. -/
def held? (s : Source) (path : String) : Option String :=
  match s with
  | .memory bodies => bodies.lookup path
  | .directory _ _ => none

end Source

structure Store where
  source : Source
  failing : List (String × ReadFault)
  deriving DecidableEq, Repr

namespace Store

def inMemory (bodies : List (String × String)) : Store :=
  ⟨.memory bodies, []⟩

/-- The store of a directory. -/
def ofDirectory (tree : Files.Tree) (root : String) : Store :=
  ⟨.directory tree root, []⟩

/-- The store of the bundled bodies. -/
def bundled : Store :=
  .ofDirectory (Files.Tree.empty []).withBundled bundledRoot

def has (s : Store) (path : String) : Except Files.FileError Bool :=
  s.source.has path

/-- The body at a path. A failing path fails whatever stands there. -/
def read (s : Store) (path : String) : Except ReadFault String :=
  match s.failing.lookup path with
  | some fault => .error fault
  | none => s.source.read path

def put (s : Store) (path body : String) : Store :=
  { s with source := s.source.put path body }

def erase (s : Store) (path : String) : Store :=
  { s with source := s.source.erase path }

end Store

end Promptsmith
