import Promptsmith.Catalog.Select
import Promptsmith.Engine.Descriptor
import Promptsmith.Engine.Store
import Promptsmith.Host

/-!
# Sessions

An engine is its store, the descriptors it has made, its catalog and its settings. A session is an
engine together with what its operations report: the notes they hand to the console and the paths
they read, in order. An operation that fails keeps what it did before.
-/
namespace Promptsmith

/-- The date that contexts default to and the time that results are stamped with. -/
structure Clock where
  today : String
  now : String
  deriving DecidableEq, Repr

structure Settings where
  toolVersion : String
  previewLength : Int
  baseFiles : List String
  clock : Clock
  deriving DecidableEq, Repr

structure Engine where
  store : Store
  cache : List (Archetype × Descriptor)
  catalog : Catalog
  settings : Settings
  deriving DecidableEq, Repr

def Engine.fresh (store : Store) (settings : Settings) : Engine :=
  ⟨store, [], Catalog.bundled, settings⟩

structure Session where
  engine : Engine
  notes : List String
  reads : List String
  deriving DecidableEq, Repr

def Session.start (e : Engine) : Session :=
  ⟨e, [], []⟩

abbrev Act := EStateM Failure Session

namespace Act

/-- Hands a note to the console. One that is refused ends the operation. -/
def note [Console] (text : String) : Act Unit := do
  modify fun s => { s with notes := s.notes ++ [text] }
  match Console.refusal? text with
  | some message => throw (.markup message)
  | none => return ()

def engine : Act Engine := do
  return (← get).engine

def setEngine (e : Engine) : Act Unit :=
  modify fun s => { s with engine := e }

def ofExcept {α : Type} : Except Failure α → Act α
  | .ok a => pure a
  | .error e => throw e

/-- The store has a body at a path. -/
def has (path : String) : Act Bool := do
  match (← engine).store.has path with
  | .ok b => return b
  | .error e => throw (.file e)

/-- Reads a body from the store. The reason of a failed read is an answer; a fatal failure ends the
operation. -/
def readBody (path : String) : Act (Except String String) := do
  modify fun s => { s with reads := s.reads ++ [path] }
  match (← engine).store.read path with
  | .ok body => return .ok body
  | .error (.reason message) => return .error message
  | .error (.fatal failure) => throw failure

/-- Starts an operation on an engine: its result, and the session it ends with. -/
def start {α : Type} (act : Act α) (e : Engine) : Except Failure α × Session :=
  match act (Session.start e) with
  | .ok a s => (.ok a, s)
  | .error f s => (.error f, s)

end Act

end Promptsmith
