import Promptsmith.Engine.Session

/-!
# The registry of main bodies

Every archetype has one descriptor. It is made on first use, when the main body is scanned for the
names it declares, and kept until the registry is reset.
-/
namespace Promptsmith.Registry

def scanNote (path message : String) : String :=
  "[yellow]Could not scan " ++ path ++ " for variables: " ++ message ++ "[/yellow]"

/-- The names that an archetype's main body declares now. -/
def declared [Console] (a : Archetype) : Act (List String) := do
  if ← Act.has a.mainPath then
    match ← Act.readBody a.mainPath with
    | .ok body => return Template.scanNames body
    | .error message =>
      Act.note (scanNote a.mainPath message)
      return a.expectedVariables
  else return a.expectedVariables

/-- The descriptor of an archetype, made if it is not there yet. -/
def descriptor [Console] (a : Archetype) : Act Descriptor := do
  match (← Act.engine).cache.lookup a with
  | some d => return d
  | none =>
    let d := a.describe (← declared a)
    let e ← Act.engine
    Act.setEngine { e with cache := e.cache ++ [(a, d)] }
    return d

/-- The descriptor that a hint names, if its main body is there now. -/
def lookup [Console] (hint : String) : Act (Option (Archetype × Descriptor)) := do
  match Archetype.ofHint? hint with
  | none => return none
  | some a =>
    if ← Act.has a.mainPath then return some (a, ← descriptor a)
    else return none

/-- The descriptors of all archetypes, in order. -/
def list [Console] : Act (List Descriptor) :=
  (Vocabulary.all : List Archetype).mapM descriptor

/-- Forgets the descriptors. -/
def reset : Act Unit := do
  Act.setEngine { ← Act.engine with cache := [] }

end Promptsmith.Registry
