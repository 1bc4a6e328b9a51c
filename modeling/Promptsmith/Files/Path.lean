import Promptsmith.Text.Blank

/-!
# Paths

A path is its components between slashes; empty ones and single dots mean nothing and are dropped,
double dots stay. Leading slashes make it absolute, and exactly two of them are kept as two.
-/
namespace Promptsmith.Files

structure Path where
  root : String
  parts : List String
  deriving DecidableEq, Repr

namespace Path

/-- The components of a text between slashes. -/
def components (s : String) : List String :=
  ((Text.splitAt (· == '/') s.toList).map String.ofList).filter fun p => p ≠ "" ∧ p ≠ "."

/-- What the leading slashes of a text stand for. -/
def rootOf (s : String) : String :=
  match (s.toList.takeWhile (· == '/')).length with
  | 0 => ""
  | 2 => "//"
  | _ => "/"

def ofText (s : String) : Path :=
  ⟨rootOf s, components s⟩

def isAbsolute (p : Path) : Bool :=
  p.root ≠ ""

def text (p : Path) : String :=
  if p.root = "" ∧ p.parts = [] then "." else p.root ++ String.intercalate "/" p.parts

/-- A path below this one; a leading slash of its text does not count. -/
def join (p : Path) (below : String) : Path :=
  ⟨p.root, p.parts ++ components below⟩

/-- The path one component up. -/
def parent (p : Path) : Path :=
  ⟨p.root, p.parts.dropLast⟩

end Path

/-- The text of a path in its normal form. -/
def normalText (s : String) : String :=
  (Path.ofText s).text

end Promptsmith.Files
