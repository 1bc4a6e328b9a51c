import Promptsmith.Template.Cut
import Promptsmith.Template.Render

/-!
# The names a template refers to

The names are read off the brace pairs without nesting them, so this never fails: pairs that would
be faulty are passed over. Loop variables do not count. A set of names is its sorted list.
-/
namespace Promptsmith.Template

open Promptsmith.Text

/-- Puts a name into a sorted list of distinct names. -/
def insertName (name : String) : List String → List String
  | [] => [name]
  | n :: r =>
    if name < n then name :: n :: r
    else if name = n then n :: r
    else n :: insertName name r

@[simp] theorem mem_insertName {n name : String} {names : List String} :
    n ∈ insertName name names ↔ n = name ∨ n ∈ names := by
  induction names with
  | nil => simp [insertName]
  | cons m r ih =>
    rw [insertName]
    split
    · simp
    · split
      · next h => subst h; simp
      · simp only [List.mem_cons, ih]
        constructor
        · rintro (h | h | h) <;> simp [h]
        · rintro (h | h | h) <;> simp [h]

/-- Distinct names in order. -/
def nameSet (names : List String) : List String :=
  names.foldr insertName []

@[simp] theorem mem_nameSet {n : String} {names : List String} :
    n ∈ nameSet names ↔ n ∈ names := by
  induction names with
  | nil => simp [nameSet]
  | cons m r ih => simpa [nameSet] using or_congr_right ih

/-- The name that a pair refers to: itself, or what follows the first space of an opening
directive. -/
def mentioned? (inner : List Char) : Option (List Char) :=
  match inner with
  | '/' :: _ => none
  | '#' :: r =>
    let word := r.takeWhile (· ≠ ' ')
    match BlockKind.ofKeyword? (String.ofList word) with
    | none => none
    | some _ => some (trim (r.drop (word.length + 1)))
  | _ => some inner

/-- The name of a value that a pair refers to. -/
def declared? (inner : List Char) : Option String :=
  match mentioned? inner with
  | none => none
  | some n =>
    if isName n ∧ n.head? ≠ some '@' ∧ LoopVariable.ofName? (String.ofList n) = none then
      some (String.ofList n)
    else none

/-- The names of values that a template refers to. -/
def scanNames (text : String) : List String :=
  nameSet ((pairs text.toList).filterMap fun p => declared? p.2.inner)

end Promptsmith.Template
