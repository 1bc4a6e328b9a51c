import Promptsmith.Decimal.Format
import Promptsmith.Text.Quoted
import Promptsmith.Value.Basic

/-!
# Text of values

`literal` is the exact form, in which strings are quoted. `plain` is the same but for a string or a
word standing alone. `display` is what a template substitutes: nothing for `null`, small words for
truth values, and sequences joined by commas without brackets.
-/
namespace Promptsmith.Value

open Promptsmith.Text (quoted)

mutual

/-- The exact form of a value. -/
def literal : Value → String
  | .null => "None"
  | .bool b => if b then "True" else "False"
  | .int n => toString n
  | .float x => Decimal.general x
  | .text s => quoted s
  | .label l => "<" ++ l.kind ++ "." ++ l.constant ++ ": " ++ quoted l.text ++ ">"
  | .list xs => "[" ++ String.intercalate ", " (literals xs) ++ "]"
  | .tuple xs =>
    match literals xs with
    | [x] => "(" ++ x ++ ",)"
    | all => "(" ++ String.intercalate ", " all ++ ")"
  | .map es => "\x7b" ++ String.intercalate ", " (entryLiterals es) ++ "\x7d"

def literals : List Value → List String
  | [] => []
  | x :: xs => x.literal :: literals xs

def entryLiterals : List (String × Value) → List String
  | [] => []
  | (k, v) :: es => (quoted k ++ ": " ++ v.literal) :: entryLiterals es

end

/-- The text of a value standing alone. -/
def plain : Value → String
  | .text s => s
  | .label l => l.kind ++ "." ++ l.constant
  | v => v.literal

mutual

/-- The text that a template substitutes for a value. -/
def display : Value → String
  | .null => ""
  | .bool b => if b then "true" else "false"
  | .int n => toString n
  | .float x => Decimal.general x
  | .text s => s
  | .label l => l.text
  | .list xs => String.intercalate ", " (displayAll xs)
  | .tuple xs => String.intercalate ", " (displayAll xs)
  | .map es => "\x7b" ++ String.intercalate ", " (entryLiterals es) ++ "\x7d"

def displayAll : List Value → List String
  | [] => []
  | x :: xs => x.display :: displayAll xs

end

@[simp] theorem displayAll_eq_map (xs : List Value) : displayAll xs = xs.map display := by
  induction xs with
  | nil => rfl
  | cons x xs ih => simp [displayAll, ih]

end Promptsmith.Value
