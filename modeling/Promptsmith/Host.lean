import Promptsmith.Decimal.Read
import Promptsmith.Failure
import Promptsmith.Text.Blank

/-!
# Consoles and hosts

What a program is run on and has no hand in. A console reads what it is to print as markup, and
refuses markup that it cannot make sense of. A host spreads out text that is written as it is,
escapes text that is put into markup, and sets limits to the numbers that are written and to the
nesting of JSON texts. Of both no more is known than that markup whose tags match is printed, that
steady text is written as it is, and that numbers of no more digits than can be read back can be
written.
-/
namespace Promptsmith

/-! ### Consoles -/

/-- Words that a tag may give a style with. -/
def IsStyle (style : String) : Prop :=
  (∃ c, style.toList.head? = some c ∧ c.isLower) ∧
    ∀ c ∈ style.toList, c.isLower ∨ c = ' ' ∨ c = '_'

/-- Markup in which every tag is closed by its own. -/
inductive Markup : String → Prop
  | plain {text : String} (h : ∀ c ∈ text.toList, c ≠ '[' ∧ c ≠ '\\') : Markup text
  | append {s t : String} (hs : Markup s) (ht : Markup t) : Markup (s ++ t)
  | styled {style text : String} (hstyle : IsStyle style) (h : Markup text) :
      Markup ("[" ++ style ++ "]" ++ text ++ "[/" ++ style ++ "]")

class Console where
  /-- What is wrong with a text that is not printed, being read as markup. -/
  refusal? : String → Option String
  takes : ∀ {text : String}, Markup text → refusal? text = none

/-- The console that prints everything. -/
abbrev Console.quiet : Console where
  refusal? _ := none
  takes _ := rfl

/-! ### Hosts -/

/-- Text without control characters but line feeds, and without blanks at the end of a line. -/
def Steady (text : String) : Prop :=
  (∀ c ∈ text.toList, c = '\n' ∨ ' ' ≤ c) ∧
    ∀ line ∈ Text.splitAt (· == '\n') text.toList, Text.trimEnd line = line

class Host where
  /-- What comes of a text that is written as it is. -/
  written : String → String
  /-- A text made fit to be put into markup. -/
  escaped : String → String
  /-- The complaint about a number with too many digits to be written. -/
  overlong? : Int → Option String
  /-- The complaint about a JSON text that is nested too deep to be read. -/
  overflow? : String → Option String
  writes : ∀ {text : String}, Steady text → written text = text
  spells : ∀ {n : Int}, n.natAbs < Decimal.tenTo Decimal.maxDigits → overlong? n = none

/-- The host that leaves texts as they are and sets no limits. -/
abbrev Host.plain : Host where
  written text := text
  escaped text := text
  overlong? _ := none
  overflow? _ := none
  writes _ := rfl
  spells _ := rfl

mutual

/-- The whole numbers that a value is written with. -/
def Value.numbers : Value → List Int
  | .int n => [n]
  | .list xs => numbersOfAll xs
  | .tuple xs => numbersOfAll xs
  | .map es => numbersOfEntries es
  | _ => []

def Value.numbersOfAll : List Value → List Int
  | [] => []
  | x :: xs => x.numbers ++ numbersOfAll xs

def Value.numbersOfEntries : List (String × Value) → List Int
  | [] => []
  | (_, v) :: es => v.numbers ++ numbersOfEntries es

end

/-- Writes values out, which fails at a number with too many digits. -/
def Host.write [Host] (vs : List Value) : Except Failure Unit :=
  match (vs.flatMap Value.numbers).findSome? Host.overlong? with
  | some message => .error (.overlong message)
  | none => .ok ()

end Promptsmith
