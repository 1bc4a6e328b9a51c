import Promptsmith.Decimal.Binary
import Promptsmith.Decimal.Read
import Promptsmith.Record.Checked
import Promptsmith.Text.Case
import Promptsmith.Value.Basic

/-!
# Fields of records

The checks that fields go through. Numbers and truth values are also read from the texts and the
other numbers that stand for them; texts and words are taken as they are.
-/
namespace Promptsmith

namespace Check

def text (v : Value) : Checked String :=
  match v.text? with
  | some s => .valid s
  | none => .fail .stringType

/-- A text or nothing. -/
def textOrNull (v : Value) : Checked (Option String) :=
  match v with
  | .null => .valid none
  | v => some <$> text v

def listOf {α : Type} (check : Value → Checked α) (v : Value) : Checked (List α) :=
  match v.items? with
  | some xs => Checked.all check xs
  | none => .fail .listType

def texts (v : Value) : Checked (List String) :=
  listOf text v

/-- Distinct texts; the order does not matter. -/
def textSet (v : Value) : Checked (List String) :=
  match v.items? with
  | some xs => Checked.all text xs
  | none => .fail .setType

/-- A text or a list of texts. If it is neither, both say why. -/
def textOrTexts (v : Value) : Checked (String ⊕ List String) :=
  match text v, texts v with
  | .valid s, _ => .valid (.inl s)
  | .invalid _, .valid ss => .valid (.inr ss)
  | .invalid ps, .invalid qs =>
    .invalid (ps.map (·.under "str") ++ qs.map (·.under "list[str]"))

/-- A word of a vocabulary. -/
def wordOf (α : Type) [Vocabulary α] (reason : Reason) (v : Value) : Checked α :=
  match v.text?.bind Vocabulary.ofName? with
  | some a => .valid a
  | none => .fail reason

def word (α : Type) [Vocabulary α] (v : Value) : Checked α :=
  wordOf α .noWord v

/-- A word given as a plain text. -/
def choice (α : Type) [Vocabulary α] (v : Value) : Checked α :=
  wordOf α .noChoice v

/-- Two to the power of sixty-three. -/
def wordLimit : Int := 9223372036854775808

/-- A whole number that fits into sixty-four bits, one of them for the sign. -/
def isWord (n : Int) : Bool :=
  -wordLimit ≤ n && n < wordLimit

/-- A whole number from a float without fraction, which must lie strictly between the limits. -/
def intOfFloat (x : Float) : Checked Int :=
  match Decimal.Binary.ofFloat x, Decimal.whole? x with
  | _, some n => if -wordLimit < n ∧ n < wordLimit then .valid n else .fail .intSize
  | .finite _ _ _, none => .fail .intFromFloat
  | _, none => .fail .notFinite

/-- A whole number from a text. One that is too long is refused whatever follows it. -/
def intOfText (s : List Char) : Checked Int :=
  if Decimal.maxDigits < Decimal.plainLength s then .fail .intSize
  else
    match Decimal.readWhole? s with
    | some n => .valid n
    | none => .fail .intParsing

/-- A whole number, also from a truth value, a float without fraction or a text. -/
def int (v : Value) : Checked Int :=
  match v with
  | .int n => .valid n
  | .bool b => .valid (if b then 1 else 0)
  | .float x => intOfFloat x
  | v =>
    match v.text? with
    | some s => intOfText s.toList
    | none => .fail .intType

def atLeast (low : Int) (n : Int) : Checked Int :=
  if low ≤ n then .valid n else .fail .belowMinimum

def within (low high : Int) (n : Int) : Checked Int :=
  if high < n then .fail .aboveMaximum else atLeast low n

/-- The float nearest to a whole number, if the number is not beyond all floats. -/
def floatOfInt (n : Int) : Checked Float :=
  let x := Decimal.toFloat (n < 0) n.natAbs 0
  match Decimal.Binary.ofFloat x with
  | .finite _ _ _ => .valid x
  | _ => .fail .floatType

/-- A float, also from a whole number, a truth value or a text. -/
def float (v : Value) : Checked Float :=
  match v with
  | .float x => .valid x
  | .int n => floatOfInt n
  | .bool b => .valid (if b then 1.0 else 0.0)
  | v =>
    match v.text? with
    | some s =>
      match Decimal.readFloat? s.toList with
      | some x => .valid x
      | none => .fail .floatParsing
    | none => .fail .floatType

/-- The upper bound is checked first, and no number that is none passes it. -/
def floatWithin (low high : Float) (x : Float) : Checked Float :=
  if x ≤ high then if low ≤ x then .valid x else .fail .belowMinimum
  else .fail .aboveMaximum

def trueWords : List String := ["1", "on", "t", "true", "y", "yes"]
def falseWords : List String := ["0", "off", "f", "false", "n", "no"]

/-- A truth value, also from zero, one or a word for it in any case. -/
def bool (v : Value) : Checked Bool :=
  match v with
  | .bool b => .valid b
  | .int n =>
    if n = 1 then .valid true else if n = 0 then .valid false
    else .fail (if isWord n then .boolParsing else .boolType)
  | .float x =>
    if x == 1.0 then .valid true else if x == 0.0 then .valid false else .fail .boolType
  | v =>
    match v.text? with
    | some s =>
      let word := String.ofList (Text.lower s.toList)
      if word ∈ trueWords then .valid true
      else if word ∈ falseWords then .valid false
      else .fail .boolParsing
    | none => .fail .boolType

/-- A truth value or nothing. -/
def boolOrNull (v : Value) : Checked (Option Bool) :=
  match v with
  | .null => .valid none
  | v => some <$> bool v

/-- A mapping, whose entries are checked further. -/
def fields {α : Type} (check : Fields → Checked α) (v : Value) : Checked α :=
  match v with
  | .map es => check es
  | _ => .fail .recordType

end Check

namespace Fields

variable {α : Type}

/-- A field that must be there. -/
def required (fs : Fields) (name : String) (check : Value → Checked α) : Checked α :=
  match fs.get? name with
  | some v => (check v).under name
  | none => .invalid [⟨[name], .missing⟩]

/-- A field that has a default. -/
def optional (fs : Fields) (name : String) (default : α) (check : Value → Checked α) :
    Checked α :=
  match fs.get? name with
  | some v => (check v).under name
  | none => .valid default

end Fields

end Promptsmith
