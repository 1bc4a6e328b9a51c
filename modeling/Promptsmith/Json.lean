import Promptsmith.Decimal.Read
import Promptsmith.Text.Quoted
import Promptsmith.Value.Basic

/-!
# JSON

Besides the standard values the reader takes `NaN`, `Infinity` and `-Infinity`. A number without
fraction and exponent is whole. Of equal keys the last one counts. How strict the reader is about
halves of characters and long numbers is up to its mode. The readers of lists and objects take a
bound on their depth that no text of that length can exceed. A fault names what the reader looked
for and missed, and the place where it stood. Strings are written with quotes, backslashes and
control characters escaped, and nothing else.
-/
namespace Promptsmith.Json

/-! ### Faults -/

inductive Defect where
  | noValue
  | noComma
  | noColon
  | noKey
  | extraData
  | unterminated
  | controlCharacter
  | badEscape
  | badCodeUnit
  | loneSurrogate
  | byteOrderMark
  | tooManyDigits (count : Nat)
  deriving DecidableEq, Repr

def Defect.message : Defect → String
  | .noValue => "Expecting value"
  | .noComma => "Expecting ',' delimiter"
  | .noColon => "Expecting ':' delimiter"
  | .noKey => "Expecting property name enclosed in double quotes"
  | .extraData => "Extra data"
  | .unterminated => "Unterminated string starting at"
  | .controlCharacter => "Invalid control character at"
  | .badEscape => "Invalid \\escape"
  | .badCodeUnit => "Invalid \\uXXXX escape"
  | .loneSurrogate => "Lone surrogate"
  | .byteOrderMark => "Unexpected UTF-8 BOM (decode using utf-8-sig)"
  | .tooManyDigits count =>
    "Exceeds the limit (4300 digits) for integer string conversion: value has " ++
      toString count ++ " digits; use sys.set_int_max_str_digits() to increase the limit"

/-- A defect and the text that was left when it was met. -/
structure Stop where
  defect : Defect
  rest : List Char
  deriving DecidableEq, Repr

/-- A defect and its offset in the text. -/
structure Fault where
  defect : Defect
  offset : Nat
  place : Text.Place
  deriving DecidableEq, Repr

def Stop.locate (s : Stop) (text : List Char) : Fault :=
  let offset := text.length - s.rest.length
  ⟨s.defect, offset, Text.placeOf text offset⟩

/-- The defect and its place; a number that is too long has no place. -/
def Fault.message (f : Fault) : String :=
  match f.defect with
  | .tooManyDigits _ => f.defect.message
  | _ =>
    f.defect.message ++ ": line " ++ toString f.place.line ++ " column " ++
      toString f.place.column ++ " (char " ++ toString f.offset ++ ")"

/-! ### Reading -/

/-- The strict mode refuses halves of characters that stand alone, and any number that has too many
characters before its point. The lenient mode reads such a half as the replacement character, and
refuses only whole numbers of too many digits. -/
inductive Mode where
  | strict
  | lenient
  deriving DecidableEq, Repr

abbrev Step (α : Type) := Except Stop (α × List Char)

def isBlank (c : Char) : Bool :=
  c == ' ' || c == '\t' || c == '\n' || c == '\r'

def skipBlanks (s : List Char) : List Char :=
  s.dropWhile isBlank

def hexValue? (c : Char) : Option Nat :=
  if c.isDigit then some (c.toNat - 0x30)
  else if 'a' ≤ c ∧ c ≤ 'f' then some (c.toNat - 0x57)
  else if 'A' ≤ c ∧ c ≤ 'F' then some (c.toNat - 0x37)
  else none

/-- Four hexadecimal digits, and what follows them, which may not be the end of the text. -/
def codeUnit? : List Char → Option (Nat × List Char)
  | a :: b :: c :: d :: next :: r =>
    match hexValue? a, hexValue? b, hexValue? c, hexValue? d with
    | some a, some b, some c, some d => some (((a * 16 + b) * 16 + c) * 16 + d, next :: r)
    | _, _, _, _ => none
  | _ => none

/-- The character after a backslash, for the escapes of one character. -/
def escape? (c : Char) : Option Char :=
  if c = '"' ∨ c = '\\' ∨ c = '/' then some c
  else if c = 'b' then some '\x08'
  else if c = 'f' then some '\x0c'
  else if c = 'n' then some '\n'
  else if c = 'r' then some '\r'
  else if c = 't' then some '\t'
  else none

def isHighSurrogate (n : Nat) : Bool := 0xD800 ≤ n && n < 0xDC00
def isLowSurrogate (n : Nat) : Bool := 0xDC00 ≤ n && n < 0xE000

/-- Half of a character that stands alone in an escape at `s`, with `rest` after it. -/
def loneHalf (mode : Mode) (s rest : List Char) : Step Char :=
  match mode with
  | .strict => .error ⟨.loneSurrogate, s⟩
  | .lenient => .ok ('\ufffd', rest)

/-- The second escape after one for the first half of a character, if the text goes on with one. -/
def secondEscape? : List Char → Option (List Char)
  | '\\' :: 'u' :: r => if 4 < r.length then some r else none
  | _ => none

/-- The character of a code unit, joined with a second one if it is half of a character. `s` starts
at the `u` of the escape. -/
def readCodeUnits (mode : Mode) (s : List Char) : Step Char :=
  match codeUnit? s.tail with
  | none => .error ⟨.badCodeUnit, s⟩
  | some (high, r) =>
    if isHighSurrogate high then
      match secondEscape? r with
      | none => loneHalf mode s r
      | some second =>
        match codeUnit? second with
        | none => .error ⟨.badCodeUnit, 'u' :: second⟩
        | some (low, rest) =>
          if isLowSurrogate low then
            .ok (Char.ofNat (0x10000 + (high - 0xD800) * 0x400 + (low - 0xDC00)), rest)
          else loneHalf mode s r
    else if isLowSurrogate high then loneHalf mode s r
    else .ok (Char.ofNat high, r)

/-- One character of a string, which is neither closed nor at its end. -/
def readChar (mode : Mode) : List Char → Step Char
  | '\\' :: 'u' :: r => readCodeUnits mode ('u' :: r)
  | '\\' :: c :: r =>
    match escape? c with
    | some d => .ok (d, r)
    | none => .error ⟨.badEscape, '\\' :: c :: r⟩
  | c :: r => if c.toNat < 0x20 then .error ⟨.controlCharacter, c :: r⟩ else .ok (c, r)
  | [] => .error ⟨.unterminated, []⟩

/-- The characters of a string up to its closing quote; `start` is the text at the opening one. -/
def readChars (mode : Mode) (start : List Char) : Nat → List Char → Step (List Char)
  | 0, _ => .error ⟨.unterminated, start⟩
  | _ + 1, [] => .error ⟨.unterminated, start⟩
  | _ + 1, '"' :: r => .ok ([], r)
  | _ + 1, ['\\'] => .error ⟨.unterminated, start⟩
  | fuel + 1, s =>
    match readChar mode s with
    | .error e => .error e
    | .ok (c, r) => (readChars mode start fuel r).map fun (cs, rest) => (c :: cs, rest)

/-- A string after its opening quote. -/
def readString (mode : Mode) (s : List Char) : Step String :=
  (readChars mode ('"' :: s) (s.length + 1) s).map fun (cs, rest) => (String.ofList cs, rest)

/-- A number's parts: whole digits, digits after the point, and the exponent. -/
structure Number where
  negative : Bool
  whole : List Char
  fraction : Option (List Char)
  exponent : Option Int
  deriving DecidableEq, Repr

/-- The digits after a point, if there are any. -/
def takeFraction : List Char → Option (List Char) × List Char
  | '.' :: r =>
    if r.head?.any Char.isDigit then (some (r.takeWhile Char.isDigit), r.dropWhile Char.isDigit)
    else (none, '.' :: r)
  | s => (none, s)

/-- The exponent after its mark, if it has digits. -/
def takeExponent (s : List Char) : Option Int × List Char :=
  match s with
  | c :: r =>
    if c = 'e' ∨ c = 'E' then
      let (negative, ds) := Decimal.takeSign r
      match (ds.takeWhile Char.isDigit).mapM Text.asciiDigit? with
      | some (d :: more) =>
        let size := Decimal.ofDigits (d :: more)
        (some (Decimal.applySign negative size), ds.dropWhile Char.isDigit)
      | _ => (none, s)
    else (none, s)
  | [] => (none, [])

/-- The whole digits: a zero alone, or digits that start with another one. -/
def takeWhole : List Char → List Char × List Char
  | '0' :: r => (['0'], r)
  | s => (s.takeWhile Char.isDigit, s.dropWhile Char.isDigit)

def takeNumber? (s : List Char) : Option (Number × List Char) :=
  let (negative, r) :=
    match s with
    | '-' :: r => (true, r)
    | s => (false, s)
  let (whole, r) := takeWhole r
  if whole.isEmpty then none
  else
    let (fraction, r) := takeFraction r
    let (exponent, r) := takeExponent r
    some (⟨negative, whole, fraction, exponent⟩, r)

/-- The length that a mode holds against a number. -/
def Number.length (mode : Mode) (n : Number) : Nat :=
  match mode with
  | .strict => n.whole.length + if n.negative then 1 else 0
  | .lenient => if n.fraction.isNone && n.exponent.isNone then n.whole.length else 0

def Number.value (n : Number) : Value :=
  let digits (cs : List Char) := Decimal.ofDigits (cs.filterMap Text.asciiDigit?)
  match n.fraction, n.exponent with
  | none, none => .int (Decimal.applySign n.negative (digits n.whole))
  | fraction, exponent =>
    let places := fraction.getD []
    .float (Decimal.toFloat n.negative (digits (n.whole ++ places))
      (exponent.getD 0 - places.length))

def readNumber (mode : Mode) (s : List Char) : Step Value :=
  match takeNumber? s with
  | none => .error ⟨.noValue, s⟩
  | some (n, r) =>
    if Decimal.maxDigits < n.length mode then .error ⟨.tooManyDigits (n.length mode), s⟩
    else .ok (n.value, r)

/-- The words that stand for values. -/
def words : List (String × Value) :=
  [("null", .null), ("true", .bool true), ("false", .bool false), ("NaN", .float (0.0 / 0.0)),
    ("Infinity", .float (1.0 / 0.0)), ("-Infinity", .float (-(1.0 / 0.0)))]

def readWord? (s : List Char) : Option (Value × List Char) :=
  words.findSome? fun (w, v) =>
    if w.toList.isPrefixOf s then some (v, s.drop w.length) else none

mutual

def readValue (mode : Mode) : Nat → List Char → Step Value
  | 0, s => .error ⟨.noValue, s⟩
  | _ + 1, [] => .error ⟨.noValue, []⟩
  | _ + 1, '"' :: r => (readString mode r).map fun (t, rest) => (.text t, rest)
  | fuel + 1, '[' :: r =>
    match skipBlanks r with
    | ']' :: rest => .ok (.list [], rest)
    | s => (readItems mode fuel s).map fun (xs, rest) => (.list xs, rest)
  | fuel + 1, '\x7b' :: r =>
    match skipBlanks r with
    | '\x7d' :: rest => .ok (.map [], rest)
    | s => (readMembers mode fuel s).map fun (es, rest) => (.map (Fields.ofEntries es), rest)
  | _ + 1, s =>
    match readWord? s with
    | some found => .ok found
    | none => readNumber mode s

/-- The items of a list that is not empty, up to its end. -/
def readItems (mode : Mode) : Nat → List Char → Step (List Value)
  | 0, s => .error ⟨.noValue, s⟩
  | fuel + 1, s =>
    match readValue mode fuel s with
    | .error e => .error e
    | .ok (v, r) =>
      match skipBlanks r with
      | ']' :: rest => .ok ([v], rest)
      | ',' :: rest =>
        (readItems mode fuel (skipBlanks rest)).map fun (vs, rest) => (v :: vs, rest)
      | s => .error ⟨.noComma, s⟩

/-- The entries of an object that is not empty, up to its end. -/
def readMembers (mode : Mode) : Nat → List Char → Step (List (String × Value))
  | 0, s => .error ⟨.noKey, s⟩
  | fuel + 1, '"' :: s =>
    match readString mode s with
    | .error e => .error e
    | .ok (key, r) =>
      match skipBlanks r with
      | ':' :: r =>
        match readValue mode fuel (skipBlanks r) with
        | .error e => .error e
        | .ok (v, r) =>
          match skipBlanks r with
          | '\x7d' :: rest => .ok ([(key, v)], rest)
          | ',' :: rest =>
            (readMembers mode fuel (skipBlanks rest)).map fun (es, rest) => ((key, v) :: es, rest)
          | s => .error ⟨.noComma, s⟩
      | s => .error ⟨.noColon, s⟩
  | _ + 1, s => .error ⟨.noKey, s⟩

end

/-- Reads a text that holds one value and nothing else. -/
def readText (mode : Mode) (s : List Char) : Except Stop Value :=
  if s.head? = some '\ufeff' then .error ⟨.byteOrderMark, s⟩
  else
    match readValue mode (2 * s.length + 2) (skipBlanks s) with
    | .error e => .error e
    | .ok (v, r) => if (skipBlanks r).isEmpty then .ok v else .error ⟨.extraData, skipBlanks r⟩

/-- The value of a JSON text, or its first fault. -/
def read (mode : Mode) (text : String) : Except Fault Value :=
  (readText mode text.toList).mapError (·.locate text.toList)

/-! ### Writing -/

def writeChar (c : Char) : List Char :=
  if c = '"' then ['\\', '"']
  else if c = '\\' then ['\\', '\\']
  else if c = '\n' then ['\\', 'n']
  else if c = '\r' then ['\\', 'r']
  else if c = '\t' then ['\\', 't']
  else if c = '\x08' then ['\\', 'b']
  else if c = '\x0c' then ['\\', 'f']
  else if c.toNat < 0x20 then '\\' :: 'u' :: Text.hex 4 c.toNat
  else [c]

def writeString (s : String) : List Char :=
  '"' :: s.toList.flatMap writeChar ++ ['"']

end Promptsmith.Json
