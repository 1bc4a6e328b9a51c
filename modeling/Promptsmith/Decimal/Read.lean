import Promptsmith.Decimal.Binary
import Promptsmith.Text.Blank
import Promptsmith.Text.Classes

/-!
# Reading numbers

Whole numbers may have a sign and single underscores between their digits, and no more than a fixed
number of digits. Decimals are read into the nearest float.
-/
namespace Promptsmith.Decimal

open Promptsmith.Text

/-- The most digits that a whole number may have. -/
def maxDigits : Nat := 4300

/-- The digits that a text starts with, single underscores between them, and what follows; `joined`
says that a digit has just been read. -/
def takeGrouped (digit : Char → Option Nat) (joined : Bool) :
    List Char → Option (List Nat × List Char)
  | [] => if joined then some ([], []) else none
  | c :: r =>
    if c = '_' then if joined then takeGrouped digit false r else none
    else
      match digit c with
      | some d => (takeGrouped digit true r).map fun (ds, rest) => (d :: ds, rest)
      | none => if joined then some ([], c :: r) else none

def ofDigits (ds : List Nat) : Nat :=
  ds.foldl (fun n d => n * 10 + d) 0

/-- Takes a sign off a text; without one the number is positive. -/
def takeSign : List Char → Bool × List Char
  | '+' :: r => (false, r)
  | '-' :: r => (true, r)
  | s => (false, s)

def applySign (negative : Bool) (n : Nat) : Int :=
  if negative then -(Int.ofNat n) else Int.ofNat n

/-- The sign and the digits of the whole number in any script that a text starts with, white space
before it allowed, and what follows. -/
def takeWhole? (s : List Char) : Option (Bool × List Nat × List Char) :=
  let (negative, r) := takeSign (s.dropWhile isSpace)
  (takeGrouped digit? false r).map (negative, ·)

/-- The number of characters of the plain number that a text starts with: digits that do not start
with a zero, and a hyphen before them. -/
def plainLength (s : List Char) : Nat :=
  let (hyphens, r) :=
    match s with
    | '-' :: r => (1, r)
    | s => (0, s)
  match r with
  | '0' :: _ => 0
  | r => hyphens + (r.takeWhile Char.isDigit).length

/-- A fraction that leaves a number whole: none, or a point and zeros. -/
def isZeroFraction : List Char → Bool
  | [] => true
  | ['.'] => false
  | '.' :: zeros => zeros.all (· == '0')
  | _ => false

/-- A whole number in ASCII digits, white space around it; a fraction of zeros is allowed. Zeros in
front do not count for its length, a hyphen does. -/
def readWhole? (s : List Char) : Option Int :=
  let (negative, r) := takeSign (trimSpace s)
  match takeGrouped asciiDigit? false r with
  | none => none
  | some (ds, rest) =>
    let length := (ds.dropWhile (· == 0)).length + if negative then 1 else 0
    if isZeroFraction rest ∧ length ≤ maxDigits then some (applySign negative (ofDigits ds))
    else none

/-- The float nearest to `digits * 10 ^ exponent`. Beyond the range of floats the size alone
decides. -/
def toFloat (negative : Bool) (digits : Nat) (exponent : Int) : Float :=
  let size := exponent + (toString digits).length
  let x : Float :=
    if digits = 0 ∨ size < -400 then 0.0
    else if 400 < size then 1.0 / 0.0
    else if 0 ≤ exponent then Float.ofScientific (digits * tenTo exponent.toNat) false 0
    else Float.ofScientific digits true (-exponent).toNat
  if negative then -x else x

/-- An exponent part: nothing, or a mark, a sign and digits to the end of the text. -/
def readExponent? : List Char → Option Int
  | [] => some 0
  | c :: r =>
    if c = 'e' ∨ c = 'E' then
      let (negative, ds) := takeSign r
      if ds.isEmpty then none
      else (ds.mapM asciiDigit?).map fun ds => applySign negative (ofDigits ds)
    else none

def readDecimal? (s : List Char) : Option (Nat × Int) :=
  let whole := s.takeWhile Char.isDigit
  let (fraction, rest) :=
    match s.dropWhile Char.isDigit with
    | '.' :: r => (r.takeWhile Char.isDigit, r.dropWhile Char.isDigit)
    | r => ([], r)
  if whole.isEmpty && fraction.isEmpty then none
  else
    match (whole ++ fraction).mapM asciiDigit?, readExponent? rest with
    | some ds, some e => some (ofDigits ds, e - fraction.length)
    | _, _ => none

/-- A float without white space around it: a decimal, an infinity or no number. -/
def readPlainFloat? (s : List Char) : Option Float :=
  let (negative, r) := takeSign s
  let word := String.ofList (r.map Char.toLower)
  if word = "inf" ∨ word = "infinity" then some (if negative then -(1.0 / 0.0) else 1.0 / 0.0)
  else if word = "nan" then some (0.0 / 0.0)
  else (readDecimal? r).map fun (digits, e) => toFloat negative digits e

/-- Takes single underscores out from between other characters. -/
def dropUnderscores? : List Char → Option (List Char)
  | s =>
    if s.head? = some '_' ∨ s.getLast? = some '_' ∨ (s.zip s.tail).contains ('_', '_') then none
    else some (s.filter (· ≠ '_'))

/-- A float with white space around it or underscores in it. -/
def readFloat? (s : List Char) : Option Float :=
  readPlainFloat? (trimSpace s) <|> (dropUnderscores? s).bind readPlainFloat?

end Promptsmith.Decimal
