import Promptsmith.Decimal.Binary

/-!
# Decimal notation

The decimals that read back as a given float fill an interval around it, which holds its ends when
the mantissa is even. The shortest decimal is looked for on grids of one digit, two digits and so
on: a grid that meets the interval meets it in a neighbour of the float, and of two such neighbours
the nearer is taken. `general` writes that decimal: with a point while the first digit stands
between the fourth place after it and the sixteenth before it, else with an exponent of at least two
digits. `fixed` writes a given number of places, a half going to the even neighbour.
-/
namespace Promptsmith.Decimal

/-! ### Shortest decimals -/

/-- `digits * 10 ^ exponent`. -/
structure Scaled where
  digits : Nat
  exponent : Int
  deriving DecidableEq, Repr

/-- The interval of the decimals that read back, as numerators over one denominator. -/
structure Interval where
  low : Nat
  value : Nat
  high : Nat
  den : Nat
  closed : Bool
  deriving DecidableEq, Repr

/-- The interval around `m * 2 ^ e`. Below a power of two the neighbours lie twice as close. -/
def Interval.around (m : Nat) (e : Int) : Interval :=
  let scale := (Ratio.ofBinary 1 (e - 2)).num
  { low := (if m = twoTo 52 ∧ -1074 < e then 4 * m - 1 else 4 * m - 2) * scale
    value := 4 * m * scale
    high := (4 * m + 2) * scale
    den := (Ratio.ofBinary 1 (e - 2)).den
    closed := m % 2 = 0 }

def digitCount (n : Nat) : Nat :=
  if n = 0 then 0 else (Nat.toDigits 10 n).length

/-- The number of digits before the point of `num / den`; not positive for a number below one
tenth. -/
def pointPlace (num den : Nat) : Int :=
  if den ≤ num then digitCount (num / den)
  else 1 - Int.ofNat (digitCount ((den + num - 1) / num - 1))

/-- `10 ^ e` as a quotient. -/
def Ratio.tenth (e : Int) : Ratio :=
  if 0 ≤ e then ⟨tenTo e.toNat, 1⟩ else ⟨1, tenTo (-e).toNat⟩

/-- The grid point `c * unit` lies in the interval. -/
def Interval.holds (i : Interval) (unit : Ratio) (c : Nat) : Bool :=
  let p := c * unit.num * i.den
  let low := i.low * unit.den
  let high := i.high * unit.den
  if i.closed then low ≤ p && p ≤ high else low < p && p < high

/-- The neighbour of the value on the grid of `10 ^ e` that reads back and is nearest. -/
def Interval.onGrid? (i : Interval) (e : Int) : Option Scaled :=
  let unit := Ratio.tenth e
  let below := i.value * unit.den / (unit.num * i.den)
  match i.holds unit below, i.holds unit (below + 1) with
  | false, false => none
  | true, false => some ⟨below, e⟩
  | false, true => some ⟨below + 1, e⟩
  | true, true => some ⟨roundHalfEven (i.value * unit.den) (unit.num * i.den), e⟩

/-- Tries the grids of ever more digits; seventeen always suffice. -/
def Interval.shortestFrom (i : Interval) (place : Int) (count : Nat) : Nat → Scaled
  | 0 => ⟨roundHalfEven (i.value * (Ratio.tenth (place - count)).den)
      ((Ratio.tenth (place - count)).num * i.den), place - count⟩
  | more + 1 =>
    match i.onGrid? (place - count) with
    | some d => d
    | none => i.shortestFrom place (count + 1) more

/-- The shortest decimal that reads back as `m * 2 ^ e`, for positive `m`. -/
def shortest (m : Nat) (e : Int) : Scaled :=
  let i := Interval.around m e
  i.shortestFrom (pointPlace i.value i.den) 1 16

/-! ### Notation -/

def zeros (n : Nat) : List Char := List.replicate n '0'

/-- Digits with a point after the first `place` of them. -/
def positional (digits : List Char) (place : Int) : List Char :=
  if place ≤ 0 then '0' :: '.' :: zeros (-place).toNat ++ digits
  else if digits.length ≤ place.toNat then
    digits ++ zeros (place.toNat - digits.length) ++ ['.', '0']
  else digits.take place.toNat ++ '.' :: digits.drop place.toNat

def scientific (digits : List Char) (place : Int) : List Char :=
  let e := place - 1
  let mantissa :=
    match digits with
    | [] => []
    | [d] => [d]
    | d :: r => d :: '.' :: r
  let size := (toString e.natAbs).toList
  mantissa ++ 'e' :: (if e < 0 then '-' else '+') :: zeros (2 - size.length) ++ size

/-- Writes a positive decimal; trailing zeros of its digits do not show. -/
def Scaled.write (d : Scaled) : List Char :=
  let all := (toString d.digits).toList
  let place := d.exponent + all.length
  let digits := (all.reverse.dropWhile (· == '0')).reverse
  if -3 ≤ place ∧ place ≤ 16 then positional digits place else scientific digits place

def signed (negative : Bool) (s : List Char) : List Char :=
  if negative then '-' :: s else s

/-- The shortest text that reads back as the float. -/
def general (x : Float) : String :=
  String.ofList <| match Binary.ofFloat x with
    | .nan => ['n', 'a', 'n']
    | .infinite negative => signed negative ['i', 'n', 'f']
    | .finite negative m e =>
      signed negative (if m = 0 then ['0', '.', '0'] else (shortest m e).write)

/-- The float with `places` digits after the point. -/
def fixed (places : Nat) (x : Float) : String :=
  String.ofList <| match Binary.ofFloat x with
    | .nan => ['n', 'a', 'n']
    | .infinite negative => signed negative ['i', 'n', 'f']
    | .finite negative m e =>
      let n := (Ratio.ofBinary m e).round (tenTo places)
      let size := (toString (n % tenTo places)).toList
      signed negative ((toString (n / tenTo places)).toList ++
        '.' :: zeros (places - size.length) ++ size)

end Promptsmith.Decimal
