/-!
# Binary floating point, taken apart

A finite number is a sign, a whole mantissa and a power of two, so that questions about it are
questions about whole numbers. Quotients are rounded to the nearest whole number, and of two equally
near to the even one.
-/
namespace Promptsmith.Decimal

/-! ### Powers and quotients -/

def twoTo (n : Nat) : Nat := Nat.pow 2 n
def tenTo (n : Nat) : Nat := Nat.pow 10 n

theorem twoTo_pos (n : Nat) : 0 < twoTo n := Nat.two_pow_pos n

theorem twoTo_succ (n : Nat) : twoTo (n + 1) = twoTo n * 2 := rfl

/-- The nearest whole number to `num / den`, half to even. -/
def roundHalfEven (num den : Nat) : Nat :=
  let q := num / den
  let r := 2 * (num % den)
  if den < r ∨ (r = den ∧ q % 2 = 1) then q + 1 else q

/-- The rounded quotient lies within half a unit. -/
theorem roundHalfEven_near {num den : Nat} (h : 0 < den) :
    2 * (roundHalfEven num den * den) ≤ 2 * num + den ∧
      2 * num ≤ 2 * (roundHalfEven num den * den) + den := by
  have hd := Nat.div_add_mod num den
  have hm := Nat.mod_lt num h
  have hc : num / den * den = den * (num / den) := Nat.mul_comm _ _
  simp only [roundHalfEven]
  split
  · rw [Nat.add_mul, hc]; omega
  · rw [hc]; omega

/-! ### Floats -/

inductive Binary where
  | nan
  | infinite (negative : Bool)
  | finite (negative : Bool) (mantissa : Nat) (exponent : Int)
  deriving DecidableEq, Repr

def Binary.ofBits (bits : Nat) : Binary :=
  let negative := bits / twoTo 63 % 2 == 1
  let exponent := bits / twoTo 52 % twoTo 11
  let fraction := bits % twoTo 52
  if exponent = 2047 then
    if fraction = 0 then .infinite negative else .nan
  else if exponent = 0 then .finite negative fraction (-1074)
  else .finite negative (twoTo 52 + fraction) (Int.ofNat exponent - 1075)

def Binary.ofFloat (x : Float) : Binary :=
  .ofBits x.toBits.toNat

/-- A non-negative quotient of whole numbers. -/
structure Ratio where
  num : Nat
  den : Nat
  deriving DecidableEq, Repr

/-- `mantissa * 2 ^ exponent`. -/
def Ratio.ofBinary (mantissa : Nat) (exponent : Int) : Ratio :=
  if 0 ≤ exponent then ⟨mantissa * twoTo exponent.toNat, 1⟩ else ⟨mantissa, twoTo (-exponent).toNat⟩

/-- The magnitude in units of `1 / scale`, rounded half to even. -/
def Ratio.round (r : Ratio) (scale : Nat) : Nat :=
  roundHalfEven (r.num * scale) r.den

/-- The whole number a float is equal to, if there is one. -/
def whole? (x : Float) : Option Int :=
  match Binary.ofFloat x with
  | .finite negative m e =>
    let r := Ratio.ofBinary m e
    if r.num % r.den = 0 then
      some (if negative then -(Int.ofNat (r.num / r.den)) else Int.ofNat (r.num / r.den))
    else none
  | _ => none

end Promptsmith.Decimal
