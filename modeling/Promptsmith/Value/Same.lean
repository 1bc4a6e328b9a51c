import Promptsmith.Decimal.Binary
import Promptsmith.Value.Basic

/-!
# Equality of values

Numbers are compared as numbers, whatever kind they are of, a word of a vocabulary equals its text,
and mappings are equal when they hold equal values under the same keys. A list never equals a
tuple, and the float that is no number equals nothing, not even itself.
-/
namespace Promptsmith.Value

/-- A number as a whole number, if it is one. -/
def whole? : Value → Option Int
  | .bool b => some (if b then 1 else 0)
  | .int n => some n
  | .float x => Decimal.whole? x
  | _ => none

def sameScalar (a b : Value) : Bool :=
  match a, b with
  | .null, .null => true
  | .float x, .float y => x == y
  | a, b =>
    match a.text?, b.text? with
    | some s, some t => s == t
    | _, _ =>
      match a.whole?, b.whole? with
      | some m, some n => m == n
      | _, _ => false

mutual

def same : Value → Value → Bool
  | .list xs, .list ys => sameAll xs ys
  | .tuple xs, .tuple ys => sameAll xs ys
  | .map xs, .map ys => xs.length == ys.length && sameEntries xs ys
  | a, b => sameScalar a b

def sameAll : List Value → List Value → Bool
  | [], [] => true
  | x :: xs, y :: ys => same x y && sameAll xs ys
  | _, _ => false

def sameEntries : List (String × Value) → List (String × Value) → Bool
  | [], _ => true
  | (k, v) :: es, others =>
    (match List.lookup k others with
      | some w => same v w
      | none => false) && sameEntries es others

end

/-- The value is among others. -/
def isIn (v : Value) (others : List Value) : Bool :=
  others.any v.same

end Promptsmith.Value
