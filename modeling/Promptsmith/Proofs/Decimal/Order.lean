import Mathlib
import Promptsmith.Decimal.Binary

/-!
# Floats between floats

Floats are compared by their own model, and taken apart by their bits. Both agree on what the parts
are, so the parts of a float between two positive ones are bounded by theirs.
-/
namespace Promptsmith.Decimal

open Float.Model UnpackedFloat

/-- A float of the model in parts; a zero has the least exponent. -/
def Binary.ofUnpacked : UnpackedFloat → Binary
  | .notANumber => .nan
  | .infinity s => .infinite (s == .negative)
  | .zero s => .finite (s == .negative) 0 (-1074)
  | .finite s m e _ => .finite (s == .negative) m e

/-! ### Fields of bits -/

theorem unpackMantissa_toNat (b : BitVec Format.binary64.numBits) :
    (unpackMantissa b).toNat = b.toNat % twoTo 52 := by
  simp [unpackMantissa, BitVec.extractLsb, twoTo]

theorem unpackExponent_toNat (b : BitVec Format.binary64.numBits) :
    (unpackExponent b).toNat = b.toNat / twoTo 52 % twoTo 11 := by
  simp [unpackExponent, BitVec.extractLsb, twoTo, Nat.shiftRight_eq_div_pow]

theorem unpackSign_toNat (b : BitVec Format.binary64.numBits) :
    (unpackSign b).toNat = b.toNat / twoTo 63 % 2 := by
  simp [unpackSign, BitVec.extractLsb, twoTo, Nat.shiftRight_eq_div_pow]

theorem ofBitVec_eq (b : BitVec 1) : (Sign.ofBitVec b == .negative) = (b.toNat == 1) := by
  revert b
  decide

/-- The leading bit of a mantissa, which is not stored. -/
theorem append_one_toNat (m : BitVec 52) : (1#1 ++ m).toNat = twoTo 52 + m.toNat := by
  have hm : m.toNat < 2 ^ 52 := m.isLt
  have hor := Nat.two_pow_add_eq_or_of_lt hm 1
  rw [Nat.mul_one] at hor
  rw [BitVec.toNat_append, twoTo, Nat.pow_eq, hor]
  rfl

theorem Binary.ofBits_eq_ofUnpacked (b : BitVec Format.binary64.numBits) :
    Binary.ofBits b.toNat = .ofUnpacked (UnpackedFloat.unpack Format.binary64 b) := by
  have hmzero : unpackMantissa b = 0#_ ↔ (unpackMantissa b).toNat = 0 := by
    simp [← BitVec.toNat_inj]
  have hezero : unpackExponent b = 0#_ ↔ (unpackExponent b).toNat = 0 := by
    simp [← BitVec.toNat_inj]
  have heones : unpackExponent b = -1#_ ↔ (unpackExponent b).toNat = 2047 := by
    simp [← BitVec.toNat_inj]
  have hone := append_one_toNat (unpackMantissa b)
  rw [Binary.ofBits, UnpackedFloat.unpack]
  simp only [← unpackMantissa_toNat, ← unpackExponent_toNat, ← unpackSign_toNat, ← ofBitVec_eq]
  by_cases hlast : (unpackExponent b).toNat = 2047
  · rw [if_pos hlast, if_pos (heones.mpr hlast)]
    by_cases hfrac : (unpackMantissa b).toNat = 0
    · rw [if_pos hfrac, if_pos (hmzero.mpr hfrac)]
      rfl
    · rw [if_neg hfrac, if_neg (mt hmzero.mp hfrac)]
      rfl
  · rw [if_neg hlast, if_neg (mt heones.mp hlast)]
    by_cases hfirst : (unpackExponent b).toNat = 0
    · rw [if_pos hfirst, if_pos (hezero.mpr hfirst)]
      by_cases hfrac : (unpackMantissa b).toNat = 0
      · rw [dif_pos (hmzero.mpr hfrac), hfrac]
        rfl
      · rw [dif_neg (mt hmzero.mp hfrac), hfirst]
        rfl
    · rw [if_neg hfirst, if_neg (mt hezero.mp hfirst), Binary.ofUnpacked, hone]
      rfl

/-- The parts that the bits tell are those of the model. -/
theorem Binary.ofFloat_eq_ofUnpacked (x : Float) :
    Binary.ofFloat x = .ofUnpacked x.toModel.unpack :=
  Binary.ofBits_eq_ofUnpacked x.toBits.toBitVec

/-- The mantissa fills its bits, unless the exponent is the least. -/
theorem Binary.mantissa_of_ofFloat {x : Float} {negative : Bool} {m : Nat} {e : Int}
    (h : Binary.ofFloat x = .finite negative m e) :
    m < twoTo 53 ∧ (twoTo 52 ≤ m ∨ e = -1074) := by
  have hfraction := Nat.mod_lt x.toBits.toNat (twoTo_pos 52)
  have hdouble : twoTo 53 = twoTo 52 * 2 := twoTo_succ 52
  unfold Binary.ofFloat Binary.ofBits at h
  dsimp only at h
  generalize x.toBits.toNat % twoTo 52 = fraction at h hfraction
  by_cases hlast : x.toBits.toNat / twoTo 52 % twoTo 11 = 2047
  · rw [if_pos hlast] at h
    split at h <;> cases h
  · rw [if_neg hlast] at h
    split at h
    · cases h
      omega
    · cases h
      omega

/-! ### Comparing -/

theorem unpack_of_ofFloat {x : Float} {m : Nat} {e : Int} (hm : 0 < m)
    (h : Binary.ofFloat x = .finite false m e) :
    x.toModel.unpack = .finite .positive m e hm := by
  rw [Binary.ofFloat_eq_ofUnpacked] at h
  match hu : x.toModel.unpack with
  | .notANumber => simp [hu, Binary.ofUnpacked] at h
  | .infinity s => simp [hu, Binary.ofUnpacked] at h
  | .zero s =>
    rw [hu, Binary.ofUnpacked] at h
    exact absurd (Binary.finite.inj h).2.1 (Nat.ne_of_lt hm)
  | .finite .negative n f hn =>
    rw [hu, Binary.ofUnpacked] at h
    exact absurd (Binary.finite.inj h).1 (by decide)
  | .finite .positive n f hn =>
    rw [hu, Binary.ofUnpacked] at h
    obtain ⟨-, rfl, rfl⟩ := Binary.finite.inj h
    rfl

theorem compare_of_lt {x y : Float} (h : x < y) :
    x.toModel.unpack.compare y.toModel.unpack = some .lt := by
  have hlt : x.lt y = true := h
  have hmodel : x.toModel < y.toModel := of_decide_eq_true hlt
  have hunpack : (x.toModel.unpack.compare y.toModel.unpack == some .lt) = true := hmodel
  exact eq_of_beq hunpack

/-- A float between two positive floats is positive, and its parts lie between theirs. -/
theorem exists_of_between {low x high : Float} {l h : Nat} {d f : Int} (hl : 0 < l) (hh : 0 < h)
    (hlow : Binary.ofFloat low = .finite false l d)
    (hhigh : Binary.ofFloat high = .finite false h f) (hlx : low < x) (hxh : x < high) :
    ∃ m e, Binary.ofFloat x = .finite false m e ∧ (d < e ∨ d = e ∧ l < m) ∧
      (e < f ∨ e = f ∧ m < h) := by
  have hbelow := compare_of_lt hlx
  have habove := compare_of_lt hxh
  rw [unpack_of_ofFloat hl hlow] at hbelow
  rw [unpack_of_ofFloat hh hhigh] at habove
  rw [Binary.ofFloat_eq_ofUnpacked]
  match hu : x.toModel.unpack with
  | .notANumber => simp [hu, UnpackedFloat.compare] at hbelow
  | .infinity .positive => simp [hu, UnpackedFloat.compare] at habove
  | .infinity .negative => simp [hu, UnpackedFloat.compare] at hbelow
  | .zero s => simp [hu, UnpackedFloat.compare] at hbelow
  | .finite .negative m e hm => simp [hu, UnpackedFloat.compare] at hbelow
  | .finite .positive m e hm =>
    simp only [hu, UnpackedFloat.compare, Option.some.injEq, Ordering.then_eq_lt,
      compare_lt_iff_lt, compare_eq_iff_eq] at hbelow habove
    exact ⟨m, e, rfl, hbelow, habove⟩

end Promptsmith.Decimal
