import Promptsmith.Proofs.Decimal.Order

/-!
# Rounding

The sum and the product of two floats are rounded to a mantissa of 53 bits. It is cut and goes up by
one at most, so the result is off by one unit in the last place at most, unless the number is too
small for its mantissa to fill its bits or too large for its exponent.
-/
namespace Promptsmith.Decimal

open Float.Model UnpackedFloat

/-- The last place of a float, as a part of it. -/
def ulp : ℚ := 1 / 2 ^ 52

/-- The float is positive or a positive zero, and it stands for a number. -/
def Denotes (x : Float) (q : ℚ) : Prop :=
  ∃ (m : Nat) (e : Int), Binary.ofFloat x = .finite false m e ∧ q = m * (2 : ℚ) ^ e

/-- Numbers in the range in which mantissas are full. -/
def Ordinary (q : ℚ) : Prop :=
  (2 : ℚ) ^ (-1022 : ℤ) ≤ q ∧ q < (2 : ℚ) ^ (1021 : ℤ)

/-- The float is a zero or in the range, and it stands for the number. -/
structure Stands (x : Float) (q : ℚ) : Prop where
  denotes : Denotes x q
  usual : q = 0 ∨ Ordinary q

theorem Ordinary.pos {q : ℚ} (h : Ordinary q) : 0 < q :=
  lt_of_lt_of_le (by positivity) h.1

/-! ### Cutting a mantissa -/

theorem shiftRight_mantissa (em : ExtendedMantissa) (k : Nat) :
    (em >>> k).mantissa = em.mantissa / 2 ^ k := by
  induction k with
  | zero => exact (Nat.div_one _).symm
  | succ k ih =>
    have hstep : (em >>> (k + 1)).mantissa = (em >>> k).mantissa / 2 := rfl
    rw [hstep, ih, Nat.div_div_eq_div_mul, Nat.pow_succ]

theorem roundedMantissa_bounds (em : ExtendedMantissa) :
    em.mantissa ≤ em.roundedMantissa ∧ em.roundedMantissa ≤ em.mantissa + 1 := by
  obtain ⟨m, round, sticky⟩ := em
  cases round <;> cases sticky <;>
    simp only [ExtendedMantissa.roundedMantissa, ExtendedMantissa.accuracy,
      Accuracy.roundToNearestEven] <;> omega

/-- The bits of a mantissa beyond those that are kept. -/
def excess (m : Nat) : Nat := m.log2 - 52

theorem two_pow_le_div {m : Nat} (hm : 2 ^ 52 ≤ m) : 2 ^ 52 ≤ m / 2 ^ excess m := by
  have hne : m ≠ 0 := by omega
  have hlog : 52 ≤ m.log2 := (Nat.le_log2 hne).mpr hm
  rw [Nat.le_div_iff_mul_le (by positivity), ← pow_add, excess, Nat.add_sub_cancel' hlog]
  exact Nat.log2_self_le hne

theorem div_lt_two_pow {m : Nat} : m / 2 ^ excess m < 2 ^ 53 := by
  rw [Nat.div_lt_iff_lt_mul (by positivity), ← pow_add]
  exact lt_of_lt_of_le Nat.lt_log2_self (Nat.pow_le_pow_right (by decide) (by unfold excess; omega))

theorem targetExponent_eq {m : Nat} {e : Int} (hm : 2 ^ 52 ≤ m) (he : -1074 ≤ e + excess m) :
    Format.binary64.targetExponent (totalExponent m e) = e + excess m := by
  have hlog : 52 ≤ m.log2 := (Nat.le_log2 (by omega)).mpr hm
  have hmin : Format.binary64.minExponent = -1074 := by decide
  have hbits : Format.binary64.mantissaBits = 53 := by decide
  rw [Format.targetExponent, totalExponent, hmin, hbits]
  unfold excess at *
  omega

theorem shiftToTargetExponent_eq {m : Nat} {e : Int} (hm : 2 ^ 52 ≤ m)
    (he : -1074 ≤ e + excess m) :
    shiftToTargetExponent Format.binary64 m e .exact =
      ((⟨m, false, false⟩ : ExtendedMantissa) >>> excess m, e + excess m) := by
  rw [shiftToTargetExponent, targetExponent_eq hm he, shiftToExponent]
  have hshift : (e + (excess m : Int) - e).toNat = excess m := by omega
  simp only [hshift, ExtendedMantissa.ofMantissaAndAccuracy]

/-- The mantissa `n` at `f` is `r` at `d`, where it fills its bits. -/
structure Fitted (r : Nat) (d : Int) (n : Nat) (f : Int) : Prop where
  full : 2 ^ 52 ≤ n ∧ n < 2 ^ 53
  place : d ≤ f ∧ f ≤ d + 1
  value : (n : ℚ) * (2 : ℚ) ^ f = r * (2 : ℚ) ^ d

/-- A mantissa that was rounded up to one bit too many is shifted once more. -/
theorem exists_fitted {r : Nat} {d : Int} (hr : 2 ^ 52 ≤ r) (hr' : r ≤ 2 ^ 53) (hd : -1074 ≤ d) :
    ∃ em f, shiftToTargetExponent Format.binary64 r d .exact = (em, f) ∧
      Fitted r d em.mantissa f := by
  refine ⟨_, _, shiftToTargetExponent_eq hr (by omega), ?_⟩
  rw [shiftRight_mantissa]
  rcases Nat.lt_or_eq_of_le hr' with hlt | rfl
  · have hlog : r.log2 < 53 := (Nat.log2_lt (by omega)).mpr hlt
    have hnone : excess r = 0 := by
      unfold excess
      omega
    rw [hnone, pow_zero, Nat.div_one]
    exact ⟨⟨hr, hlt⟩, by omega, by simp⟩
  · have hone : excess (2 ^ 53) = 1 := by
      rw [excess, Nat.log2_two_pow]
    rw [hone]
    refine ⟨by decide, by omega, ?_⟩
    rw [Nat.cast_one, zpow_add₀ two_ne_zero]
    norm_num
    ring

/-! ### Rounding a number -/

/-- The number is rounded to a float of the model that is off by its last place at most. -/
structure Rounded (v : ℚ) (n : Nat) (f : Int) : Prop where
  full : 2 ^ 52 ≤ n ∧ n < 2 ^ 53
  range : -1074 ≤ f ∧ f ≤ 970
  error : v * (1 - ulp) ≤ n * (2 : ℚ) ^ f ∧ n * (2 : ℚ) ^ f ≤ v * (1 + ulp)

theorem log2_bounds {m : Nat} (hm : 0 < m) (e : Int) :
    (2 : ℚ) ^ ((m.log2 : Int) + e) ≤ m * (2 : ℚ) ^ e ∧
      m * (2 : ℚ) ^ e < (2 : ℚ) ^ ((m.log2 : Int) + 1 + e) := by
  have hlow : (2 : ℚ) ^ m.log2 ≤ m := by exact_mod_cast Nat.log2_self_le hm.ne'
  have hhigh : (m : ℚ) < (2 : ℚ) ^ (m.log2 + 1) := by exact_mod_cast Nat.lt_log2_self
  have hpos : (0 : ℚ) < (2 : ℚ) ^ e := by positivity
  rw [zpow_add₀ two_ne_zero, zpow_add₀ two_ne_zero]
  constructor
  · exact mul_le_mul_of_nonneg_right (by exact_mod_cast hlow) hpos.le
  · exact mul_lt_mul_of_pos_right (by exact_mod_cast hhigh) hpos

theorem Ordinary.log2 {m : Nat} {e : Int} (hm : 0 < m) (h : Ordinary (m * (2 : ℚ) ^ e)) :
    -1022 ≤ (m.log2 : Int) + e ∧ (m.log2 : Int) + e ≤ 1020 := by
  obtain ⟨hlow, hhigh⟩ := log2_bounds hm e
  have hfirst := (zpow_lt_zpow_iff_right₀ one_lt_two).mp (lt_of_le_of_lt h.1 hhigh)
  have hlast := (zpow_lt_zpow_iff_right₀ one_lt_two).mp (lt_of_le_of_lt hlow h.2)
  omega

/-- The rounded mantissa is off by one at most, of at least `2 ^ 52`. -/
theorem error_of_cut {m r : Nat} (e : Int) (hm : 2 ^ 52 ≤ m) (hlow : m / 2 ^ excess m ≤ r)
    (hhigh : r ≤ m / 2 ^ excess m + 1) :
    (m : ℚ) * (2 : ℚ) ^ e * (1 - ulp) ≤ r * (2 : ℚ) ^ (e + excess m) ∧
      r * (2 : ℚ) ^ (e + excess m) ≤ (m : ℚ) * (2 : ℚ) ^ e * (1 + ulp) := by
  have hlog : 52 ≤ m.log2 := (Nat.le_log2 (by omega)).mpr hm
  have hstep : 2 ^ excess m * 2 ^ 52 ≤ m := by
    rw [← pow_add, excess, Nat.sub_add_cancel hlog]
    exact Nat.log2_self_le (by omega)
  have hfloor := Nat.div_mul_le_self m (2 ^ excess m)
  have hceil := Nat.lt_div_mul_add (a := m) (b := 2 ^ excess m) (by positivity)
  have hunit : ((2 : ℚ) ^ excess m) ≤ m * ulp := by
    have hcast : ((2 : ℚ) ^ excess m) * 2 ^ 52 ≤ m := by exact_mod_cast hstep
    unfold ulp
    linarith
  have hbelow : (m : ℚ) ≤ r * (2 : ℚ) ^ excess m + (2 : ℚ) ^ excess m := by
    have hnat : m ≤ r * 2 ^ excess m + 2 ^ excess m :=
      le_trans hceil.le (Nat.add_le_add_right (Nat.mul_le_mul_right _ hlow) _)
    exact_mod_cast hnat
  have habove : (r : ℚ) * (2 : ℚ) ^ excess m ≤ m + (2 : ℚ) ^ excess m := by
    have hnat : r * 2 ^ excess m ≤ m + 2 ^ excess m := by
      refine le_trans (Nat.mul_le_mul_right _ hhigh) ?_
      rw [Nat.add_mul, Nat.one_mul]
      exact Nat.add_le_add_right hfloor _
    exact_mod_cast hnat
  have hpos : (0 : ℚ) < (2 : ℚ) ^ e := by positivity
  rw [zpow_add₀ two_ne_zero, zpow_natCast]
  constructor
  · nlinarith
  · nlinarith

theorem exists_rounded {m : Nat} {e : Int} (s : Sign) (hm : 2 ^ 52 ≤ m)
    (hv : Ordinary (m * (2 : ℚ) ^ e)) :
    ∃ n f hn, Rounded (m * (2 : ℚ) ^ e) n f ∧
      roundWithAccuracy Format.binary64 s m e .exact = .finite s n f hn := by
  have hlog : 52 ≤ m.log2 := (Nat.le_log2 (by omega)).mpr hm
  have hrange := hv.log2 (by omega)
  have hexcess : (excess m : Int) = m.log2 - 52 := by
    unfold excess
    omega
  let em : ExtendedMantissa := (⟨m, false, false⟩ : ExtendedMantissa) >>> excess m
  have hcut : em.mantissa = m / 2 ^ excess m := shiftRight_mantissa _ _
  obtain ⟨hlow, hhigh⟩ := roundedMantissa_bounds em
  rw [hcut] at hlow hhigh
  have hfirst : 2 ^ 52 ≤ em.roundedMantissa := le_trans (two_pow_le_div hm) hlow
  have hlast : em.roundedMantissa ≤ 2 ^ 53 := le_trans hhigh div_lt_two_pow
  obtain ⟨em', f, hshift, hfit⟩ := exists_fitted hfirst hlast (d := e + excess m) (by omega)
  have hplace := hfit.place
  have hpos : 0 < em'.mantissa := lt_of_lt_of_le (by decide) hfit.full.1
  refine ⟨em'.mantissa, f, hpos, ⟨hfit.full, by omega, ?_⟩, ?_⟩
  · rw [hfit.value]
    exact error_of_cut e hm hlow hhigh
  · rw [roundWithAccuracy, shiftToTargetExponent_eq hm (by omega)]
    dsimp only
    rw [hshift]
    exact dif_neg hpos.ne'

/-- A number with too few bits in its mantissa is first shifted the other way. -/
theorem exists_round {m : Nat} {e : Int} (s : Sign) (hm : 0 < m)
    (hv : Ordinary (m * (2 : ℚ) ^ e)) :
    ∃ n f hn, Rounded (m * (2 : ℚ) ^ e) n f ∧
      UnpackedFloat.round Format.binary64 s m e = .finite s n f hn := by
  have hmin : Format.binary64.minExponent = -1074 := by decide
  have hbits : Format.binary64.mantissaBits = 53 := by decide
  have hrange := hv.log2 hm
  have htarget : Format.binary64.targetExponent (totalExponent m e) = (m.log2 : Int) + e - 52 := by
    rw [Format.targetExponent, totalExponent, hmin, hbits]
    omega
  have hlack : (e - ((m.log2 : Int) + e - 52)).toNat = 52 - m.log2 := by omega
  have hwide : 2 ^ 52 ≤ m * 2 ^ (52 - m.log2) := by
    calc 2 ^ 52 ≤ 2 ^ (m.log2 + (52 - m.log2)) := Nat.pow_le_pow_right (by decide) (by omega)
      _ = 2 ^ m.log2 * 2 ^ (52 - m.log2) := pow_add 2 _ _
      _ ≤ m * 2 ^ (52 - m.log2) := Nat.mul_le_mul_right _ (Nat.log2_self_le hm.ne')
  have hsame : ((m * 2 ^ (52 - m.log2) : Nat) : ℚ) * (2 : ℚ) ^ (e - (52 - m.log2 : Nat)) =
      m * (2 : ℚ) ^ e := by
    rw [zpow_sub₀ two_ne_zero, zpow_natCast]
    push_cast
    field_simp
  rw [← hsame] at hv ⊢
  rw [UnpackedFloat.round, htarget, decreaseExponent, hlack, Nat.shiftLeft_eq]
  exact exists_rounded s hwide hv

/-! ### Packing -/

theorem unpackSign_packComponents (s : Sign) (e : BitVec 11) (m : BitVec 52) :
    Sign.ofBitVec (unpackSign (packComponents Format.binary64 s e m)) = s := by
  have hsign : unpackSign (packComponents Format.binary64 s e m) = s.toBitVec := by
    ext i hi
    obtain rfl : i = 0 := by omega
    have hget : (unpackSign (packComponents Format.binary64 s e m))[0] =
        (s.toBitVec ++ e ++ m).getLsbD 63 := by
      simp [unpackSign, packComponents, ← BitVec.getLsbD_eq_getElem]
    rw [hget, BitVec.getLsbD_append, BitVec.getLsbD_append]
    simp [BitVec.getLsbD_eq_getElem]
  rw [hsign]
  cases s <;> rfl

theorem pack_normal {n : Nat} {f : Int} {s : Sign} (hn : 0 < n)
    (hfull : 2 ^ 52 ≤ n ∧ n < 2 ^ 53) (hf : -1074 ≤ f ∧ f ≤ 970) :
    UnpackedFloat.pack Format.binary64 (.finite s n f hn) =
      packComponents Format.binary64 s (BitVec.ofNat 11 (f + 1075).toNat) (BitVec.ofNat 52 n) := by
  have hlog : n.log2 = 52 := (Nat.log2_eq_iff hn.ne').mpr hfull
  have hbias : f + (Format.binary64.exponentBias : Int) + (52 : Nat) = f + 1075 := by
    have : Format.binary64.exponentBias = 1023 := by decide
    omega
  have hfinite : ¬2 ^ Format.binary64.exponentBits ≤ (f + 1075).toNat + 1 := by
    have : 2 ^ Format.binary64.exponentBits = 2048 := by decide
    omega
  rw [UnpackedFloat.pack]
  dsimp only
  rw [hbias, if_neg hfinite, hlog, if_pos (by decide)]

theorem unpack_pack {n : Nat} {f : Int} {s : Sign} (hn : 0 < n) (hfull : 2 ^ 52 ≤ n ∧ n < 2 ^ 53)
    (hf : -1074 ≤ f ∧ f ≤ 970) :
    (Float.Model.pack (.finite s n f hn)).unpack = .finite s n f hn := by
  have hunpack : (Float.Model.pack (.finite s n f hn)).unpack =
      UnpackedFloat.unpack Format.binary64
        (UnpackedFloat.pack Format.binary64 (.finite s n f hn)) := rfl
  have hexponent : (BitVec.ofNat 11 (f + 1075).toNat).toNat = (f + 1075).toNat := by
    rw [BitVec.toNat_ofNat, Nat.mod_eq_of_lt (by omega)]
  have hlast : BitVec.ofNat 11 (f + 1075).toNat ≠ -1#11 := by
    intro h
    have := congrArg BitVec.toNat h
    rw [hexponent] at this
    simp at this
    omega
  have hfirst : BitVec.ofNat 11 (f + 1075).toNat ≠ 0#11 := by
    intro h
    have := congrArg BitVec.toNat h
    rw [hexponent] at this
    simp at this
    omega
  have hmantissa : (1#1 ++ BitVec.ofNat 52 n).toNat = n := by
    rw [append_one_toNat, BitVec.toNat_ofNat, twoTo, Nat.pow_eq]
    omega
  rw [hunpack, pack_normal hn hfull hf, UnpackedFloat.unpack]
  simp only [unpackMantissa_packComponents, unpackExponent_packComponents,
    unpackSign_packComponents]
  rw [if_neg hlast, if_neg hfirst]
  simp only [hmantissa, hexponent]
  congr 1
  have : Format.binary64.exponentBias = 1023 := by decide
  omega

/-! ### Arithmetic -/

/-- A float in the ordinary range has a full mantissa. -/
theorem Denotes.unpack {x : Float} {q : ℚ} (h : Denotes x q) (hq : Ordinary q) :
    ∃ m e hm, x.toModel.unpack = .finite .positive m e hm ∧ q = m * (2 : ℚ) ^ e ∧
      (2 ^ 52 ≤ m ∧ m < 2 ^ 53) ∧ -1074 ≤ e ∧ e ≤ 970 := by
  obtain ⟨m, e, hx, rfl⟩ := h
  have hm : 0 < m := by
    refine Nat.pos_of_ne_zero ?_
    rintro rfl
    have := hq.pos
    simp at this
  obtain ⟨hlast, hfull⟩ := Binary.mantissa_of_ofFloat hx
  rw [show twoTo 53 = 2 ^ 53 from rfl] at hlast
  rw [show twoTo 52 = 2 ^ 52 from rfl] at hfull
  have hrange := hq.log2 hm
  have hlog : m.log2 < 53 := (Nat.log2_lt hm.ne').mpr hlast
  have hfirst : 2 ^ 52 ≤ m := by
    rcases hfull with hfull | rfl
    · exact hfull
    · exact (Nat.le_log2 hm.ne').mp (by omega)
  have hlog' : 52 ≤ m.log2 := (Nat.le_log2 hm.ne').mpr hfirst
  exact ⟨m, e, hm, unpack_of_ofFloat hm hx, rfl, ⟨hfirst, hlast⟩, by omega, by omega⟩

theorem denotes_of_unpack {x : Float} {m : Nat} {e : Int} {hm : 0 < m}
    (h : x.toModel.unpack = .finite .positive m e hm) : Denotes x (m * (2 : ℚ) ^ e) := by
  refine ⟨m, e, ?_, rfl⟩
  rw [Binary.ofFloat_eq_ofUnpacked, h]
  rfl

/-- The float that a number is rounded to. -/
theorem Rounded.denotes {v : ℚ} {n : Nat} {f : Int} (h : Rounded v n f) (hn : 0 < n) :
    ∃ r, Denotes (.ofModel (.pack (.finite .positive n f hn))) r ∧ v * (1 - ulp) ≤ r ∧
      r ≤ v * (1 + ulp) :=
  ⟨_, denotes_of_unpack (unpack_pack hn h.full h.range), h.error⟩

theorem Denotes.mul {x y : Float} {p q : ℚ} (hx : Denotes x p) (hy : Denotes y q)
    (hp : Ordinary p) (hq : Ordinary q) (hpq : Ordinary (p * q)) :
    ∃ r, Denotes (x * y) r ∧ p * q * (1 - ulp) ≤ r ∧ r ≤ p * q * (1 + ulp) := by
  obtain ⟨m, d, hm, hxm, rfl, hfull, -⟩ := hx.unpack hp
  obtain ⟨n, e, hn, hyn, rfl, -⟩ := hy.unpack hq
  have hvalue : (m : ℚ) * (2 : ℚ) ^ d * (n * (2 : ℚ) ^ e) = (m * n : Nat) * (2 : ℚ) ^ (d + e) := by
    rw [zpow_add₀ two_ne_zero]
    push_cast
    ring
  have hwide : 2 ^ 52 ≤ m * n := le_trans hfull.1 (Nat.le_mul_of_pos_right m hn)
  rw [hvalue] at hpq ⊢
  obtain ⟨k, f, hk, hrounded, hround⟩ := exists_rounded .positive hwide hpq
  have hproduct : x * y = .ofModel (.pack (.finite .positive k f hk)) := by
    have hmodel : x * y =
      .ofModel (.pack (UnpackedFloat.mul Format.binary64 x.toModel.unpack y.toModel.unpack)) := rfl
    rw [hmodel, hxm, hyn, UnpackedFloat.mul]
    exact congrArg (fun z => Float.ofModel (.pack z)) hround
  rw [hproduct]
  exact hrounded.denotes hk

/-- With the exponent lowered the mantissa is greater. -/
theorem decreaseExponent_value (m : Nat) {d e : Int} (h : d ≤ e) :
    ((decreaseExponent m e d).1 : ℚ) * (2 : ℚ) ^ d = m * (2 : ℚ) ^ e := by
  have hsplit : e = (e - d).toNat + d := by omega
  rw [decreaseExponent]
  dsimp only
  conv_rhs => rw [hsplit, zpow_add₀ two_ne_zero, zpow_natCast]
  rw [Nat.shiftLeft_eq]
  push_cast
  ring

theorem Denotes.add {x y : Float} {p q : ℚ} (hx : Denotes x p) (hy : Denotes y q)
    (hp : Ordinary p) (hq : Ordinary q) (hpq : Ordinary (p + q)) :
    ∃ r, Denotes (x + y) r ∧ (p + q) * (1 - ulp) ≤ r ∧ r ≤ (p + q) * (1 + ulp) := by
  obtain ⟨m, d, hm, hxm, rfl, -⟩ := hx.unpack hp
  obtain ⟨n, e, hn, hyn, rfl, -⟩ := hy.unpack hq
  let low := min d e
  let sum := (decreaseExponent m d low).1 + (decreaseExponent n e low).1
  have hvalue : (m : ℚ) * (2 : ℚ) ^ d + n * (2 : ℚ) ^ e = (sum : Nat) * (2 : ℚ) ^ low := by
    rw [← decreaseExponent_value m (min_le_left d e), ← decreaseExponent_value n (min_le_right d e)]
    push_cast [sum, low]
    ring
  rw [hvalue] at hpq ⊢
  have hsum : 0 < sum := by
    refine Nat.pos_of_ne_zero ?_
    intro hzero
    have := hpq.pos
    simp [hzero] at this
  obtain ⟨k, f, hk, hrounded, hround⟩ := exists_round .positive hsum hpq
  have hplus : x + y = .ofModel (.pack (.finite .positive k f hk)) := by
    have hmodel : x + y =
      .ofModel (.pack (UnpackedFloat.add Format.binary64 x.toModel.unpack y.toModel.unpack)) := rfl
    have hnormalize : UnpackedFloat.add Format.binary64 (.finite .positive m d hm)
        (.finite .positive n e hn) = normalize Format.binary64 (sum : Nat) low .positive := rfl
    have hcompare : compare (sum : Int) 0 = .gt := compare_gt_iff_gt.mpr (by omega)
    rw [hmodel, hxm, hyn, hnormalize, UnpackedFloat.normalize, hcompare]
    exact congrArg (fun z => Float.ofModel (.pack z)) hround
  rw [hplus]
  exact hrounded.denotes hk

theorem unpack_of_zero {x : Float} (h : Denotes x 0) : x.toModel.unpack = .zero .positive := by
  obtain ⟨m, e, hx, hzero⟩ := h
  have hm : m = 0 := by
    rcases mul_eq_zero.mp hzero.symm with hm | he
    · exact_mod_cast hm
    · exact absurd he (by positivity)
  subst hm
  rw [Binary.ofFloat_eq_ofUnpacked] at hx
  match hu : x.toModel.unpack with
  | .notANumber => simp [hu, Binary.ofUnpacked] at hx
  | .infinity s => simp [hu, Binary.ofUnpacked] at hx
  | .zero .positive => rfl
  | .zero .negative =>
    rw [hu, Binary.ofUnpacked] at hx
    exact absurd (Binary.finite.inj hx).1 (by decide)
  | .finite s n f hn =>
    rw [hu, Binary.ofUnpacked] at hx
    exact absurd (Binary.finite.inj hx).2.1 hn.ne'

theorem Denotes.zero_add {x y : Float} {q : ℚ} (hx : Denotes x 0) (hy : Denotes y q)
    (hq : Ordinary q) : Denotes (x + y) q := by
  obtain ⟨n, e, hn, hyn, rfl, hfull, hrange⟩ := hy.unpack hq
  refine @denotes_of_unpack _ _ _ hn ?_
  have hmodel : (x + y).toModel =
    .pack (UnpackedFloat.add Format.binary64 x.toModel.unpack y.toModel.unpack) := rfl
  have hsame : UnpackedFloat.add Format.binary64 (.zero .positive) (.finite .positive n e hn) =
    .finite .positive n e hn := rfl
  rw [hmodel, unpack_of_zero hx, hyn, hsame]
  exact unpack_pack hn hfull hrange

/-! ### Order -/

/-- Canonical parts are ordered by their exponents first. -/
theorem value_lt_of_lt {m n : Nat} {d e : Int} (hm : m < 2 ^ 53) (hn : 2 ^ 52 ≤ n) (hde : d < e) :
    (m : ℚ) * (2 : ℚ) ^ d < n * (2 : ℚ) ^ e := by
  have hstep : (2 : ℚ) ^ (d + 1) ≤ (2 : ℚ) ^ e := zpow_le_zpow_right₀ one_le_two hde
  have hpos : (0 : ℚ) < (2 : ℚ) ^ d := by positivity
  have hm' : (m : ℚ) < 2 ^ 53 := by exact_mod_cast hm
  have hn' : (2 : ℚ) ^ 52 ≤ n := by exact_mod_cast hn
  calc (m : ℚ) * (2 : ℚ) ^ d < 2 ^ 53 * (2 : ℚ) ^ d := mul_lt_mul_of_pos_right hm' hpos
    _ = 2 ^ 52 * (2 : ℚ) ^ (d + 1) := by
      rw [zpow_add_one₀ two_ne_zero]
      ring
    _ ≤ n * (2 : ℚ) ^ e := mul_le_mul hn' hstep (by positivity) (by positivity)

theorem compare_parts {m n : Nat} {d e : Int} (hm : 2 ^ 52 ≤ m ∧ m < 2 ^ 53)
    (hn : 2 ^ 52 ≤ n ∧ n < 2 ^ 53) :
    (compare d e).then (compare m n) =
      compare ((m : ℚ) * (2 : ℚ) ^ d) ((n : ℚ) * (2 : ℚ) ^ e) := by
  rcases lt_trichotomy d e with hde | rfl | hed
  · rw [compare_lt_iff_lt.mpr hde, compare_lt_iff_lt.mpr (value_lt_of_lt hm.2 hn.1 hde)]
    rfl
  · have hpos : (0 : ℚ) < (2 : ℚ) ^ d := by positivity
    rw [compare_eq_iff_eq.mpr rfl, Ordering.then]
    rcases lt_trichotomy m n with hmn | rfl | hnm
    · rw [compare_lt_iff_lt.mpr hmn, compare_lt_iff_lt.mpr]
      exact mul_lt_mul_of_pos_right (by exact_mod_cast hmn) hpos
    · rw [compare_eq_iff_eq.mpr rfl, compare_eq_iff_eq.mpr rfl]
    · rw [compare_gt_iff_gt.mpr hnm, compare_gt_iff_gt.mpr]
      exact mul_lt_mul_of_pos_right (by exact_mod_cast hnm) hpos
  · rw [compare_gt_iff_gt.mpr hed, compare_gt_iff_gt.mpr (value_lt_of_lt hn.2 hm.1 hed)]
    rfl

/-- Floats in the ordinary range and zeros are compared as the numbers they stand for. -/
theorem Stands.compare {x y : Float} {p q : ℚ} (hx : Stands x p) (hy : Stands y q) :
    x.toModel.unpack.compare y.toModel.unpack = some (compare p q) := by
  obtain ⟨hx, hp⟩ := hx
  obtain ⟨hy, hq⟩ := hy
  rcases hp with rfl | hp
  · rw [unpack_of_zero hx]
    rcases hq with rfl | hq
    · rw [unpack_of_zero hy, compare_eq_iff_eq.mpr rfl]
      rfl
    · obtain ⟨n, e, hn, hyn, -⟩ := hy.unpack hq
      rw [hyn, compare_lt_iff_lt.mpr hq.pos]
      rfl
  · obtain ⟨m, d, hm, hxm, rfl, hmfull, -⟩ := hx.unpack hp
    rw [hxm]
    rcases hq with rfl | hq
    · rw [unpack_of_zero hy, compare_gt_iff_gt.mpr hp.pos]
      rfl
    · obtain ⟨n, e, hn, hyn, rfl, hnfull, -⟩ := hy.unpack hq
      rw [hyn, ← compare_parts hmfull hnfull]
      rfl

theorem Stands.lt_iff {x y : Float} {p q : ℚ} (hx : Stands x p) (hy : Stands y q) :
    x < y ↔ p < q := by
  have hmodel : x < y ↔
      (x.toModel.unpack.compare y.toModel.unpack == some .lt) = true :=
    ⟨of_decide_eq_true, decide_eq_true⟩
  rw [hmodel, hx.compare hy]
  simp [compare_lt_iff_lt]

theorem Stands.le_iff {x y : Float} {p q : ℚ} (hx : Stands x p) (hy : Stands y q) :
    x ≤ y ↔ p ≤ q := by
  have hmodel : x ≤ y ↔
      ((x.toModel.unpack.compare y.toModel.unpack).any (·.isLE)) = true :=
    ⟨of_decide_eq_true, decide_eq_true⟩
  rw [hmodel, hx.compare hy, Option.any_some, Ordering.isLE_iff_ne_gt]
  exact compare_le_iff_le

end Promptsmith.Decimal
