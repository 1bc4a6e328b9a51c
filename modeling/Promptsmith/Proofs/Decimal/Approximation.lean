import Promptsmith.Proofs.Decimal.Rounding

/-!
# Approximation

A float that came out of `k` roundings stands for its exact number up to `k` last places of it. Two
of them are in the order of their exact numbers where these are further apart than that.
-/
namespace Promptsmith.Decimal

open Float.Model UnpackedFloat

/-- The number is within `k` roundings of the exact one. -/
structure Near (k : Nat) (v q : ℚ) : Prop where
  lower : q * (1 - ulp) ^ k ≤ v
  upper : v ≤ q * (1 + ulp) ^ k

/-- The float stands for a number within `k` roundings of the exact one. -/
def Approximates (k : Nat) (x : Float) (q : ℚ) : Prop :=
  ∃ v, Denotes x v ∧ Near k v q

/-- Numbers that stay in the ordinary range over a few roundings. -/
def Moderate (q : ℚ) : Prop :=
  1 / 4 ≤ q ∧ q ≤ 2 ^ 50

theorem ulp_pos : 0 < ulp := by
  unfold ulp
  positivity

theorem ulp_lt_one : ulp < 1 := by
  unfold ulp
  norm_num

theorem one_sub_ulp_pos : 0 < 1 - ulp :=
  sub_pos.mpr ulp_lt_one

theorem one_sub_le_pow (k : Nat) : 1 - k * ulp ≤ (1 - ulp) ^ k := by
  have hbernoulli := one_add_mul_le_pow (a := -ulp) (by linarith [ulp_lt_one]) k
  rwa [mul_neg, ← sub_eq_add_neg, ← sub_eq_add_neg] at hbernoulli

/-- A rounding up and one down do not reach the number again. -/
theorem pow_mul_pow_le_one (k : Nat) : (1 - ulp) ^ k * (1 + ulp) ^ k ≤ 1 := by
  have hsquare : (1 - ulp) * (1 + ulp) ≤ 1 := by nlinarith [ulp_pos]
  rw [← mul_pow]
  exact pow_le_one₀ (mul_nonneg one_sub_ulp_pos.le (by linarith [ulp_pos])) hsquare

theorem Moderate.pos {q : ℚ} (h : Moderate q) : 0 < q :=
  lt_of_lt_of_le (by norm_num) h.1

theorem one_add_ulp_pow_pos {k : Nat} : 0 < (1 + ulp) ^ k :=
  pow_pos (by linarith [ulp_pos]) k

section

variable {k l : Nat} {x y : Float} {p q v w : ℚ}

theorem Near.ordinary (h : Near k v q) (hq : Moderate q) (hk : k ≤ 64) : Ordinary v := by
  have hcast : (k : ℚ) ≤ 64 := by exact_mod_cast hk
  have hhalf : 1 / 2 ≤ (1 - ulp) ^ k := by
    refine le_trans ?_ (one_sub_le_pow k)
    unfold ulp
    linarith
  have htwo : (1 + ulp) ^ k ≤ 2 := by
    have hpos := @one_add_ulp_pow_pos k
    have := pow_mul_pow_le_one k
    nlinarith
  have hlow : (2 : ℚ) ^ (-1022 : ℤ) ≤ (2 : ℚ) ^ (-3 : ℤ) :=
    zpow_le_zpow_right₀ one_le_two (by decide)
  have hhigh : (2 : ℚ) ^ (52 : ℤ) ≤ (2 : ℚ) ^ (1021 : ℤ) :=
    zpow_le_zpow_right₀ one_le_two (by decide)
  constructor
  · refine le_trans hlow (le_trans ?_ h.lower)
    rw [show (2 : ℚ) ^ (-3 : ℤ) = 1 / 4 * (1 / 2) by norm_num]
    exact mul_le_mul hq.1 hhalf (by norm_num) hq.pos.le
  · refine lt_of_le_of_lt h.upper (lt_of_lt_of_le ?_ hhigh)
    calc q * (1 + ulp) ^ k ≤ 2 ^ 50 * 2 :=
          mul_le_mul hq.2 htwo one_add_ulp_pow_pos.le (by positivity)
      _ < (2 : ℚ) ^ (52 : ℤ) := by norm_num

theorem Near.mono (h : Near k v q) (hq : 0 ≤ q) (hkl : k ≤ l) : Near l v q where
  lower := le_trans (mul_le_mul_of_nonneg_left
    (pow_le_pow_of_le_one one_sub_ulp_pos.le (by linarith [ulp_pos]) hkl) hq) h.lower
  upper := le_trans h.upper (mul_le_mul_of_nonneg_left
    (pow_le_pow_right₀ (by linarith [ulp_pos]) hkl) hq)

theorem Near.nonneg (h : Near k v q) (hq : 0 ≤ q) : 0 ≤ v :=
  le_trans (mul_nonneg hq (pow_nonneg one_sub_ulp_pos.le k)) h.lower

theorem Near.mul (hv : Near k v p) (hw : Near l w q) (hp : 0 ≤ p) (hq : 0 ≤ q) :
    Near (k + l) (v * w) (p * q) where
  lower := by
    rw [pow_add, mul_mul_mul_comm]
    exact mul_le_mul hv.lower hw.lower (mul_nonneg hq (pow_nonneg one_sub_ulp_pos.le l))
      (hv.nonneg hp)
  upper := by
    rw [pow_add, mul_mul_mul_comm]
    exact mul_le_mul hv.upper hw.upper (hw.nonneg hq) (mul_nonneg hp one_add_ulp_pow_pos.le)

theorem Near.add (hv : Near k v p) (hw : Near k w q) : Near k (v + w) (p + q) where
  lower := by
    rw [add_mul]
    exact add_le_add hv.lower hw.lower
  upper := by
    rw [add_mul]
    exact add_le_add hv.upper hw.upper

/-- One more rounding. -/
theorem Near.succ (h : Near k v q) (hlow : v * (1 - ulp) ≤ w) (hhigh : w ≤ v * (1 + ulp)) :
    Near (k + 1) w q where
  lower := by
    refine le_trans ?_ hlow
    rw [pow_succ, ← mul_assoc]
    exact mul_le_mul_of_nonneg_right h.lower one_sub_ulp_pos.le
  upper := by
    refine le_trans hhigh ?_
    rw [pow_succ, ← mul_assoc]
    exact mul_le_mul_of_nonneg_right h.upper (by linarith [ulp_pos])

theorem Denotes.approximates (h : Denotes x q) : Approximates 0 x q :=
  ⟨q, h, by simp, by simp⟩

theorem Approximates.mono (h : Approximates k x q) (hq : 0 ≤ q) (hkl : k ≤ l) :
    Approximates l x q := by
  obtain ⟨v, hv, hnear⟩ := h
  exact ⟨v, hv, hnear.mono hq hkl⟩

theorem Approximates.mul (hx : Approximates k x p) (hy : Approximates l y q) (hkl : k + l ≤ 64)
    (hp : Moderate p) (hq : Moderate q) (hpq : Moderate (p * q)) :
    Approximates (k + l + 1) (x * y) (p * q) := by
  obtain ⟨v, hv, hvnear⟩ := hx
  obtain ⟨w, hw, hwnear⟩ := hy
  have hnear := hvnear.mul hwnear hp.pos.le hq.pos.le
  obtain ⟨r, hr, hlow, hhigh⟩ := hv.mul hw (hvnear.ordinary hp (by omega))
    (hwnear.ordinary hq (by omega)) (hnear.ordinary hpq hkl)
  exact ⟨r, hr, hnear.succ hlow hhigh⟩

theorem Near.eq_zero (h : Near k v 0) : v = 0 :=
  le_antisymm (by simpa using h.upper) (by simpa using h.lower)

theorem Approximates.add (hx : Approximates k x p) (hy : Approximates k y q) (hk : k ≤ 64)
    (hp : p = 0 ∨ Moderate p) (hq : Moderate q) (hpq : Moderate (p + q)) :
    Approximates (k + 1) (x + y) (p + q) := by
  obtain ⟨v, hv, hvnear⟩ := hx
  obtain ⟨w, hw, hwnear⟩ := hy
  have hword := hwnear.ordinary hq hk
  rcases hp with rfl | hp
  · obtain rfl := hvnear.eq_zero
    rw [zero_add]
    exact ⟨w, hv.zero_add hw hword, hwnear.mono hq.pos.le (Nat.le_succ k)⟩
  · have hnear := hvnear.add hwnear
    obtain ⟨r, hr, hlow, hhigh⟩ := hv.add hw (hvnear.ordinary hp hk) hword (hnear.ordinary hpq hk)
    exact ⟨r, hr, hnear.succ hlow hhigh⟩

/-- Exact numbers that are far enough apart keep their order. -/
theorem Near.lt_of_apart (hv : Near k v p) (hw : Near l w q)
    (hq : 0 < q) (hapart : q * ((k + l) * ulp) < q - p) : v < w := by
  have hdown := one_sub_le_pow (k + l)
  push_cast at hdown
  have hp : p < q * (1 - ulp) ^ (k + l) := by nlinarith
  calc v ≤ p * (1 + ulp) ^ k := hv.upper
    _ < q * (1 - ulp) ^ (k + l) * (1 + ulp) ^ k := mul_lt_mul_of_pos_right hp one_add_ulp_pow_pos
    _ = q * (1 - ulp) ^ l * ((1 - ulp) ^ k * (1 + ulp) ^ k) := by ring
    _ ≤ q * (1 - ulp) ^ l * 1 := mul_le_mul_of_nonneg_left (pow_mul_pow_le_one k)
      (mul_nonneg hq.le (pow_nonneg one_sub_ulp_pos.le l))
    _ = q * (1 - ulp) ^ l := mul_one _
    _ ≤ w := hw.lower

theorem Approximates.exists_stands (h : Approximates k x q) (hk : k ≤ 64)
    (hq : q = 0 ∨ Moderate q) : ∃ v, Stands x v ∧ Near k v q := by
  obtain ⟨v, hv, hnear⟩ := h
  refine ⟨v, ⟨hv, ?_⟩, hnear⟩
  rcases hq with rfl | hq
  · exact .inl hnear.eq_zero
  · exact .inr (hnear.ordinary hq hk)

end

/-! ### Numbers in a program -/

theorem denotes_one : Denotes (.ofBits 0x3FF0000000000000) 1 :=
  ⟨2 ^ 52, -52, by decide +kernel, by norm_num⟩

theorem toFloat_eq (n : UInt64) :
    n.toFloat =
      .ofModel (.pack (UnpackedFloat.normalize Format.binary64 n.toNat 0 .positive)) :=
  rfl

theorem approximates_toFloat {n : UInt64} (hn : Moderate n.toNat) :
    Approximates 1 n.toFloat n.toNat := by
  have hpos : 0 < n.toNat := by exact_mod_cast hn.pos
  have hordinary : Ordinary (n.toNat * (2 : ℚ) ^ (0 : Int)) := by
    have hnear : Near 0 (n.toNat : ℚ) n.toNat := ⟨by simp, by simp⟩
    simpa using hnear.ordinary hn (by decide)
  obtain ⟨k, f, hk, hrounded, hround⟩ := exists_round .positive hpos hordinary
  obtain ⟨r, hr, hlow, hhigh⟩ := hrounded.denotes hk
  have hcompare : compare (n.toNat : Int) 0 = .gt := compare_gt_iff_gt.mpr (by omega)
  rw [toFloat_eq, UnpackedFloat.normalize, hcompare]
  dsimp only
  rw [Int.toNat_natCast, hround]
  simp only [zpow_zero, mul_one] at hlow hhigh
  exact ⟨r, hr, by simpa using hlow, by simpa using hhigh⟩

/-- A natural number comes to a float by two roundings. -/
theorem approximates_ofNat {n : Nat} (hn : 0 < n) (hn' : n ≤ 2 ^ 50) :
    Approximates 2 (Float.ofNat n) n := by
  have hmoderate : Moderate (n : ℚ) := by
    have hlow : (1 : ℚ) ≤ n := by exact_mod_cast hn
    have hhigh : (n : ℚ) ≤ 2 ^ 50 := by exact_mod_cast hn'
    exact ⟨by linarith, hhigh⟩
  have hword : n.toUInt64.toNat = n := Nat.mod_eq_of_lt (by omega)
  have hscaled : Float.ofNat n = n.toUInt64.toFloat * .ofBits 0x3FF0000000000000 :=
    dif_pos ⟨by omega, by decide⟩
  have hone : Moderate 1 := ⟨by norm_num, by norm_num⟩
  have hfloat := approximates_toFloat (n := n.toUInt64) (by rwa [hword])
  rw [hword] at hfloat
  have hproduct := hfloat.mul denotes_one.approximates (by decide) hmoderate hone
    (by rwa [mul_one])
  rwa [← hscaled, mul_one] at hproduct

/-- A decimal fraction comes to the nearest float. -/
theorem approximates_of_parts {x : Float} {m : Nat} {e : Int} {q : ℚ}
    (h : Binary.ofFloat x = .finite false m e) (hlow : q * (1 - ulp) ≤ m * (2 : ℚ) ^ e)
    (hhigh : m * (2 : ℚ) ^ e ≤ q * (1 + ulp)) : Approximates 1 x q :=
  ⟨_, ⟨m, e, h, rfl⟩, by simpa using hlow, by simpa using hhigh⟩

end Promptsmith.Decimal
