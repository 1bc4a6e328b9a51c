import Mathlib
import Promptsmith.Proofs.Catalog.Weights
import Promptsmith.Proofs.Decimal.Order

/-!
# Weights stay within their bounds

A weight enters by the check of a variant's fields, by an assignment, which is checked too, or by
feedback. Feedback brings any weight to a whole number of tenths within the bounds, so its
assignments pass the check.
-/
namespace Promptsmith

open Decimal

/-- A weight that a variant may have. -/
def InBounds (x : Float) : Prop :=
  0.1 ≤ x ∧ x ≤ 2.0

instance (x : Float) : Decidable (InBounds x) :=
  inferInstanceAs (Decidable (_ ∧ _))

/-! ### Whole numbers of tenths -/

theorem inBounds_tenths {k : Nat} (hlow : 1 ≤ k) (hhigh : k ≤ 20) : InBounds (tenths k) := by
  have hall : ∀ k < 21, 1 ≤ k → InBounds (tenths k) := by decide +kernel
  exact hall k (Nat.lt_succ_of_le hhigh) hlow

/-- A float strictly between the bounds in parts: the exponent is negative, and in units of
`2 ^ -n` the mantissa lies between a tenth and two. -/
theorem exists_of_inside {x : Float} (hlow : 0.1 < x) (hhigh : x < 2.0) :
    ∃ (m n : Nat), Binary.ofFloat x = .finite false m (-n) ∧ 0 < n ∧
      twoTo n ≤ 10 * m ∧ m < 2 * twoTo n := by
  have htenth : Binary.ofFloat 0.1 = .finite false 7205759403792794 (-56) := by decide +kernel
  have htwo : Binary.ofFloat 2.0 = .finite false (twoTo 52) (-51) := by decide +kernel
  obtain ⟨m, e, hx, hl, hh⟩ := exists_of_between (by decide) (twoTo_pos 52) htenth htwo hlow hhigh
  obtain ⟨hlt, hle⟩ := Binary.mantissa_of_ofFloat hx
  simp only [twoTo, Nat.pow_eq, Nat.reducePow] at hlt hle hh
  obtain ⟨n, rfl⟩ : ∃ n : Nat, e = -n := ⟨(-e).toNat, by omega⟩
  have hn : 52 ≤ n ∧ n ≤ 56 := by omega
  refine ⟨m, n, hx, by omega, ?_⟩
  obtain rfl | rfl | rfl | rfl | rfl : n = 52 ∨ n = 53 ∨ n = 54 ∨ n = 55 ∨ n = 56 := by omega
  all_goals
    simp only [twoTo, Nat.pow_eq, Nat.reducePow]
    omega

/-- Rounding stays within the bounds, which are tenths themselves. -/
theorem exists_tenths_of_inside {x : Float} (hlow : 0.1 < x) (hhigh : x < 2.0) :
    ∃ k, 1 ≤ k ∧ k ≤ 20 ∧ roundToTenth x = tenths k := by
  obtain ⟨m, n, hx, hn, hl, hh⟩ := exists_of_inside hlow hhigh
  have hratio : Ratio.ofBinary m (-n) = ⟨m, twoTo n⟩ := by
    have hneg : ¬ (0 : Int) ≤ -n := by omega
    rw [Ratio.ofBinary, if_neg hneg, neg_neg, Int.toNat_natCast]
  have hpos := twoTo_pos n
  obtain ⟨habove, hbelow⟩ := @roundHalfEven_near (m * 10) (twoTo n) hpos
  refine ⟨roundHalfEven (m * 10) (twoTo n), ?_, ?_, ?_⟩
  · by_contra hzero
    have hk : roundHalfEven (m * 10) (twoTo n) = 0 := by omega
    rw [hk] at hbelow
    omega
  · by_contra hbig
    have hk : 21 * twoTo n ≤ roundHalfEven (m * 10) (twoTo n) * twoTo n :=
      Nat.mul_le_mul_right _ (by omega)
    omega
  · rw [roundToTenth, hx]
    simp only [hratio, Ratio.round]
    rfl

/-- Whatever a weight was, feedback makes it a whole number of tenths within the bounds. -/
theorem Nudge.exists_tenths (n : Nudge) (weight : Float) :
    ∃ k, 1 ≤ k ∧ k ≤ 20 ∧ n.apply weight = tenths k := by
  have hends : roundToTenth Variant.minWeight = tenths 1 ∧
      roundToTenth Variant.maxWeight = tenths 20 := by decide +kernel
  have hlt : Variant.minWeight < Variant.maxWeight := by decide +kernel
  rw [Nudge.apply]
  generalize weight + n.delta = x
  unfold clampWeight
  by_cases hhigh : x < Variant.maxWeight
  · by_cases hlow : Variant.minWeight < x
    · simp only [if_pos hhigh, if_pos hlow]
      exact exists_tenths_of_inside hlow hhigh
    · simp only [if_pos hhigh, if_neg hlow]
      exact ⟨1, by decide, by decide, hends.1⟩
  · simp only [if_neg hhigh, if_pos hlt]
    exact ⟨20, by decide, by decide, hends.2⟩

theorem Nudge.inBounds (n : Nudge) (weight : Float) : InBounds (n.apply weight) := by
  obtain ⟨k, hlow, hhigh, hk⟩ := n.exists_tenths weight
  rw [hk]
  exact inBounds_tenths hlow hhigh

/-! ### Checked weights -/

theorem floatWithin_eq_valid_iff {low high x y : Float} :
    Check.floatWithin low high x = .valid y ↔ x = y ∧ low ≤ x ∧ x ≤ high := by
  unfold Check.floatWithin Checked.fail
  by_cases hhigh : x ≤ high <;> by_cases hlow : low ≤ x <;> simp [hhigh, hlow]

theorem inBounds_of_checkWeight {v : Value} {x : Float} (h : Variant.checkWeight v = .valid x) :
    InBounds x := by
  unfold Variant.checkWeight Checked.andThen at h
  split at h
  · obtain ⟨rfl, hbounds⟩ := floatWithin_eq_valid_iff.mp h
    exact hbounds
  · cases h

theorem Fields.inBounds_of_optional {fs : Fields} {x : Float}
    (h : fs.optional "weight" 1.0 Variant.checkWeight = .valid x) : InBounds x := by
  unfold Fields.optional at h
  split at h
  · exact inBounds_of_checkWeight (Checked.under_eq_valid.mp h)
  · cases h
    decide +kernel

theorem Variant.inBounds_of_check {fs : Fields} {v : Variant} (h : Variant.check fs = .valid v) :
    InBounds v.weight := by
  simp only [Variant.check, Checked.seq_eq_valid, Checked.map_eq_valid] at h
  obtain ⟨_, weight, ⟨_, _, ⟨_, _, ⟨_, _, ⟨_, _, ⟨_, _, ⟨_, -, rfl⟩, -, rfl⟩, -, rfl⟩, -, rfl⟩, -,
    rfl⟩, -, rfl⟩, hweight, rfl⟩ := h
  exact Fields.inBounds_of_optional hweight

theorem Variant.exists_check_of_makeRecord {value : Value} {v : Variant}
    (h : value.makeRecord "TemplateVariant" Variant.check = .ok v) :
    ∃ fs, Variant.check fs = .valid v := by
  unfold Value.makeRecord at h
  split at h
  · next fs =>
    refine ⟨fs, ?_⟩
    cases hcheck : Variant.check fs with
    | valid w =>
      rw [hcheck] at h
      cases h
      rfl
    | invalid ps =>
      rw [hcheck] at h
      cases h
  · cases h

/-! ### Catalogs -/

namespace Catalog

/-- Every variant has a weight that it may have. -/
def Bounded (c : Catalog) : Prop :=
  ∀ v ∈ c.objects, InBounds v.weight

instance (c : Catalog) : Decidable c.Bounded :=
  inferInstanceAs (Decidable (∀ v ∈ c.objects, InBounds v.weight))

theorem mem_objects_of_mem_pick {c : Catalog} {is : List Nat} {v : Variant} (h : v ∈ c.pick is) :
    v ∈ c.objects := by
  obtain ⟨i, -, hv⟩ := List.mem_filterMap.mp h
  exact List.mem_of_getElem? hv

/-- What a change keeps of each variant, changes place by place keep of all. -/
theorem forall_mapPlaces {P : Variant → Prop} {g : Variant → Variant} (hg : ∀ v, P v → P (g v))
    {c : Catalog} (h : ∀ v ∈ c.objects, P v) : ∀ v ∈ (c.mapPlaces g).objects, P v := by
  intro w hw
  obtain ⟨j, hj⟩ := List.mem_iff_getElem?.mp hw
  rw [mapPlaces, getElem?_foldl_modify] at hj
  obtain ⟨v, hv, rfl⟩ := Option.map_eq_some_iff.mp hj
  exact Function.Iterate.rec P (h v (List.mem_of_getElem? hv)) hg _

theorem Bounded.share {c : Catalog} (h : c.Bounded) (archetype : String) (i : Nat) :
    (c.share archetype i).Bounded := by
  rwa [Bounded, objects_share]

theorem Bounded.register {c : Catalog} (h : c.Bounded) (archetype : String) {v : Variant}
    (hv : InBounds v.weight) : (c.register archetype v).Bounded := by
  intro w hw
  rw [objects_register] at hw
  rcases List.mem_append.mp hw with hw | hw
  · exact h w hw
  · rwa [List.mem_singleton.mp hw]

theorem Bounded.reweigh {c : Catalog} (h : c.Bounded) (id : String) {f : Float → Float}
    (hf : ∀ x, InBounds (f x)) : (c.reweigh id f).Bounded := by
  refine forall_mapPlaces ?_ h
  intro v hv
  split
  · exact hf v.weight
  · exact hv

theorem Bounded.learn {c : Catalog} (h : c.Bounded) (fs : List Feedback) :
    (c.learn fs).Bounded := by
  induction fs generalizing c with
  | nil => exact h
  | cons f fs ih =>
    refine ih ?_
    unfold learnOne
    split
    · next n _ => exact h.reweigh f.variantId n.inBounds
    · exact h

theorem Bounded.setWeight {c d : Catalog} (h : c.Bounded) {id : String} {weight : Value}
    (hd : c.setWeight id weight = .ok d) : d.Bounded := by
  unfold Catalog.setWeight at hd
  split at hd
  · split at hd
    · next x hx =>
      cases hd
      have hbounds := inBounds_of_checkWeight (Checked.under_eq_valid.mp hx)
      exact h.reweigh id fun _ => hbounds
    · cases hd
  · cases hd
    exact h

theorem Bounded.registerAll {c d : Catalog} (h : c.Bounded) {archetype : String}
    {vs : List Value} (hd : c.registerAll archetype vs = .ok d) : d.Bounded := by
  induction vs generalizing c with
  | nil =>
    cases hd
    exact h
  | cons v vs ih =>
    rw [Catalog.registerAll] at hd
    split at hd
    · next variant hv =>
      obtain ⟨fs, hcheck⟩ := Variant.exists_check_of_makeRecord hv
      exact ih (h.register archetype (Variant.inBounds_of_check hcheck)) hd
    · cases hd

theorem Bounded.ofFields {c d : Catalog} (h : c.Bounded) {fs : Fields}
    (hd : c.ofFields fs = .ok d) : d.Bounded := by
  induction fs generalizing c with
  | nil =>
    cases hd
    exact h
  | cons e fs ih =>
    obtain ⟨archetype, v⟩ := e
    rw [Catalog.ofFields] at hd
    split at hd
    · cases hd
    · split at hd
      · cases hd
      · next hc => exact ih (h.registerAll hc) hd

end Catalog

/-! ### Checked assignments -/

/-- Gives a variant a weight, which is checked. -/
def Variant.assign (v : Variant) (weight : Float) : Except Failure Variant :=
  match (Variant.checkWeight (.float weight)).under "weight" with
  | .valid w => .ok { v with weight := w }
  | .invalid ps => .error (.invalid "TemplateVariant" ps)

namespace Catalog

end Catalog

end Promptsmith
