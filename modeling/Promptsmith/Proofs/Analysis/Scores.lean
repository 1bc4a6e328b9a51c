import Promptsmith.Analysis.Basic
import Promptsmith.Proofs.Decimal.Approximation

/-!
# Scores

The score of an archetype is a sum of products of floats. It is off from the exact sum by a few last
places only, and exact scores are multiples of three tenths. So where the exact scores of a text
that is not enormous differ, their order is that of the floats.
-/
namespace Promptsmith.Analysis

open Decimal

/-- What the multiplier of a category stands for. -/
def Category.share : Category → ℚ
  | .type => 3 / 2
  | .feature => 6 / 5
  | .tech => 4 / 5

/-- What the keywords of a group add to the score of their archetype. -/
def exactGroupScore (text : List Char) (g : KeywordGroup) : ℚ :=
  (g.keywords.map fun keyword => (g.weight : ℚ) * g.category.share * hits text keyword).sum

/-- The weighted hits of an archetype's keywords, added up exactly. -/
def exactScore (text : List Char) (a : Archetype) : ℚ :=
  ((keywordGroups a).map (exactGroupScore text)).sum

/-! ### Hits -/

theorem countFrom_le_length (joins : Char → Bool) (keyword : List Char) (s : List Char) :
    ∀ before skip, Text.countFrom joins keyword before skip s ≤ s.length := by
  induction s with
  | nil =>
    intro before skip
    cases skip <;> exact Nat.le_refl 0
  | cons c r ih =>
    intro before skip
    cases skip with
    | succ skip => exact le_trans (ih (some c) skip) (Nat.le_succ _)
    | zero =>
      rw [Text.countFrom]
      split
      · exact Nat.succ_le_succ (ih _ _)
      · exact le_trans (ih _ _) (Nat.le_succ _)

theorem hits_le_length (text : List Char) (keyword : String) : hits text keyword ≤ text.length :=
  countFrom_le_length _ _ _ _ _

/-! ### Groups -/

/-- A hit of the group is worth a number of three tenths, and fifteen at most. -/
structure KeywordGroup.Measured (g : KeywordGroup) : Prop where
  weight : 0 < g.weight ∧ g.weight ≤ 10
  tech : g.category = .tech → g.weight = 6

theorem measured_of_mem {a : Archetype} {g : KeywordGroup} (h : g ∈ keywordGroups a) :
    g.Measured := by
  have htable : ∀ g ∈ keywordGroups a,
      (0 < g.weight ∧ g.weight ≤ 10) ∧ (g.category = .tech → g.weight = 6) := by
    cases a <;> decide
  exact ⟨(htable g h).1, (htable g h).2⟩

theorem KeywordGroup.Measured.exists_units {g : KeywordGroup} (h : g.Measured) :
    ∃ u : Nat, 0 < u ∧ u ≤ 50 ∧ (g.weight : ℚ) * g.category.share = 3 / 10 * u := by
  obtain ⟨⟨hpos, hmax⟩, htech⟩ := h
  cases hcategory : g.category with
  | type =>
    refine ⟨5 * g.weight, by omega, by omega, ?_⟩
    push_cast [Category.share]
    ring
  | feature =>
    refine ⟨4 * g.weight, by omega, by omega, ?_⟩
    push_cast [Category.share]
    ring
  | tech =>
    refine ⟨16, by decide, by decide, ?_⟩
    rw [htech hcategory]
    norm_num [Category.share]

theorem Category.approximates_multiplier (c : Category) : Approximates 1 c.multiplier c.share := by
  cases c with
  | type =>
    refine approximates_of_parts (m := 6755399441055744) (e := -52) (by decide +kernel) ?_ ?_ <;>
      norm_num [Category.share, ulp]
  | feature =>
    refine approximates_of_parts (m := 5404319552844595) (e := -52) (by decide +kernel) ?_ ?_ <;>
      norm_num [Category.share, ulp]
  | tech =>
    refine approximates_of_parts (m := 7205759403792794) (e := -53) (by decide +kernel) ?_ ?_ <;>
      norm_num [Category.share, ulp]

/-! ### Sums -/

/-- The float and the number are the scores of `n` keywords in a text of the length. -/
structure Tally (length n : Nat) (x : Float) (q : ℚ) : Prop where
  near : Approximates (7 + n) x q
  units : ∃ u : Nat, q = 3 / 10 * u
  bound : q ≤ n * (15 * length)

section

variable {length n : Nat} {x : Float} {q : ℚ}

/-- A number of three tenths is zero or not small. -/
theorem moderate_of_units (h : ∃ u : Nat, q = 3 / 10 * u) (hq : q ≤ 2 ^ 50) :
    q = 0 ∨ Moderate q := by
  obtain ⟨u, rfl⟩ := h
  rcases Nat.eq_zero_or_pos u with rfl | hu
  · exact .inl (by norm_num)
  · have hcast : (1 : ℚ) ≤ u := by exact_mod_cast hu
    exact .inr ⟨by linarith, hq⟩

theorem Tally.nonneg (h : Tally length n x q) : 0 ≤ q := by
  obtain ⟨u, rfl⟩ := h.units
  positivity

theorem Tally.mono {m : Nat} (h : Tally length n x q) (hnm : n ≤ m) : Tally length m x q where
  near := h.near.mono h.nonneg (by omega)
  units := h.units
  bound := by
    have hcast : (n : ℚ) ≤ m := by exact_mod_cast hnm
    exact le_trans h.bound (mul_le_mul_of_nonneg_right hcast (by positivity))

theorem Tally.le_two_pow (h : Tally length n x q) (hlength : length ≤ 2 ^ 30) (hn : n ≤ 27) :
    q ≤ 2 ^ 39 := by
  have hn' : (n : ℚ) ≤ 27 := by exact_mod_cast hn
  have hlength' : (length : ℚ) ≤ 2 ^ 30 := by exact_mod_cast hlength
  calc q ≤ n * (15 * length) := h.bound
    _ ≤ 27 * (15 * 2 ^ 30) := by gcongr
    _ ≤ 2 ^ 39 := by norm_num

/-- What the hits of a keyword are worth. -/
theorem KeywordGroup.Measured.worth_bounds {g : KeywordGroup} {count : Nat} (hg : g.Measured)
    (hcount : 0 < count) (hcount' : count ≤ length) :
    1 / 4 ≤ (g.weight : ℚ) * g.category.share * count ∧
      (g.weight : ℚ) * g.category.share * count ≤ 15 * length := by
  obtain ⟨u, hu, hu', hworth⟩ := hg.exists_units
  have hu₁ : (1 : ℚ) ≤ u := by exact_mod_cast hu
  have hu₂ : (u : ℚ) ≤ 50 := by exact_mod_cast hu'
  have hc₁ : (1 : ℚ) ≤ count := by exact_mod_cast hcount
  have hc₂ : (count : ℚ) ≤ length := by exact_mod_cast hcount'
  rw [hworth]
  constructor
  · nlinarith
  · nlinarith

/-- Two numbers are made floats and a decimal fraction is, and there are two products. -/
theorem KeywordGroup.Measured.approximates {g : KeywordGroup} {count : Nat} (hg : g.Measured)
    (hcount : 0 < count) (hcount' : count ≤ length) (hlength : length ≤ 2 ^ 30) :
    Approximates 7 (Float.ofNat g.weight * g.category.multiplier * Float.ofNat count)
      (g.weight * g.category.share * count) := by
  have hlength' : (length : ℚ) ≤ 2 ^ 30 := by exact_mod_cast hlength
  have hw₁ : (1 : ℚ) ≤ g.weight := by exact_mod_cast hg.weight.1
  have hw₂ : (g.weight : ℚ) ≤ 10 := by exact_mod_cast hg.weight.2
  have hc₁ : (1 : ℚ) ≤ count := by exact_mod_cast hcount
  have hc₂ : (count : ℚ) ≤ length := by exact_mod_cast hcount'
  have hten := hg.weight.2
  have hweight : Approximates 2 (Float.ofNat g.weight) g.weight :=
    approximates_ofNat hg.weight.1 (by omega)
  have hhits : Approximates 2 (Float.ofNat count) count := approximates_ofNat hcount (by omega)
  have hshare : Moderate g.category.share := by
    cases g.category <;> constructor <;> norm_num [Category.share]
  have hone := hg.worth_bounds Nat.one_pos (le_refl 1)
  have hall := hg.worth_bounds hcount hcount'
  rw [Nat.cast_one, mul_one, mul_one] at hone
  have hworth : Moderate ((g.weight : ℚ) * g.category.share) := ⟨hone.1, by linarith⟩
  exact (hweight.mul g.category.approximates_multiplier (by decide) ⟨by linarith, by linarith⟩
    hshare hworth).mul hhits (by decide) hworth ⟨by linarith, by linarith⟩
    ⟨hall.1, by linarith⟩

/-- One more keyword is one more rounding. -/
theorem Tally.hit {g : KeywordGroup} {count : Nat} (h : Tally length n x q) (hg : g.Measured)
    (hlength : length ≤ 2 ^ 30) (hn : n < 27) (hcount : 0 < count) (hcount' : count ≤ length) :
    Tally length (n + 1) (x + Float.ofNat g.weight * g.category.multiplier * Float.ofNat count)
      (q + g.weight * g.category.share * count) := by
  have hlength' : (length : ℚ) ≤ 2 ^ 30 := by exact_mod_cast hlength
  have hterm := hg.approximates hcount hcount' hlength
  obtain ⟨hlow, hhigh⟩ := hg.worth_bounds hcount hcount'
  have hq := h.nonneg
  have hmax := h.le_two_pow hlength hn.le
  constructor
  case near =>
    exact h.near.add (hterm.mono (by linarith) (by omega)) (by omega)
      (moderate_of_units h.units (by linarith)) ⟨hlow, by linarith⟩ ⟨by linarith, by linarith⟩
  case units =>
    obtain ⟨u, -, -, hworth⟩ := hg.exists_units
    obtain ⟨v, rfl⟩ := h.units
    refine ⟨v + u * count, ?_⟩
    rw [hworth]
    push_cast
    ring
  case bound =>
    have := h.bound
    push_cast
    linarith

end

theorem denotes_zero : Denotes 0.0 0 :=
  ⟨0, -1074, by decide +kernel, by norm_num⟩

section

variable {text : List Char} {n : Nat} {x : Float} {q : ℚ}

theorem tally_keyword {g : KeywordGroup} (hg : g.Measured) (htext : text.length ≤ 2 ^ 30)
    (h : Tally text.length n x q) (hn : n < 27) (keyword : String) :
    Tally text.length (n + 1) (groupScore text x { g with keywords := [keyword] })
      (q + g.weight * g.category.share * hits text keyword) := by
  have hmax := hits_le_length text keyword
  dsimp only [groupScore, List.foldl_cons, List.foldl_nil]
  match hits text keyword, hmax with
  | 0, _ =>
    rw [Nat.cast_zero, mul_zero, add_zero]
    exact h.mono (Nat.le_succ n)
  | count + 1, hmax => exact h.hit hg htext hn (Nat.succ_pos count) hmax

theorem tally_keywords {g : KeywordGroup} (hg : g.Measured) (htext : text.length ≤ 2 ^ 30)
    (keywords : List String) (h : Tally text.length n x q) (hn : n + keywords.length ≤ 27) :
    Tally text.length (n + keywords.length) (groupScore text x { g with keywords })
      (q + exactGroupScore text { g with keywords }) := by
  induction keywords generalizing n x q with
  | nil => simpa [groupScore, exactGroupScore] using h
  | cons keyword keywords ih =>
    rw [List.length_cons] at hn ⊢
    have hrest := ih (tally_keyword hg htext h (by omega) keyword) (by omega)
    rwa [add_assoc, add_comm 1, add_assoc] at hrest

theorem tally_groups (htext : text.length ≤ 2 ^ 30) (gs : List KeywordGroup)
    (hgs : ∀ g ∈ gs, g.Measured) (h : Tally text.length n x q)
    (hn : n + (gs.map (·.keywords.length)).sum ≤ 27) :
    Tally text.length (n + (gs.map (·.keywords.length)).sum) (gs.foldl (groupScore text) x)
      (q + (gs.map (exactGroupScore text)).sum) := by
  induction gs generalizing n x q with
  | nil => simpa using h
  | cons g gs ih =>
    simp only [List.map_cons, List.sum_cons] at hn ⊢
    have hgroup := tally_keywords (hgs g List.mem_cons_self) htext g.keywords h (by omega)
    have hrest := ih (fun g hg => hgs g (List.mem_cons_of_mem _ hg)) hgroup (by omega)
    rwa [add_assoc, add_assoc] at hrest

theorem tally_score (htext : text.length ≤ 2 ^ 30) (a : Archetype) :
    Tally text.length 27 (score text a) (exactScore text a) := by
  have hstart : Tally text.length 0 0.0 0 :=
    ⟨denotes_zero.approximates.mono (le_refl 0) (by decide), ⟨0, by norm_num⟩, by norm_num⟩
  have hcount : ((keywordGroups a).map (·.keywords.length)).sum ≤ 27 := by
    cases a <;> decide
  have hgroups := tally_groups htext (keywordGroups a) (fun _ => measured_of_mem) hstart
    (by omega)
  rw [zero_add, zero_add] at hgroups
  exact hgroups.mono hcount

end

/-! ### Order -/

/-- The first float is less than the second one in all ways of comparing them. -/
structure Before (x y : Float) : Prop where
  lt : x < y
  le : x ≤ y
  not_lt : ¬y < x
  not_le : ¬y ≤ x

/-- The float is near a number of hundredths that is not enormous. -/
structure Gauged (x : Float) (q : ℚ) : Prop where
  near : Approximates 40 x q
  moderate : q = 0 ∨ Moderate q
  hundredths : ∃ i : Nat, q = i / 100
  bound : q ≤ 2 ^ 39

section

variable {x y : Float} {p q : ℚ}

theorem Gauged.nonneg (h : Gauged x q) : 0 ≤ q := by
  obtain ⟨i, rfl⟩ := h.hundredths
  positivity

theorem Gauged.exists_stands (h : Gauged x q) : ∃ v, Stands x v ∧ Near 40 v q :=
  h.near.exists_stands (by decide) h.moderate

theorem Gauged.apart (hx : Gauged x p) (hy : Gauged y q) (hpq : p < q) :
    q * (((40 : Nat) + (40 : Nat)) * ulp) < q - p := by
  have hgap : p + 1 / 100 ≤ q := by
    obtain ⟨i, rfl⟩ := hx.hundredths
    obtain ⟨j, rfl⟩ := hy.hundredths
    have hij : (i : ℚ) < j := by linarith
    have hij' : (i : ℚ) + 1 ≤ j := by exact_mod_cast hij
    linarith
  calc q * (((40 : Nat) + (40 : Nat)) * ulp) ≤ 2 ^ 39 * (((40 : Nat) + (40 : Nat)) * ulp) := by
        have := ulp_pos
        have := hy.bound
        gcongr
    _ < 1 / 100 := by norm_num [ulp]
    _ ≤ q - p := by linarith

/-- Exact numbers that differ are in the order of their floats. -/
theorem Gauged.before (hx : Gauged x p) (hy : Gauged y q) (hpq : p < q) : Before x y := by
  obtain ⟨v, hv, hvnear⟩ := hx.exists_stands
  obtain ⟨w, hw, hwnear⟩ := hy.exists_stands
  have hvw : v < w :=
    hvnear.lt_of_apart hwnear (lt_of_le_of_lt hx.nonneg hpq) (hx.apart hy hpq)
  constructor
  case lt => exact (hv.lt_iff hw).mpr hvw
  case le => exact (hv.le_iff hw).mpr hvw.le
  case not_lt => exact (hw.lt_iff hv).not.mpr (lt_asymm hvw)
  case not_le => exact (hw.le_iff hv).not.mpr (not_le_of_gt hvw)

end

theorem gauged_zero : Gauged 0.0 0 where
  near := denotes_zero.approximates.mono (le_refl 0) (by decide)
  moderate := .inl rfl
  hundredths := ⟨0, by norm_num⟩
  bound := by norm_num

theorem gauged_ten : Gauged 10.0 10 where
  near := by
    have hten : Denotes 10.0 10 := ⟨5629499534213120, -49, by decide +kernel, by norm_num⟩
    exact hten.approximates.mono (by norm_num) (by decide)
  moderate := .inr ⟨by norm_num, by norm_num⟩
  hundredths := ⟨1000, by norm_num⟩
  bound := by norm_num

section

variable {text : List Char}

theorem gauged_score (htext : text.length ≤ 2 ^ 30) (a : Archetype) :
    Gauged (score text a) (exactScore text a) := by
  have htally := tally_score htext a
  have hbound := htally.le_two_pow htext (le_refl 27)
  refine ⟨htally.near.mono htally.nonneg (by decide),
    moderate_of_units htally.units (by linarith), ?_, hbound⟩
  obtain ⟨u, hu⟩ := htally.units
  refine ⟨30 * u, ?_⟩
  rw [hu]
  push_cast
  ring

theorem gauged_share (htext : text.length ≤ 2 ^ 30) {a : Archetype}
    (ha : 10 ≤ exactScore text a) :
    Gauged (score text a * 0.9) (exactScore text a * (9 / 10)) := by
  have htally := tally_score htext a
  have hbound := htally.le_two_pow htext (le_refl 27)
  have hshare : Approximates 1 0.9 (9 / 10) := by
    refine approximates_of_parts (m := 8106479329266893) (e := -53) (by decide +kernel) ?_ ?_ <;>
      norm_num [ulp]
  have hmoderate : Moderate (exactScore text a * (9 / 10)) := ⟨by linarith, by linarith⟩
  have hnear := htally.near.mul hshare (by decide) ⟨by linarith, by linarith⟩
    ⟨by norm_num, by norm_num⟩ hmoderate
  refine ⟨hnear.mono hmoderate.pos.le (by decide), .inr hmoderate, ?_, by linarith⟩
  obtain ⟨u, hu⟩ := htally.units
  refine ⟨27 * u, ?_⟩
  rw [hu]
  push_cast
  ring

/-- No score is ten, so the threshold is never met exactly. -/
theorem exactScore_ne_ten (htext : text.length ≤ 2 ^ 30) (a : Archetype) :
    exactScore text a ≠ 10 := by
  obtain ⟨u, hu⟩ := (tally_score htext a).units
  intro hten
  rw [hten] at hu
  have hthirds : (100 : ℚ) = (3 * u : Nat) := by
    push_cast
    linarith
  have : 100 = 3 * u := by exact_mod_cast hthirds
  omega

end

end Promptsmith.Analysis
