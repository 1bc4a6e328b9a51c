import Promptsmith.Proofs.Analysis.Scores

/-!
# The archetype of a text

The rule for the archetype compares exact scores. The scores compared are rounded, which tells only
where exact ones are equal: there the archetype is one that the rule would allow if equal scores
were ordered at will, and not always the one that it names.
-/
namespace Promptsmith.Analysis

open Decimal

/-- The best exact score. -/
def topScore (text : List Char) : ℚ :=
  ((Vocabulary.all : List Archetype).map (exactScore text)).foldl max 0

/-- The archetype that the rule names: of those with the best score the first one in the order of
the catalog, unless an online store has nine tenths of it or nothing has a score of ten. -/
def ruling (text : List Char) : Archetype :=
  if topScore text < 10 then fallback text
  else if 9 / 10 * topScore text ≤ exactScore text .ecommerce then .ecommerce
  else
    ((Vocabulary.all : List Archetype).find? fun a => exactScore text a = topScore text).getD .blog

/-- The archetypes that the rule could name if equal scores were ordered at will. -/
inductive Contends (text : List Char) : Archetype → Prop
  | fallback (h : topScore text < 10) : Contends text (fallback text)
  | store (h : 10 ≤ topScore text)
      (hstore : 9 / 10 * topScore text ≤ exactScore text .ecommerce) : Contends text .ecommerce
  | best {a : Archetype} (h : 10 ≤ topScore text) (ha : exactScore text a = topScore text)
      (hstore : exactScore text .ecommerce ≤ 9 / 10 * topScore text) : Contends text a

/-- Equal scores have to be told apart: an online store has exactly nine tenths of the best score,
or it has less and the best score is that of two archetypes. -/
inductive Tied (text : List Char) : Prop
  | share (h : 10 ≤ topScore text)
      (hstore : exactScore text .ecommerce = 9 / 10 * topScore text) : Tied text
  | best {a b : Archetype} (h : 10 ≤ topScore text) (hab : a ≠ b)
      (ha : exactScore text a = topScore text) (hb : exactScore text b = topScore text)
      (hstore : exactScore text .ecommerce < 9 / 10 * topScore text) : Tied text

/-! ### The best measure -/

section

variable {α β : Type} [LinearOrder β] {R : α → β → Prop} {exceeds : α → α → Bool}
  {measure : Archetype → α}

/-- The best is no less than any measure, and it is the start or the measure where it was found.
Measures are compared as values are that they stand for. -/
theorem foldl_best (hexceeds : ∀ x v y w, R x v → R y w → (exceeds x y ↔ w < v))
    (hmeasure : ∀ a, ∃ v, R (measure a) v) (as : List Archetype) {start : Archetype × α}
    (hstart : ∃ v, R start.2 v) :
    let found := as.foldl (fun found a =>
      if exceeds (measure a) found.2 then (a, measure a) else found) start
    (∃ v, R found.2 v ∧ (∀ w, R start.2 w → w ≤ v) ∧ ∀ a ∈ as, ∀ w, R (measure a) w → w ≤ v) ∧
      (found = start ∨ found.2 = measure found.1) := by
  induction as generalizing start with
  | nil =>
    obtain ⟨v, hv⟩ := hstart
    refine ⟨⟨v, hv, ?_, nofun⟩, .inl rfl⟩
    intro w hw
    exact not_lt.mp fun hvw => lt_irrefl w
      ((hexceeds _ _ _ _ hw hw).mp ((hexceeds _ _ _ _ hw hv).mpr hvw))
  | cons b bs ih =>
    obtain ⟨u, hu⟩ := hmeasure b
    by_cases hb : exceeds (measure b) start.2
    · obtain ⟨⟨v, hv, hle, hall⟩, hfound⟩ := @ih (b, measure b) ⟨u, hu⟩
      rw [List.foldl_cons, if_pos hb]
      refine ⟨⟨v, hv, ?_, ?_⟩, ?_⟩
      · intro w hw
        exact le_trans ((hexceeds _ _ _ _ hu hw).mp hb).le (hle u hu)
      · intro a ha w hw
        rcases List.mem_cons.mp ha with rfl | ha
        · exact hle w hw
        · exact hall a ha w hw
      · rcases hfound with hfound | hfound
        · exact .inr (by rw [hfound])
        · exact .inr hfound
    · obtain ⟨⟨v, hv, hle, hall⟩, hfound⟩ := ih hstart
      rw [List.foldl_cons, if_neg hb]
      refine ⟨⟨v, hv, hle, ?_⟩, hfound⟩
      intro a ha w hw
      rcases List.mem_cons.mp ha with rfl | ha
      · obtain ⟨s, hs⟩ := hstart
        exact le_trans (not_lt.mp ((hexceeds _ _ _ _ hw hs).not.mp hb)) (hle s hs)
      · exact hall a ha w hw

/-- Nothing exceeds the best. -/
theorem best_spec (hexceeds : ∀ x v y w, R x v → R y w → (exceeds x y ↔ w < v))
    (hmeasure : ∀ a, ∃ v, R (measure a) v) {start : Archetype × α} (hstart : ∃ v, R start.2 v) :
    let found := best exceeds measure start
    (∀ a, ¬exceeds (measure a) found.2) ∧ (found = start ∨ found.2 = measure found.1) := by
  obtain ⟨⟨v, hv, -, hall⟩, hfound⟩ := foldl_best hexceeds hmeasure Vocabulary.all hstart
  refine ⟨fun a => ?_, hfound⟩
  obtain ⟨w, hw⟩ := hmeasure a
  exact (hexceeds _ _ _ _ hw hv).not.mpr (not_lt.mpr (hall a (Vocabulary.mem_all a) w hw))

end

/-! ### The best score -/

section

variable {text : List Char}

/-- The archetype with the best score, before the rules. -/
def leader (text : List Char) : Archetype × Float :=
  best (fun x y => decide (y < x)) (score text) (.blog, 0.0)

theorem leader_spec (htext : text.length ≤ 2 ^ 30) :
    (∀ a, ¬(leader text).2 < score text a) ∧
      (leader text = (.blog, 0.0) ∨ (leader text).2 = score text (leader text).1) := by
  have hexceeds : ∀ x v y w, Stands x v → Stands y w → (decide (y < x) ↔ w < v) := by
    intro x v y w hx hy
    rw [decide_eq_true_iff, hy.lt_iff hx]
  have hstands {x : Float} {q : ℚ} (h : Gauged x q) : ∃ v, Stands x v :=
    h.exists_stands.imp fun _ hv => hv.1
  have hstart : ∃ v, Stands (Archetype.blog, (0.0 : Float)).2 v := hstands gauged_zero
  have hbest := best_spec hexceeds (fun a => hstands (gauged_score htext a)) hstart
  exact ⟨fun a ha => hbest.1 a (decide_eq_true ha), hbest.2⟩

/-- No archetype has a greater score than one that the scoring leads to. -/
theorem exactScore_le_of_leader (htext : text.length ≤ 2 ^ 30) {a : Archetype}
    (ha : ∀ b, ¬score text a < score text b) (b : Archetype) :
    exactScore text b ≤ exactScore text a :=
  not_lt.mp fun hlt => ha b ((gauged_score htext a).before (gauged_score htext b) hlt).lt

theorem foldl_max_le_iff {q : ℚ} (qs : List ℚ) (start : ℚ) :
    qs.foldl max start ≤ q ↔ start ≤ q ∧ ∀ p ∈ qs, p ≤ q := by
  induction qs generalizing start with
  | nil => simp
  | cons p ps ih => rw [List.foldl_cons, ih, max_le_iff, List.forall_mem_cons, and_assoc]

theorem topScore_le_iff {q : ℚ} :
    topScore text ≤ q ↔ 0 ≤ q ∧ ∀ a, exactScore text a ≤ q := by
  rw [topScore, foldl_max_le_iff, List.forall_mem_map]
  exact and_congr_right fun _ => ⟨fun h a => h a (Vocabulary.mem_all a), fun h a _ => h a⟩

theorem topScore_eq (htext : text.length ≤ 2 ^ 30) {a : Archetype}
    (ha : ∀ b, exactScore text b ≤ exactScore text a) : topScore text = exactScore text a := by
  refine le_antisymm (topScore_le_iff.mpr ⟨(gauged_score htext a).nonneg, ha⟩) ?_
  exact (topScore_le_iff.mp (le_refl (topScore text))).2 a

/-- Nothing was found in the text at all. -/
theorem topScore_of_leader (htext : text.length ≤ 2 ^ 30) (h : ∀ a, ¬(0.0 : Float) < score text a) :
    topScore text = 0 := by
  refine le_antisymm (topScore_le_iff.mpr ⟨le_refl 0, ?_⟩)
    (topScore_le_iff.mp (le_refl (topScore text))).1
  intro a
  exact not_lt.mp fun hlt => h a (gauged_zero.before (gauged_score htext a) hlt).lt

end

/-! ### The ruling -/

section

variable {text : List Char} {a : Archetype}

theorem identify_eq (h : isHinted text = false) :
    identify text =
      if (leader text).2 < 10.0 then fallback text
      else if (leader text).1 ≠ .ecommerce ∧ (leader text).2 * 0.9 ≤ score text .ecommerce then
        .ecommerce
      else (leader text).1 := by
  rw [identify, h]
  rfl

/-- The best of a text that has no ties is the first one with the best score. -/
theorem ruling_eq_of_not_tied (h : 10 ≤ topScore text) (ha : exactScore text a = topScore text)
    (hstore : exactScore text .ecommerce < 9 / 10 * topScore text) (hties : ¬Tied text) :
    ruling text = a := by
  have hunique (b : Archetype) (hb : exactScore text b = topScore text) : b = a := by
    by_contra hne
    exact hties (.best h hne hb ha hstore)
  rw [ruling, if_neg (not_lt.mpr h), if_neg (not_le.mpr hstore)]
  cases hfind : (Vocabulary.all : List Archetype).find?
      fun b => exactScore text b = topScore text with
  | none =>
    have hall := List.find?_eq_none.mp hfind a (Vocabulary.mem_all a)
    simp [ha] at hall
  | some b =>
    have hb := List.find?_some hfind
    exact hunique b (by simpa using hb)

/-- How the archetype comes out where the scoring leads to one. -/
theorem identify_of_leader (htext : text.length ≤ 2 ^ 30) (hhint : isHinted text = false)
    (hfound : (leader text).2 = score text (leader text).1)
    (hall : ∀ b, ¬(leader text).2 < score text b) :
    Contends text (identify text) ∧ (¬Tied text → identify text = ruling text) := by
  rw [identify_eq hhint, hfound]
  rw [hfound] at hall
  generalize (leader text).1 = a at hall
  have htop := topScore_eq htext (exactScore_le_of_leader htext hall)
  by_cases hten : topScore text < 10
  · have hlow := ((gauged_score htext a).before gauged_ten (htop ▸ hten)).lt
    rw [if_pos hlow, ruling, if_pos hten]
    exact ⟨.fallback hten, fun _ => rfl⟩
  have hten' := not_lt.mp hten
  have hhigh : 10 < exactScore text a :=
    lt_of_le_of_ne (htop ▸ hten') (exactScore_ne_ten htext a).symm
  have hshare : exactScore text a * (9 / 10) = 9 / 10 * topScore text := by rw [htop, mul_comm]
  have hgauged := gauged_share htext hhigh.le
  have hstore := gauged_score htext .ecommerce
  rw [hshare] at hgauged
  rw [if_neg (gauged_ten.before (gauged_score htext a) hhigh).not_lt]
  rcases lt_trichotomy (exactScore text .ecommerce) (9 / 10 * topScore text) with hlt | heq | hgt
  · rw [if_neg fun h => (hstore.before hgauged hlt).not_le h.2]
    exact ⟨.best hten' htop.symm hlt.le,
      fun hties => (ruling_eq_of_not_tied hten' htop.symm hlt hties).symm⟩
  · refine ⟨?_, fun hties => absurd (.share hten' heq) hties⟩
    split
    · exact .store hten' heq.ge
    · exact .best hten' htop.symm heq.le
  · have hwins : (if a ≠ .ecommerce ∧ score text a * 0.9 ≤ score text .ecommerce then .ecommerce
        else a) = Archetype.ecommerce := by
      split
      · rfl
      · next h => exact by_contra fun ha => h ⟨ha, (hgauged.before hstore hgt).le⟩
    rw [hwins, ruling, if_neg hten, if_pos hgt.le]
    exact ⟨.store hten' hgt.le, fun _ => rfl⟩

end

/-- A text without a hint is identified as the rule has it on exact scores, where the rule does not
have to tell equal scores apart; where it does, it is one of those that are equal. -/
theorem identify_contends {text : List Char} (htext : text.length ≤ 2 ^ 30)
    (hhint : isHinted text = false) :
    Contends text (identify text) ∧ (¬Tied text → identify text = ruling text) := by
  obtain ⟨hall, hfound | hfound⟩ := leader_spec htext
  · have htop : topScore text < 10 := by
      rw [hfound] at hall
      rw [topScore_of_leader htext hall]
      norm_num
    have hlow : (leader text).2 < 10.0 := by
      rw [hfound]
      exact (gauged_zero.before gauged_ten (by norm_num)).lt
    rw [identify_eq hhint, if_pos hlow, ruling, if_pos htop]
    exact ⟨.fallback htop, fun _ => rfl⟩
  · exact identify_of_leader htext hhint hfound hall

theorem identify_contends_admin :
    let text := "admin role".toList
    text.length ≤ 2 ^ 30 ∧ isHinted text = false ∧ ¬Tied text ∧
      Contends text (identify text) ∧ identify text = .dashboard := by
  intro text
  have hlength : text.length ≤ 2 ^ 30 := by decide +kernel
  have hhint : isHinted text = false := by decide +kernel
  obtain ⟨hecommerce, hsaas, hblog, hportfolio, hdashboard⟩ :
      exactScore text .ecommerce = 0 ∧ exactScore text .saas = 48 / 5 ∧
        exactScore text .blog = 0 ∧ exactScore text .portfolio = 0 ∧
        exactScore text .dashboard = 15 := by decide +kernel
  have htop : topScore text = 15 := by
    rw [← hdashboard]
    refine topScore_eq hlength fun b => ?_
    cases b <;> norm_num [*]
  have hbest (a : Archetype) (ha : exactScore text a = topScore text) : a = .dashboard := by
    rw [htop] at ha
    cases a with
    | dashboard => rfl
    | _ => norm_num [*] at ha
  have hstore : exactScore text .ecommerce < 9 / 10 * topScore text := by
    rw [hecommerce, htop]
    norm_num
  have hties : ¬Tied text := by
    rintro (⟨-, heq⟩ | ⟨-, hab, ha, hb, -⟩)
    · exact hstore.ne heq
    · exact hab ((hbest _ ha).trans (hbest _ hb).symm)
  have hruling : ruling text = .dashboard :=
    ruling_eq_of_not_tied (by rw [htop]; norm_num) (by rw [htop, hdashboard]) hstore hties
  obtain ⟨hcontends, hagrees⟩ := identify_contends hlength hhint
  exact ⟨hlength, hhint, hties, hcontends, (hagrees hties).trans hruling⟩

/-- Four hits of one kind and two of another come to the same score, and the first archetype in the
catalog with it is not the one that is found. -/
theorem identify_ne_ruling :
    let text := "d3 d3 d3 d3 seo seo".toList
    isHinted text = false ∧ exactScore text .blog = exactScore text .dashboard ∧
      ruling text = .blog ∧ identify text = .dashboard := by
  decide +kernel

end Promptsmith.Analysis
