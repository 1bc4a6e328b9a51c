import Mathlib
import Promptsmith.Analysis.Basic

/-!
# Merged features and technologies

What a description tells is merged with what the caller knows already, each item where it first
occurs. So the lists of an intent are free of repetitions, what they lack is what is suggested, and
an intent that is read again with its own lists comes out the same.
-/
namespace Promptsmith.Analysis

variable {first second : List String}

/-! ### Merging -/

/-- The list goes on with the items that it lacks, each where it first occurs. -/
theorem mergeBy_eq_append (into more : List String) :
    mergeBy (· == ·) into more = into ++ (more.filter (· ∉ into)).eraseDups := by
  induction more generalizing into with
  | nil => exact (List.append_nil into).symm
  | cons x more ih =>
    by_cases hx : x ∈ into
    · have hstep : mergeBy (· == ·) into (x :: more) = mergeBy (· == ·) into more := by
        simp [mergeBy, hx]
      rw [hstep, ih, List.filter_cons_of_neg (by simp [hx])]
    · have hstep : mergeBy (· == ·) into (x :: more) = mergeBy (· == ·) (into ++ [x]) more := by
        simp [mergeBy, hx]
      have hrest : more.filter (· ∉ into ++ [x]) =
          (more.filter (· ∉ into)).filter fun y => !y == x := by
        rw [List.filter_filter]
        refine List.filter_congr ?_
        intro y _
        by_cases hyx : y = x <;> by_cases hy : y ∈ into <;> simp [hyx, hy]
      rw [hstep, ih, List.filter_cons_of_pos (by simp [hx]), List.eraseDups_cons, hrest,
        List.append_assoc, List.singleton_append]

theorem nodup_mergeBy {into : List String} (h : into.Nodup) (more : List String) :
    (mergeBy (· == ·) into more).Nodup := by
  induction more generalizing into with
  | nil => exact h
  | cons x more ih =>
    refine ih ?_
    dsimp only
    split
    · exact h
    · next hx =>
      refine List.nodup_append.mpr ⟨h, List.nodup_singleton x, ?_⟩
      rintro y hy z hz rfl
      rw [List.mem_singleton] at hz
      subst hz
      exact hx (List.any_eq_true.mpr ⟨y, hy, beq_self_eq_true y⟩)

theorem mergeBy_nil (items : List String) : mergeBy (· == ·) [] items = items.eraseDups := by
  simp [mergeBy_eq_append]

theorem eraseDups_of_nodup {items : List String} (h : items.Nodup) : items.eraseDups = items := by
  induction items with
  | nil => rfl
  | cons x items ih =>
    obtain ⟨hx, hitems⟩ := List.nodup_cons.mp h
    have hrest : (items.filter fun y => !y == x) = items := by
      refine List.filter_eq_self.mpr ?_
      intro y hy
      have hne : y ≠ x := by
        rintro rfl
        exact hx hy
      simp [hne]
    rw [List.eraseDups_cons, hrest, ih hitems]

theorem merge_eq_append (first second : List String) :
    merge first second = first.eraseDups ++ (second.filter (· ∉ first)).eraseDups := by
  unfold merge
  rw [mergeBy_nil, mergeBy_eq_append]
  simp only [List.mem_eraseDups]

theorem nodup_merge (first second : List String) : (merge first second).Nodup :=
  nodup_mergeBy (nodup_mergeBy List.nodup_nil first) second

theorem mem_merge_iff {x : String} : x ∈ merge first second ↔ x ∈ first ∨ x ∈ second := by
  rw [merge_eq_append, List.mem_append, List.mem_eraseDups, List.mem_eraseDups, List.mem_filter]
  by_cases hx : x ∈ first <;> simp [hx]

/-- A list that has all items already takes none. -/
theorem merge_of_subset (hfirst : first.Nodup) (hsecond : ∀ x ∈ second, x ∈ first) :
    merge first second = first := by
  have hnone : second.filter (· ∉ first) = [] := by simpa using hsecond
  rw [merge_eq_append, hnone, eraseDups_of_nodup hfirst, List.eraseDups_nil, List.append_nil]

theorem merge_of_nodup (hfirst : first.Nodup) (hsecond : second.Nodup) :
    merge first second = first ++ second.filter (· ∉ first) := by
  rw [merge_eq_append, eraseDups_of_nodup hfirst, eraseDups_of_nodup (hsecond.filter _)]

/-- Merging into the same list again adds nothing. -/
theorem merge_merge (hfirst : first.Nodup) :
    merge first (merge first second) = merge first second := by
  rw [merge_of_nodup hfirst (nodup_merge first second), merge_eq_append first second,
    eraseDups_of_nodup hfirst, List.filter_append]
  have hold : first.filter (· ∉ first) = [] := by simp
  have hnew : (second.filter (· ∉ first)).eraseDups.filter (· ∉ first) =
      (second.filter (· ∉ first)).eraseDups := by
    refine List.filter_eq_self.mpr ?_
    intro x hx
    exact (List.mem_filter.mp (List.mem_eraseDups.mp hx)).2
  rw [hold, hnew, List.nil_append]

/-! ### Tables -/

/-- What is found in a text stands in the order of the table. -/
theorem found_sublist (table : List (String × List String)) (text : List Char) :
    (found table text).Sublist (table.map (·.1)) :=
  List.filter_sublist.map _

theorem nodup_featuresIn (text : List Char) : (featuresIn text).Nodup :=
  (found_sublist featureKeywords text).nodup (by decide +kernel)

theorem nodup_technologiesIn (text : List Char) : (technologiesIn text).Nodup :=
  (found_sublist techKeywords text).nodup (by decide +kernel)

theorem nodup_recommendedFeatures (a : Option Archetype) : (recommendedFeatures a).Nodup := by
  match a with
  | none => decide +kernel
  | some a => cases a <;> decide +kernel

def suggestion (feature : String) : String :=
  "Consider adding '" ++ feature ++ "'"

theorem suggestion_injective : Function.Injective suggestion := by
  intro f g h
  exact (String.append_right_inj _).mp ((String.append_left_inj _).mp h)

/-! ### Intents -/

variable {description : String} {known knownTech : List String}

/-- The feature of user accounts, if it comes by default and is not among some features. -/
def authAfter (a : Archetype) (features : List String) : List String :=
  if authByDefault a ∧ "auth" ∉ features then ["auth"] else []

theorem features_analyze (description : String) (known knownTech : List String) :
    let text := Text.lower description.toList
    let merged := merge known (featuresIn text)
    (analyze description known knownTech).features =
      merged ++ authAfter (identify text) merged := by
  dsimp only [analyze, authAfter]
  split
  · rfl
  · exact (List.append_nil _).symm

theorem mem_authAfter_iff {a : Archetype} {features : List String} :
    "auth" ∈ authAfter a features ↔ authByDefault a ∧ "auth" ∉ features := by
  unfold authAfter
  split
  · next h => exact iff_of_true List.mem_cons_self h
  · next h => exact iff_of_false List.not_mem_nil h

/-- User accounts are known, or the description speaks of them, or they come with its archetype. -/
theorem auth_mem_analyze_iff (description : String) (known knownTech : List String) :
    "auth" ∈ (analyze description known knownTech).features ↔
      "auth" ∈ known ∨ "auth" ∈ featuresIn (Text.lower description.toList) ∨
        authByDefault (identify (Text.lower description.toList)) := by
  rw [features_analyze, List.mem_append, mem_authAfter_iff, mem_merge_iff]
  tauto

theorem nodup_append_authAfter {a : Archetype} {features : List String} (h : features.Nodup) :
    (features ++ authAfter a features).Nodup := by
  unfold authAfter
  split
  · next hauth =>
    refine List.nodup_append.mpr ⟨h, List.nodup_singleton _, ?_⟩
    rintro f hf g hg rfl
    rw [List.mem_singleton] at hg
    subst hg
    exact hauth.2 hf
  · rwa [List.append_nil]

/-- User accounts are added once only. -/
theorem authAfter_append (a : Archetype) (features : List String) :
    authAfter a (features ++ authAfter a features) = [] := by
  refine if_neg ?_
  rintro ⟨hdefault, hmissing⟩
  rw [List.mem_append, not_or] at hmissing
  have hauth : authAfter a features = ["auth"] := if_pos ⟨hdefault, hmissing.1⟩
  rw [hauth] at hmissing
  exact hmissing.2 List.mem_cons_self

/-- What can be told from an intent about the lists that it was made from. -/
structure Gathers (description : String) (known knownTech : List String) (i : Intent) : Prop where
  /-- The caller's features come first, those of the text next, and user accounts last. -/
  features : i.features = known.eraseDups ++
    (featuresIn (Text.lower description.toList)).filter (· ∉ known) ++
      authAfter (identify (Text.lower description.toList))
        (known ++ featuresIn (Text.lower description.toList))
  inOrder : (featuresIn (Text.lower description.toList)).Sublist (featureKeywords.map (·.1))
  nodup_features : i.features.Nodup
  /-- The technologies of the text come before the caller's. -/
  techPreferences : i.techPreferences = technologiesIn (Text.lower description.toList) ++
    (knownTech.filter (· ∉ technologiesIn (Text.lower description.toList))).eraseDups
  nodup_techPreferences : i.techPreferences.Nodup
  /-- There is one suggestion for every feature that is recommended and missing, in their order. -/
  suggestions : i.suggestions =
    ((recommendedFeatures (some (identify (Text.lower description.toList)))).filter
      (· ∉ i.features)).map suggestion
  nodup_suggestions : i.suggestions.Nodup

theorem gathers_analyze (description : String) (known knownTech : List String) :
    Gathers description known knownTech (analyze description known knownTech) where
  features := by
    have hauth (a : Archetype) (text : List Char) :
        authAfter a (merge known (featuresIn text)) = authAfter a (known ++ featuresIn text) := by
      simp only [authAfter, mem_merge_iff, List.mem_append]
    rw [features_analyze, hauth, merge_eq_append,
      eraseDups_of_nodup ((nodup_featuresIn _).filter _)]
  inOrder := found_sublist _ _
  nodup_features := by
    rw [features_analyze]
    exact nodup_append_authAfter (nodup_merge _ _)
  techPreferences := by
    change merge _ _ = _
    rw [merge_eq_append, eraseDups_of_nodup (nodup_technologiesIn _)]
  nodup_techPreferences := nodup_merge _ _
  suggestions := rfl
  nodup_suggestions := ((nodup_recommendedFeatures _).filter _).map suggestion_injective

/-- The features of an intent are all that the next reading finds. -/
theorem features_analyze_again (description : String) (known knownTech tech : List String) :
    (analyze description (analyze description known knownTech).features tech).features =
      (analyze description known knownTech).features := by
  have hnodup := (gathers_analyze description known knownTech).nodup_features
  have hall : ∀ f ∈ featuresIn (Text.lower description.toList),
      f ∈ (analyze description known knownTech).features := by
    intro f hf
    rw [features_analyze]
    exact List.mem_append_left _ (mem_merge_iff.mpr (.inr hf))
  rw [features_analyze, merge_of_subset hnodup hall, features_analyze, authAfter_append,
    List.append_nil]

/-- An intent gathers what the caller knows and what the description tells, without repetitions.
Read again with its own features and technologies, the description tells the same. -/
theorem analyze_gathers (description : String) (known knownTech : List String) :
    Gathers description known knownTech (analyze description known knownTech) ∧
      let i := analyze description known knownTech
      let j := analyze description i.features i.techPreferences
      j.archetype = i.archetype ∧ j.features = i.features ∧
        j.techPreferences = i.techPreferences ∧ j.suggestions = i.suggestions := by
  refine ⟨gathers_analyze description known knownTech, ?_⟩
  intro i j
  have hfeatures : j.features = i.features := features_analyze_again description known knownTech _
  have htech : j.techPreferences = i.techPreferences := merge_merge (nodup_technologiesIn _)
  have hsuggestions : j.suggestions = i.suggestions := by
    rw [(gathers_analyze _ _ _).suggestions, hfeatures]
    rfl
  exact ⟨rfl, hfeatures, htech, hsuggestions⟩

end Promptsmith.Analysis
