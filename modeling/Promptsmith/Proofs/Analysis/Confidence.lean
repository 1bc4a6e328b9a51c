import Promptsmith.Proofs.Analysis.Merging
import Promptsmith.Proofs.Command.Ways

/-!
# Confidence

The features of an intent are distinct, so no more of them are recommended than there are
recommendations, and no more than fifteen points come of them. Short texts lose points that they
could not get otherwise. So the confidence of an analysis stays where it is always trusted.
-/
namespace Promptsmith

namespace Analysis

/-- Distinct items occur in a list no more often than the list is long. -/
theorem countP_mem_le {items list : List String} (h : items.Nodup) :
    items.countP (· ∈ list) ≤ list.length := by
  have hsubset : items.filter (· ∈ list) ⊆ list := by
    intro x hx
    simpa using (List.mem_filter.mp hx).2
  rw [List.countP_eq_length_filter]
  exact (List.subperm_of_subset (h.filter _) hsubset).length_le

/-- The share of recommended features is worth fifteen points at most. -/
theorem share_le {features : List String} (h : features.Nodup) (a : Option Archetype) :
    features.countP (· ∈ recommendedFeatures a) * (900 / (recommendedFeatures a).length) ≤ 900 :=
  (Nat.mul_le_mul_right _ (countP_mem_le h)).trans (Nat.mul_div_le 900 _)

theorem sixtieths_bounds (text : List Char) (a : Option Archetype) {features : List String}
    (h : features.Nodup) :
    40 * 60 ≤ sixtieths text a features ∧ sixtieths text a features ≤ 95 * 60 := by
  have hshare := share_le h a
  have hhits : min 20 (typeHits text a * 5) ≤ 20 := Nat.min_le_left _ _
  have hverbs : (if mentionsAny text actionVerbs then 3 else 0) ≤ 3 := by split <;> decide
  have hwords : (if mentionsAny text domainWords then 2 else 0) ≤ 2 := by split <;> decide
  -- A text too short for the bonus of its length is one that loses points for it.
  have hlength : (if Text.wordCount text < 3 then 40 else 50) +
      (if 5 ≤ Text.wordCount text ∧ Text.wordCount text ≤ 50 then 5 else 0) ≤ 55 ∧
      40 ≤ (if Text.wordCount text < 3 then 40 else 50) := by
    split <;> split <;> omega
  unfold sixtieths
  dsimp only
  omega

theorem rounded_bounds {n : Nat} (h : 40 * 60 ≤ n ∧ n ≤ 95 * 60) :
    40 ≤ Decimal.roundHalfEven n 60 ∧ Decimal.roundHalfEven n 60 ≤ 95 := by
  have hnear := @Decimal.roundHalfEven_near n 60 (by decide)
  omega

theorem confidenceOf_bounds (text : List Char) (a : Option Archetype) {features : List String}
    (h : features.Nodup) :
    confidenceOf text a features = Decimal.roundHalfEven (sixtieths text a features) 60 ∧
      40 ≤ confidenceOf text a features ∧ confidenceOf text a features ≤ 95 := by
  have hrounded := rounded_bounds (sixtieths_bounds text a h)
  unfold confidenceOf
  omega

end Analysis

namespace Command

open Analysis

theorem untagged_listing {words : List String} (h : ∀ word ∈ words, Untagged word) :
    Untagged (Event.listing words) := by
  unfold Event.listing
  split
  · decide
  · exact untagged_intercalate (by decide) h

/-- What an analysis says of an intent is put together from fixed words. -/
theorem untagged_warnings (i : Intent) : ∀ warning ∈ warnings i, Untagged warning := by
  have hrecommended (a : Option Archetype) : ∀ feature ∈ recommendedFeatures a,
      Untagged feature := by
    rcases a with - | a
    · decide +kernel
    · cases a <;> decide +kernel
  intro warning hwarning
  unfold warnings at hwarning
  rcases List.mem_append.mp hwarning with hlow | hadd
  · split at hlow
    · rw [List.mem_singleton.mp hlow]
      decide +kernel
    · cases hlow
  · split at hadd
    · rw [List.mem_singleton.mp hadd]
      have hfront : Untagged "Consider adding these features: " := by decide +kernel
      refine hfront.append (untagged_intercalate (by decide) ?_)
      intro feature hfeature
      exact hrecommended _ feature (List.mem_of_mem_filter (List.mem_of_mem_filter hfeature))
    · cases hadd

/-- Every console takes the summary of an intent whose words have no brackets. -/
theorem taken_intentSummary [Console] {i : Intent} (harchetype : Untagged i.archetype)
    (hfeatures : ∀ s ∈ i.features, Untagged s) {confidence : Nat}
    (hconfidence : i.confidence = confidence) (htech : ∀ s ∈ i.techPreferences, Untagged s) :
    Taken (Event.intentSummary i) := by
  have hpercent : Untagged (toString i.confidence ++ "%") := by
    rw [hconfidence]
    exact (untagged_toString confidence).append (by decide)
  refine List.forall_mem_cons.mpr ⟨Event.refusal?_of_markup ?_, List.forall_mem_singleton.mpr rfl⟩
  have htexts : ∀ text ∈ (Event.table "Intent Analysis" ["Item", "Value"] [
      ["Project type", i.archetype], ["Confidence", toString i.confidence ++ "%"],
      ["Features", Event.listing i.features], ["Complexity", i.complexity.name],
      ["Tech", Event.listing i.techPreferences]]).markups, Untagged text := by
    simp only [Event.markups, List.flatten_cons, List.flatten_nil, List.cons_append,
      List.nil_append, List.append_nil, List.forall_mem_cons]
    exact ⟨by decide +kernel, by decide, by decide, by decide +kernel, harchetype,
      by decide +kernel, hpercent, by decide, untagged_listing hfeatures, by decide +kernel,
      i.complexity.untagged_name, by decide, untagged_listing htech, List.forall_mem_nil _⟩
  exact fun text htext => (htexts text htext).markup

/-- Every console takes what analysing a description shows. -/
theorem taken_analysis [Console] (description : String) :
    Taken (Event.intentSummary (Analysis.analyze description [] []) ++
      (warnings (Analysis.analyze description [] [])).map .warning) := by
  refine List.forall_mem_append.mpr ⟨?_, ?_⟩
  · exact taken_intentSummary (Archetype.untagged_name _)
      (forall_features (by decide +kernel) (by decide) nofun) rfl
      (forall_techPreferences (by decide +kernel) nofun)
  · intro event hevent
    obtain ⟨warning, hwarning, rfl⟩ := List.mem_map.mp hevent
    exact Event.refusal?_warning (untagged_warnings _ warning hwarning)

/-- The confidence of an analysis is that of its points, which are not cut off at either end, and it
is always trusted. So analysing is a success whenever there is a configuration. -/
theorem analyze_trusted [Console] [Host] (description : String) (known knownTech : List String) :
    let text := Text.lower description.toList
    let i := Analysis.analyze description known knownTech
    i.confidence = Decimal.roundHalfEven
        (sixtieths text (some (identify text)) (merge known (featuresIn text))) 60 ∧
      40 ≤ i.confidence ∧ i.confidence ≤ 95 ∧ isTrusted i ∧
      ∀ (s : Scene) (arguments : List String) (config : Option String) (c : Config),
        Invocation.ofArguments arguments = .ok ⟨config, .analyze description⟩ →
        loadConfig s config = .ok c → (run s arguments).ending = .exit 0 := by
  intro text i
  have hconfidence (known : List String) :=
    confidenceOf_bounds text (some (identify text)) (nodup_merge known (featuresIn text))
  have htrusted (known knownTech : List String) :
      isTrusted (Analysis.analyze description known knownTech) = true :=
    decide_eq_true (Int.ofNat_le.mpr (hconfidence known).2.1)
  obtain ⟨hvalue, hlow, hhigh⟩ := hconfidence known
  refine ⟨congrArg Int.ofNat hvalue, Int.ofNat_le.mpr hlow, Int.ofNat_le.mpr hhigh,
    htrusted known knownTech, ?_⟩
  intro s arguments config c hparse hconfig
  have hway : Way s c (.analyze description) _ := .closes (.analyzed description)
  rw [(Goes.answered hparse hconfig hway).run_eq, Report.closing_of_taken (taken_analysis _)]
  dsimp only
  rw [if_pos (htrusted [] [])]

attribute [local instance] Console.quiet Host.plain

/-- A text of one word, which names nothing, is as little as can be told. -/
theorem analyze_trusted_word :
    let s : Scene := ⟨[], .empty ["home"], ⟨"2024-01-01", "2024-01-01T00:00:00"⟩⟩
    Invocation.ofArguments ["analyze", "hm"] = .ok ⟨none, .analyze "hm"⟩ ∧
      loadConfig s none = .ok defaultConfig ∧ (run s ["analyze", "hm"]).ending = .exit 0 ∧
      40 ≤ (Analysis.analyze "hm" ["auth", "auth"] ["React"]).confidence := by
  intro s
  have hparse : Invocation.ofArguments ["analyze", "hm"] = .ok ⟨none, .analyze "hm"⟩ := by
    decide +kernel
  have hconfig := loadConfig_default (.empty ["home"]) ⟨"2024-01-01", "2024-01-01T00:00:00"⟩
  obtain ⟨-, hlow, -, -, hexit⟩ := analyze_trusted "hm" ["auth", "auth"] ["React"]
  exact ⟨hparse, hconfig, hexit s _ none defaultConfig hparse hconfig, hlow⟩

end Command

end Promptsmith
