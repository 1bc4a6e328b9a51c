import Promptsmith.Proofs.Record.Accepted
import Promptsmith.Proofs.Score.Growth

/-!
# Contexts and plain values

A context keeps the values that it was made from, but for words of vocabularies, which it keeps as
texts. No such word is the name of an archetype or of a technology, so it matters for one value of
the score only: a level of complexity that is such a word counts by its constant among plain values,
and that is no level.
-/
namespace Promptsmith

/-! ### What a context keeps -/

/-- What a context keeps of the values that it is made from, as far as they are scored. -/
structure PromptContext.Keeps (values : Fields) (c : PromptContext) : Prop where
  projectType : (values.get "project_type").text? = some c.projectType
  complexity : (values.get "complexity_level").text? = some c.complexityLevel
  features : values.get "detected_features" = .null ∧ c.detectedFeatures = [] ∨
    ∃ items, (values.get "detected_features").items? = some items ∧
      items.map Value.text? = c.detectedFeatures.map some
  stack : values.get "tech_stack" = .null ∧ c.techStack = .line "" ∨
    (∃ s, (values.get "tech_stack").text? = some s ∧ c.techStack = .line s) ∨
      ∃ items ss, (values.get "tech_stack").items? = some items ∧
        items.map Value.text? = ss.map some ∧ c.techStack = .names ss

theorem Fields.text?_of_required {fs : Fields} {name s : String}
    (h : fs.required name Check.text = .valid s) : (fs.get name).text? = some s := by
  obtain ⟨v, hv, hs⟩ := required_eq_valid_iff.mp h
  rw [get, hv]
  exact Check.text_eq_valid_iff.mp hs

theorem PromptContext.keeps_of_check {values : Fields} {c : PromptContext}
    (h : check values = .valid c) : c.Keeps values := by
  simp only [check, Checked.seq_eq_valid, Checked.map_eq_valid] at h
  obtain ⟨_, _, ⟨_, _, ⟨_, _, ⟨_, _, ⟨_, _, ⟨_, _, ⟨_, stack, ⟨_, features, ⟨_, level, ⟨_, type,
    ⟨name, -, rfl⟩, htype, rfl⟩, hlevel, rfl⟩, hfeatures, rfl⟩, hstack, rfl⟩, -, rfl⟩, -, rfl⟩,
    -, rfl⟩, -, rfl⟩, -, rfl⟩, -, rfl⟩ := h
  refine ⟨Fields.text?_of_required htype, Fields.text?_of_required hlevel, ?_, ?_⟩
  · unfold Fields.get
    rcases Fields.optional_eq_valid_iff.mp hfeatures with ⟨hnone, rfl⟩ | ⟨v, hv, htexts⟩
    · exact .inl ⟨by rw [hnone]; rfl, rfl⟩
    · rw [hv]
      exact .inr (Check.texts_eq_valid_iff.mp htexts)
  · unfold Fields.get
    rcases Fields.optional_eq_valid_iff.mp hstack with ⟨hnone, rfl⟩ | ⟨v, hv, hkept⟩
    · exact .inl ⟨by rw [hnone]; rfl, rfl⟩
    · rw [hv]
      exact .inr (TechStack.exists_of_check hkept)

namespace Score

/-! ### Words of vocabularies -/

theorem typeBonus_label (l : Label) :
    typeBonus (.label l) = 0 ∧ typeBonus (.text l.text) = 0 := by
  rcases l with w | w | w | w | w <;> cases w <;> decide +kernel

/-- A word is named by its constant, which is no recognised technology, and neither is its text. -/
theorem not_recognized_label (l : Label) :
    normalized (Value.label l).plain ∉ recognized ∧ normalized l.text ∉ recognized := by
  rcases l with w | w | w | w | w <;> cases w <;> decide +kernel

/-- No constant is a level of complexity. -/
theorem complexityBase_label (l : Label) : complexityBase (.label l) = 45 := by
  rcases l with w | w | w | w | w <;> cases w <;> decide +kernel

/-- Of the words' texts those of the levels of complexity are levels. -/
theorem complexityBase_text_eq_iff (l : Label) :
    complexityBase (.text l.text) = 45 ↔ ∀ level, l ≠ .complexity level := by
  cases l with
  | experience w => exact iff_of_true (by cases w <;> decide +kernel) nofun
  | phase w => exact iff_of_true (by cases w <;> decide +kernel) nofun
  | focus w => exact iff_of_true (by cases w <;> decide +kernel) nofun
  | usage w => exact iff_of_true (by cases w <;> decide +kernel) nofun
  | complexity w => exact iff_of_false (by cases w <;> decide +kernel) fun h => h w rfl

/-- Words and their texts have the same technologies among them. -/
theorem recognizedAmong_plain {items : List Value} {ss : List String}
    (h : items.map Value.text? = ss.map some) :
    recognizedAmong (items.map Value.plain) = recognizedAmong ss := by
  have hkept : ((items.map Value.plain).map normalized).filter (· ∈ recognized) =
      (ss.map normalized).filter (· ∈ recognized) := by
    induction items generalizing ss with
    | nil =>
      cases ss with
      | nil => rfl
      | cons s ss => cases h
    | cons item items ih =>
      cases ss with
      | nil => cases h
      | cons s ss =>
        obtain ⟨hitem, hrest⟩ := List.cons.inj h
        rcases Value.eq_of_text? hitem with rfl | ⟨l, rfl, rfl⟩
        · simp only [List.map_cons, List.filter_cons, ih hrest, Value.plain]
        · obtain ⟨hplain, htext⟩ := not_recognized_label l
          simp only [List.map_cons]
          rw [List.filter_cons_of_neg (by simpa using hplain),
            List.filter_cons_of_neg (by simpa using htext), ih hrest]
  rw [recognizedAmong, hkept, recognizedAmong]

/-! ### Scores -/

section

variable {values : Fields} {c : PromptContext}

theorem typeBonus_of_keeps (h : c.Keeps values) :
    typeBonus (values.get "project_type") = typeBonus (.text c.projectType) := by
  rcases Value.eq_of_text? h.projectType with htext | ⟨l, hlabel, hl⟩
  · rw [htext]
  · rw [hlabel, ← hl, (typeBonus_label l).1, (typeBonus_label l).2]

theorem featureBonus_of_keeps (h : c.Keeps values) :
    featureBonus (values.get "detected_features") = featureBonus (.texts c.detectedFeatures) := by
  rcases h.features with ⟨hnone, hempty⟩ | ⟨items, hitems, htexts⟩
  · rw [hnone, hempty]
    rfl
  · have hlength := congrArg List.length htexts
    simp only [List.length_map] at hlength
    rw [featureBonus_of_items hitems, featureBonus_of_items rfl, List.length_map, hlength]

theorem technologies_of_keeps (h : c.Keeps values) :
    ∃ names, technologies (values.get "tech_stack") = .ok names ∧
      technologies c.techStack.value = .ok names := by
  rcases h.stack with ⟨hnone, hstack⟩ | ⟨s, hs, hstack⟩ | ⟨items, ss, hitems, htexts, hstack⟩
  · rw [hnone, hstack]
    exact ⟨[], rfl, rfl⟩
  · rw [hstack]
    exact ⟨_, technologies_of_text hs, technologies_of_text rfl⟩
  · have hplain : (ss.map Value.text).map Value.plain = ss := by
      rw [List.map_map]
      exact List.map_id ss
    have hnames := technologies_of_items (v := .texts ss) rfl
    rw [hplain, ← recognizedAmong_plain htexts] at hnames
    rw [hstack]
    exact ⟨_, technologies_of_items hitems, hnames⟩

/-- A level counts the same unless it is a word for one, which counts like an unknown level. -/
theorem complexityBase_of_keeps (h : c.Keeps values) :
    (complexityBase (values.get "complexity_level") = complexityBase (.text c.complexityLevel) ∨
      complexityBase (values.get "complexity_level") = 45) ∧
    (complexityBase (values.get "complexity_level") = complexityBase (.text c.complexityLevel) ↔
      ∀ level, values.get "complexity_level" ≠ .label (.complexity level)) := by
  rcases Value.eq_of_text? h.complexity with htext | ⟨l, hlabel, hl⟩
  · rw [htext]
    exact ⟨.inl rfl, iff_of_true rfl nofun⟩
  · rw [hlabel, ← hl, complexityBase_label, eq_comm, complexityBase_text_eq_iff]
    simp

theorem technologyBonus_le (names : List String) : technologyBonus names ≤ 10 := by
  rw [technologyBonus_eq]
  exact Nat.min_le_left _ _

end

/-- The values that a context is made from have a score, and so has the context. The scores are the
same, unless the level of complexity is given as a word of its vocabulary: then they never are. -/
theorem confidence_toFields_eq_iff {values : Fields} {c : PromptContext}
    (h : PromptContext.check values = .valid c) :
    ∃ n m, confidence values = .ok n ∧ confidence c.toFields = .ok m ∧
      (n = m ↔ ∀ level, values.get "complexity_level" ≠ .label (.complexity level)) := by
  have hkeeps := PromptContext.keeps_of_check h
  obtain ⟨names, hplain, htyped⟩ := technologies_of_keeps hkeeps
  refine ⟨_, _, confidence_eq_ok_iff.mpr ⟨names, hplain, rfl⟩,
    confidence_eq_ok_iff.mpr ⟨names, htyped, rfl⟩, ?_⟩
  obtain ⟨hbase, hlevel⟩ := complexityBase_of_keeps hkeeps
  rw [← hlevel, typeBonus_of_keeps hkeeps, featureBonus_of_keeps hkeeps]
  change min 100 _ = min 100 (complexityBase (.text c.complexityLevel) +
    typeBonus (.text c.projectType) + featureBonus (.texts c.detectedFeatures) +
      technologyBonus names) ↔ _
  -- The other terms leave room below one hundred, so that an unknown level tells.
  have htype := typeBonus_le (.text c.projectType)
  have hfeatures := featureBonus_le (.texts c.detectedFeatures)
  have htechnologies := technologyBonus_le names
  omega

/-- A list of features and technologies with a word among them, and a level in another case. -/
theorem confidence_toFields_eq_iff_words :
    let values : Fields := [("project_name", .text "Shop"), ("project_type", .text " SaaS"),
      ("complexity_level", .text "COMPLEX"), ("detected_features", .tuple [.text "auth"]),
      ("tech_stack", .list [.label (.complexity .simple), .text "React"]),
      ("tool_version", .text "1"), ("current_date", .text "2024-01-01")]
    let c : PromptContext := ⟨"Shop", " SaaS", "COMPLEX", ["auth"], .names ["simple", "React"], "1",
      "2024-01-01", none, none, none, []⟩
    PromptContext.check values = .valid c ∧
      ∃ n, confidence values = .ok n ∧ confidence c.toFields = .ok n := by
  intro values c
  have hcheck : PromptContext.check values = .valid c := rfl
  obtain ⟨n, m, hplain, htyped, hsame⟩ := confidence_toFields_eq_iff hcheck
  obtain rfl : n = m := hsame.mpr nofun
  exact ⟨hcheck, n, hplain, htyped⟩

/-- A level that is given as a word scores fifteen points less among plain values. -/
theorem confidence_ne_toFields :
    let values : Fields := [("project_name", .text "Demo"), ("project_type", .text "ecommerce"),
      ("complexity_level", .label (.complexity .complex)), ("detected_features", .list []),
      ("tech_stack", .text ""), ("tool_version", .text "1.0.0"), ("current_date", .text "2026-01-15")]
    ∃ c, PromptContext.check values = .valid c ∧ confidence values = .ok 55 ∧
      confidence c.toFields = .ok 70 := by
  intro values
  exact ⟨_, rfl, by decide +kernel, by decide +kernel⟩

end Score

end Promptsmith
