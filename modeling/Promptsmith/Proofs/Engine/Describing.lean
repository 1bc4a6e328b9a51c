import Promptsmith.Proofs.Engine.Ending

/-!
# Generating from a description

With options that are well given nothing on the way from a description to a generation can fail:
the description is analysed, a context is built from the intent, and the generation for the intent's
archetype is run, as if it had been asked for by hand.
-/
namespace Promptsmith

/-! ### Lists of texts -/

/-- The texts that a list holds; what is no list holds none. -/
def Value.textItems (v : Value) : List String :=
  (v.items?.getD []).filterMap Value.text?

@[simp] theorem Value.textItems_texts (ss : List String) : (texts ss).textItems = ss := by
  have htext : Value.text? ∘ Value.text = some := rfl
  rw [textItems, texts, items?, Option.getD_some, List.filterMap_map, htext, List.filterMap_some]

/-- Nothing, or a list of texts. -/
def Value.AtMostTexts (v : Value) : Prop :=
  v = .null ∨ v.IsTexts

theorem Check.texts_eq_valid {v : Value} (h : v.IsTexts) : texts v = .valid v.textItems := by
  obtain ⟨items, rfl, hitems⟩ := h
  have hall : texts (.list items) = Checked.allFrom text 0 items := rfl
  rw [hall, allFrom_text, if_pos (textProblems_eq_nil hitems)]
  rfl

theorem Check.texts_texts (ss : List String) : texts (.texts ss) = .valid ss := by
  rw [texts_eq_valid (Value.isTexts_texts ss), Value.textItems_texts]

theorem TechStack.check_eq_valid {v : Value} (h : v.IsTexts) :
    check v = .valid (.names v.textItems) := by
  have htexts := Check.texts_eq_valid h
  obtain ⟨items, rfl, -⟩ := h
  rw [check, Check.textOrTexts, htexts]
  rfl

theorem Value.mapM_text? {items : List Value} (h : ∀ item ∈ items, item.text?.isSome) :
    items.mapM Value.text? = some (items.filterMap Value.text?) := by
  induction items with
  | nil => rfl
  | cons item items ih =>
    rw [List.forall_mem_cons] at h
    obtain ⟨s, hs⟩ := Option.isSome_iff_exists.mp h.1
    rw [List.mapM_cons, hs, ih h.2, List.filterMap_cons_some hs]
    rfl

theorem Analysis.given_eq_ok {v : Value} (h : v.AtMostTexts) :
    ∃ items, given v = .ok items ∧ items.mapM Value.text? = some v.textItems := by
  rcases h with rfl | ⟨items, rfl, hitems⟩
  · exact ⟨[], rfl, rfl⟩
  · refine ⟨items, ?_, Value.mapM_text? hitems⟩
    cases items <;> rfl

/-- Lists of texts are analysed as they are. -/
theorem Analysis.analyzeValues_eq_ok (description : String) {features tech : Value}
    (hfeatures : features.AtMostTexts) (htech : tech.AtMostTexts) :
    analyzeValues description features tech =
      .ok (analyze description features.textItems tech.textItems) := by
  obtain ⟨fs, hfs, hfeatures⟩ := given_eq_ok hfeatures
  obtain ⟨ts, hts, htech⟩ := given_eq_ok htech
  rw [analyzeValues, hfs, hts]
  simp only [bind, Except.bind, hfeatures, htech]

/-! ### The context of an intent -/

namespace Fields

theorem get?_putAll_map (fs : Fields) (names : List String) (v : Value) (name : String) :
    (fs.putAll (names.map fun n => (n, v))).get? name =
      if name ∈ names then some v else fs.get? name := by
  induction names generalizing fs with
  | nil => rfl
  | cons n names ih =>
    change ((fs.put n v).putAll (names.map fun n => (n, v))).get? name = _
    rw [ih]
    by_cases hmem : name ∈ names
    · rw [if_pos hmem, if_pos (List.mem_cons_of_mem n hmem)]
    · by_cases hn : name = n
      · subst hn
        rw [if_neg hmem, get?_put_self, if_pos List.mem_cons_self]
      · rw [if_neg hmem, get?_put_of_ne _ _ hn, if_neg (by simp [hn, hmem])]

end Fields

/-- The values of a context before the features set their flags. -/
def contextBase (i : Intent) (name toolVersion : String) (stack : Value) (today : String) :
    Fields := [
  ("project_name", .text name),
  ("project_type", .text i.archetype),
  ("complexity_level", .text i.complexity.name),
  ("detected_features", .texts i.features),
  ("tech_stack", stack),
  ("tool_version", .text toolVersion),
  ("current_date", .text today)]

/-- The flag of a name, if a feature sets it. -/
def Intent.flag? (i : Intent) (name : String) : Option Bool :=
  if name ∈ i.features.map flagName then some true else none

/-- The context that is built for an intent on a day. -/
def contextFor (i : Intent) (name toolVersion : String) (stack : Value) (today : String) :
    PromptContext where
  projectName := name
  projectType := i.archetype
  complexityLevel := i.complexity.name
  detectedFeatures := i.features
  techStack := .names (stackFor i stack).textItems
  toolVersion
  currentDate := today
  hasPayment := i.flag? "has_payment_feature"
  hasBilling := i.flag? "has_billing_feature"
  hasSearch := i.flag? "has_search_feature"
  extras := PromptContext.extrasOf
    (contextFields i (.text name) toolVersion stack .null today [])

section

variable {i : Intent} {name toolVersion today : String} {stack : Value}

theorem head?_flagName (feature : String) : (flagName feature).toList.head? = some 'h' := by
  simp [flagName]

theorem get?_contextFields (x : String) :
    (contextFields i (.text name) toolVersion stack .null today []).get? x =
      if x ∈ i.features.map flagName then some (.bool true)
      else (contextBase i name toolVersion (stackFor i stack) today).get? x := by
  have hmap : (i.features.map fun f => (flagName f, Value.bool true)) =
      (i.features.map flagName).map fun n => (n, .bool true) := by
    rw [List.map_map]
    rfl
  change ((contextBase i name toolVersion (stackFor i stack) today).putAll
    (i.features.map fun f => (flagName f, .bool true))).get? x = _
  rw [hmap, Fields.get?_putAll_map]

/-- No feature sets a value that is none of the flags. -/
theorem get?_contextFields_of_ne {x : String} (hx : x.toList.head? ≠ some 'h') :
    (contextFields i (.text name) toolVersion stack .null today []).get? x =
      (contextBase i name toolVersion (stackFor i stack) today).get? x := by
  rw [get?_contextFields, if_neg]
  intro hmem
  obtain ⟨feature, -, rfl⟩ := List.mem_map.mp hmem
  exact hx (head?_flagName feature)

theorem optional_flag {x : String}
    (hx : (contextBase i name toolVersion (stackFor i stack) today).get? x = none) :
    (contextFields i (.text name) toolVersion stack .null today []).optional x none
      Check.boolOrNull = .valid (i.flag? x) := by
  rw [Fields.optional, get?_contextFields, hx, Intent.flag?]
  by_cases hset : x ∈ i.features.map flagName
  · rw [if_pos hset, if_pos hset]
    rfl
  · rw [if_neg hset, if_neg hset]

theorem required_base {α : Type} {x : String} {v : Value} (hx : x.toList.head? ≠ some 'h')
    (hv : (contextBase i name toolVersion (stackFor i stack) today).get? x = some v)
    (check : Value → Checked α) :
    (contextFields i (.text name) toolVersion stack .null today []).required x check =
      (check v).under x := by
  rw [Fields.required, get?_contextFields_of_ne hx, hv]

theorem optional_base {α : Type} {x : String} {v : Value} (hx : x.toList.head? ≠ some 'h')
    (hv : (contextBase i name toolVersion (stackFor i stack) today).get? x = some v)
    (default : α) (check : Value → Checked α) :
    (contextFields i (.text name) toolVersion stack .null today []).optional x default check =
      (check v).under x := by
  rw [Fields.optional, get?_contextFields_of_ne hx, hv]

theorem isTexts_stackFor (hstack : stack.AtMostTexts) : (stackFor i stack).IsTexts := by
  rcases hstack with rfl | h
  · exact Value.isTexts_texts _
  · obtain ⟨items, rfl, hitems⟩ := h
    exact ⟨items, rfl, hitems⟩

/-- An intent has a context with any technologies that are accepted. -/
theorem buildContext_of_check {kept : TechStack}
    (hstack : TechStack.check (stackFor i stack) = .valid kept) :
    buildContext i (.text name) toolVersion stack .null today [] =
      .ok { contextFor i name toolVersion stack today with techStack := kept } := by
  unfold buildContext PromptContext.check
  rw [required_base (by decide) rfl, required_base (by decide) rfl, required_base (by decide) rfl,
    optional_base (by decide) rfl, optional_base (by decide) rfl, required_base (by decide) rfl,
    required_base (by decide) rfl, optional_flag rfl, optional_flag rfl, optional_flag rfl,
    Check.texts_texts, hstack]
  rfl

/-- Every intent has a context. -/
theorem buildContext_eq_ok (hstack : stack.AtMostTexts) :
    buildContext i (.text name) toolVersion stack .null today [] =
      .ok (contextFor i name toolVersion stack today) :=
  buildContext_of_check (TechStack.check_eq_valid (isTexts_stackFor hstack))

end

/-! ### Options -/

/-- The options of a description as they are meant: a name or none, lists of texts or none, and
words of the vocabularies for the reader's experience and for the phase. -/
structure WellGiven (options : Fields) : Prop where
  name : options.get "project_name" = .null ∨ ∃ s, options.get "project_name" = .text s
  features : (options.get "detected_features").AtMostTexts
  stack : (options.get "tech_stack").AtMostTexts
  experience : ∀ v, options.get? "user_experience" = some v →
    ∃ word : Experience, v.text? = some word.name
  phase : ∀ v, options.get? "development_phase" = some v → ∃ word : Phase, v.text? = some word.name

/-- The word that a field gives, or else the default. -/
def Fields.wordOr {α : Type} [Vocabulary α] (fs : Fields) (x : String) (default : α) : α :=
  ((fs.get? x).bind fun v => v.text?.bind Vocabulary.ofName?).getD default

theorem Fields.optional_word {α : Type} [Vocabulary α] {fs : Fields} {x : String}
    (h : ∀ v, fs.get? x = some v → ∃ word : α, v.text? = some (Vocabulary.name word))
    (default : α) : fs.optional x default (Check.word α) = .valid (fs.wordOr x default) := by
  unfold optional wordOr
  cases hv : fs.get? x with
  | none => rfl
  | some v =>
    obtain ⟨word, hword⟩ := h v hv
    simp [Check.word, Check.wordOf, hword, Vocabulary.ofName?_name, Checked.under]

/-- What a description and its options are taken to mean. -/
def describedIntent (description : String) (options : Fields) : Intent :=
  Analysis.analyze description (options.get "detected_features").textItems
    (options.get "tech_stack").textItems

/-- The name that is given, or one after the archetype; the empty name counts as none. -/
def describedName (options : Fields) (i : Intent) : String :=
  match options.get "project_name" with
  | .text s => if s = "" then "my-" ++ i.archetype ++ "-app" else s
  | _ => "my-" ++ i.archetype ++ "-app"

def describedSelection (options : Fields) (i : Intent) (feedback : List Feedback) : Selection where
  intent := i
  experience := options.wordOr "user_experience" .intermediate
  phase := options.wordOr "development_phase" .development
  feedback

namespace WellGiven

variable {options : Fields}

theorem projectNameFor_eq (h : WellGiven options) (i : Intent) :
    Engine.projectNameFor (options.get "project_name") i = .text (describedName options i) := by
  unfold Engine.projectNameFor describedName
  rcases h.name with hnull | ⟨s, hs⟩
  · rw [hnull]
    rfl
  · rw [hs]
    by_cases hempty : s = "" <;> simp [Value.truthy, hempty]

theorem checkFor_eq (h : WellGiven options) (i : Intent) (feedback : List Feedback) :
    Selection.checkFor (.valid i) (.valid feedback) options =
      .valid (describedSelection options i feedback) := by
  have hexperience : options.optional "user_experience" .intermediate (Check.word Experience) =
      .valid (options.wordOr "user_experience" .intermediate) :=
    Fields.optional_word h.experience _
  have hphase : options.optional "development_phase" .development (Check.word Phase) =
      .valid (options.wordOr "development_phase" .development) :=
    Fields.optional_word h.phase _
  rw [Selection.checkFor, hexperience, hphase]
  rfl

end WellGiven

namespace Engine

/-- Described with options that are well given, a project is generated for like any other. -/
theorem generateFromDescription_start [Console] [Host] {options : Fields}
    (h : WellGiven options) (description : String) (feedback : List Feedback) (e : Engine) :
    let i := describedIntent description options
    let context := contextFor i (describedName options i) e.settings.toolVersion
      (options.get "tech_stack") e.settings.clock.today
    (generateFromDescription description options feedback).start e =
      (generate i.archetype context.toFields (some (describedSelection options i feedback))).start
        e := by
  intro i context
  have hanalysis : Act.ofExcept (Analysis.analyzeValues description
      (options.get "detected_features") (options.get "tech_stack")) (.start e) =
        .ok i (.start e) := by
    rw [Analysis.analyzeValues_eq_ok description h.features h.stack]
    rfl
  have hcontext : Act.ofExcept (buildContext i (projectNameFor (options.get "project_name") i)
      e.settings.toolVersion (options.get "tech_stack") .null e.settings.clock.today [])
        (.start e) = .ok context (.start e) := by
    rw [h.projectNameFor_eq, buildContext_eq_ok h.stack]
    rfl
  have hselection : Act.ofExcept ((Selection.checkFor (.valid i) (.valid feedback)
      options).toExcept "SelectionContext") (.start e) =
        .ok (describedSelection options i feedback) (.start e) := by
    rw [h.checkFor_eq]
    rfl
  have hrun : generateFromDescription description options feedback (.start e) =
      generate i.archetype context.toFields (some (describedSelection options i feedback))
        (.start e) :=
    calc generateFromDescription description options feedback (.start e)
      _ = _ := EStateM.bind_ok (Act.engine_run (.start e))
      _ = _ := EStateM.bind_ok hanalysis
      _ = _ := EStateM.bind_ok hcontext
      _ = _ := EStateM.bind_ok hselection
  unfold Act.start
  rw [hrun]

end Engine

end Promptsmith
