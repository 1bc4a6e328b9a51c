import Promptsmith.Proofs.Command.Ways
import Promptsmith.Proofs.Context.Flags

/-!
# The features of a run

A run that generates well tells the features of its intent: its context and its result list them,
and the context has a flag for each of them. User accounts are among them if they are asked for, if
the description speaks of them, or if they come by default with the archetype that the description
is about. An archetype that is forced takes the place of that one too late to bring them along.
-/
namespace Promptsmith

/-! ### Features of a result -/

namespace Engine

variable {e : Engine} {values : Fields} {features : List String}

theorem featureItems_of_texts (h : values.get "detected_features" = .texts features) :
    featureItems values = features.map .text := by
  unfold featureItems
  rw [h]
  cases features <;> rfl

theorem features_of_described [Host] {a : Archetype} {templateId prompt : String} {r : Rendering}
    (h : e.described a templateId prompt values = .ok r)
    (hfeatures : values.get "detected_features" = .texts features) :
    r.metadata.detectedFeatures = features := by
  have hchecked : Check.texts (.list (featureItems values)) = .valid features := by
    rw [featureItems_of_texts hfeatures]
    exact Check.texts_texts features
  obtain ⟨confidence, -, h⟩ := bind_eq_ok_iff.mp h
  rw [hchecked] at h
  obtain ⟨kept, hkept, h⟩ := bind_eq_ok_iff.mp h
  cases hkept
  cases h
  rfl

/-- A prompt for an archetype tells it, and the features that were asked for. -/
theorem metadata_of_answer [Host] {a : Archetype} {selection : Option Selection} {r : Rendering}
    {prompt : String} (h : e.answer a.name values selection = .ok r)
    (houtcome : r.outcome = .prompt prompt)
    (hfeatures : values.get "detected_features" = .texts features) :
    r.metadata.archetype = a.name ∧ r.metadata.detectedFeatures = features := by
  cases course_of_answer h with
  | absent => cases houtcome
  | flawed => cases houtcome
  | rendered hfrom hread hgiven hrender hr =>
    have hsame := Archetype.eq_of_named hfrom.named
    have hkept := (get_valuesFor hgiven (by decide)).trans hfeatures
    exact ⟨(archetype_of_described hr).trans (congrArg Archetype.name hsame),
      features_of_described hr hkept⟩

end Engine

namespace Command

/-! ### Where user accounts come from -/

namespace GenerateOptions

variable (o : GenerateOptions)

/-- User accounts are among the features that are given, or the description speaks of them. -/
def NamesAuth : Prop :=
  "auth" ∈ Text.items (o.features.getD "") ∨
    "auth" ∈ Analysis.featuresIn (Text.lower o.description.toList)

instance : Decidable o.NamesAuth :=
  inferInstanceAs (Decidable (_ ∨ _))

/-- A forced archetype leaves the features as they are without it. -/
theorem features_intent : o.intent.features = (Analysis.analyze o.description
    (Text.items (o.features.getD "")) (Text.items (o.tech.getD ""))).features := by
  unfold intent
  cases o.archetype <;> rfl

theorem auth_mem_intent_iff :
    "auth" ∈ o.intent.features ↔ o.NamesAuth ∨ Analysis.authByDefault o.found := by
  rw [features_intent, Analysis.auth_mem_analyze_iff, ← or_assoc]
  rfl

end GenerateOptions

/-! ### Runs -/

/-- What a generation tells of the features that its options lead to. -/
structure TellsFeatures (s : Scene) (c : Config) (o : GenerateOptions) (r : Rendering) : Prop where
  archetype : r.metadata.archetype = o.kind.name
  result : r.metadata.detectedFeatures = o.intent.features
  context : (o.context c s.clock).toFields.get "detected_features" = .texts o.intent.features
  flags : (o.context c s.clock).toFields.Flags o.intent.features
  auth_iff : "auth" ∈ o.intent.features ↔ o.NamesAuth ∨ Analysis.authByDefault o.found
  /-- The archetype that is found brings user accounts along if they come with it by default. -/
  auth_of_found : o.archetype = none → Analysis.authByDefault o.kind → "auth" ∈ o.intent.features

section

variable [Console] [Host] {s : Scene} {c : Config} {o : GenerateOptions} {r : Rendering}
  {notes : List Event} {prompt : String}

theorem Generates.tellsFeatures (h : Generates s c o (.ok r) notes)
    (houtcome : r.outcome = .prompt prompt) : TellsFeatures s c o r := by
  obtain ⟨-, -, hresult⟩ := h
  have hrec : (engineOf c s.files s.clock).store.Recoverable := Store.recoverable_ofDirectory _ _
  have hanswer := Act.start_ok (Engine.heeds_generate _ _ _) (congrArg Prod.fst hresult)
  rw [Engine.generate_start (Engine.sound_of_cache_eq_nil rfl) hrec, o.archetype_intent] at hanswer
  have hcontext : (o.context c s.clock).toFields.get "detected_features" =
      .texts o.intent.features := rfl
  obtain ⟨harchetype, hfeatures⟩ := Engine.metadata_of_answer hanswer houtcome hcontext
  refine ⟨harchetype, hfeatures, hcontext, flags_contextFor _ _ _ _ _ _, o.auth_mem_intent_iff, ?_⟩
  intro htype hdefault
  have hkind : o.kind = o.found := by rw [GenerateOptions.kind, htype, Option.getD_none]
  rw [hkind] at hdefault
  exact o.auth_mem_intent_iff.mpr (.inr hdefault)

/-- A request to generate ends well with a prompt alone, and its rendering is shown. -/
theorem Way.exists_prompt {report : Report} (h : Way s c (.generate o) report)
    (hend : report.ending = .exit 0) : ∃ r notes prompt, Generates s c o (.ok r) notes ∧
      r.outcome = .prompt prompt ∧ .rendering r ∈ report.events := by
  obtain ⟨before, events, files, hcloses, -, rfl⟩ := h.exists_closes hend
  cases hcloses with
  | shown hresult houtcome => exact ⟨_, _, _, hresult, houtcome, by simp⟩
  | saved hresult houtcome => exact ⟨_, _, _, hresult, houtcome, by simp⟩

end

/-- A run that generates well tells the features of its intent. User accounts are among them just
when they are asked for, described, or come with the archetype that is found, whatever archetype is
forced. -/
theorem run_tells_features [Console] [Host] {s : Scene} {arguments : List String}
    {config : Option String} {o : GenerateOptions}
    (hparse : Invocation.ofArguments arguments = .ok ⟨config, .generate o⟩)
    (hend : (run s arguments).ending = .exit 0) :
    ∃ c r notes prompt, loadConfig s config = .ok c ∧ Generates s c o (.ok r) notes ∧
      r.outcome = .prompt prompt ∧ .rendering r ∈ (run s arguments).events ∧
      TellsFeatures s c o r := by
  generalize hrun : run s arguments = report at hend
  have hgoes : Goes s arguments report := hrun ▸ goes_run s arguments
  cases hgoes with
  | refused => cases hend
  | unconfigured => cases (Report.closing_exit hend).2
  | answered h hconfig hway =>
    obtain rfl := Except.ok.inj (hparse.symm.trans h)
    obtain ⟨r, notes, prompt, hresult, houtcome, hshown⟩ := hway.exists_prompt hend
    exact ⟨_, r, notes, prompt, hconfig, hresult, houtcome, hshown, hresult.tellsFeatures houtcome⟩

attribute [local instance] Console.quiet Host.plain

/-- With the bundled templates and no feedback a request leads to a prompt, which is printed if it
is not to be saved. -/
theorem exists_run_bundled {o : GenerateOptions} (files : Files.Tree) (clock : Clock)
    {arguments : List String}
    (hparse : Invocation.ofArguments arguments = .ok ⟨none, .generate o⟩) (hasked : o.IsAsked)
    (hfeedback : o.feedback = none) (houtput : o.output = none) :
    ∃ r notes prompt, Generates ⟨[], files, clock⟩ defaultConfig o (.ok r) notes ∧
      r.outcome = .prompt prompt ∧ (run ⟨[], files, clock⟩ arguments).ending = .exit 0 ∧
      .rendering r ∈ (run ⟨[], files, clock⟩ arguments).events := by
  obtain ⟨r, notes, prompt, hresult, houtcome⟩ :=
    exists_generates_bundled ⟨[], files, clock⟩ hasked hfeedback
  have hway : Way ⟨[], files, clock⟩ defaultConfig (.generate o) _ :=
    .closes (.shown hresult houtcome houtput)
  have hrun := (Goes.answered hparse (loadConfig_default files clock) hway).run_eq
  rw [Report.closing_of_taken fun event _ => event.refusal?_quiet] at hrun
  refine ⟨r, notes, prompt, hresult, houtcome, ?_, ?_⟩
  · rw [hrun]
  · rw [hrun]
    simp

/-- A forced archetype, and user accounts that are asked for. -/
theorem run_tells_features_given :
    let s : Scene := ⟨[], Files.Tree.empty [], ⟨"2024-01-01", "2024-01-01T00:00:00"⟩⟩
    let arguments := ["generate", "A blog", "--type", "saas", "--features", "billing, auth"]
    let o : GenerateOptions := { GenerateOptions.ofDescription "A blog" with
      archetype := some .saas, features := some "billing, auth" }
    Invocation.ofArguments arguments = .ok ⟨none, .generate o⟩ ∧
      (run s arguments).ending = .exit 0 ∧
      ∃ r, .rendering r ∈ (run s arguments).events ∧ r.metadata.archetype = "saas" ∧
        "auth" ∈ r.metadata.detectedFeatures := by
  intro s arguments o
  have hparse : Invocation.ofArguments arguments = .ok ⟨none, .generate o⟩ := by decide +kernel
  obtain ⟨-, -, -, -, -, hend, -⟩ :=
    exists_run_bundled s.files s.clock hparse (fun h => nomatch h.2) rfl rfl
  obtain ⟨c, r, notes, prompt, -, -, -, hshown, htold⟩ := run_tells_features hparse hend
  have hnamed : o.NamesAuth := by decide +kernel
  refine ⟨hparse, hend, r, hshown, htold.archetype, ?_⟩
  rw [htold.result]
  exact htold.auth_iff.mpr (.inl hnamed)

/-- An archetype that comes with user accounts is forced, and there are none. -/
theorem run_generate_forced_saas :
    let s : Scene := ⟨[], Files.Tree.empty [], ⟨"2024-01-01", "2024-01-01T00:00:00"⟩⟩
    let arguments := ["generate", "--type", "saas"]
    let o : GenerateOptions := { GenerateOptions.ofDescription "" with archetype := some .saas }
    Invocation.ofArguments arguments = .ok ⟨none, .generate o⟩ ∧
      (run s arguments).ending = .exit 0 ∧ Analysis.authByDefault o.kind ∧
      ∃ r notes, Generates s defaultConfig o (.ok r) notes ∧
        .rendering r ∈ (run s arguments).events ∧ r.metadata.archetype = "saas" ∧
        "auth" ∉ r.metadata.detectedFeatures ∧ "auth" ∉ o.intent.features ∧
        (o.context defaultConfig s.clock).toFields.get "has_auth_feature" = .null := by
  intro s arguments o
  have hparse : Invocation.ofArguments arguments = .ok ⟨none, .generate o⟩ := by decide +kernel
  obtain ⟨r, notes, prompt, hresult, houtcome, hend, hshown⟩ :=
    exists_run_bundled s.files s.clock hparse (fun h => nomatch h.2) rfl rfl
  have htold := hresult.tellsFeatures houtcome
  have hmissing : "auth" ∉ o.intent.features := by
    rw [htold.auth_iff]
    decide +kernel
  refine ⟨hparse, hend, rfl, r, notes, hresult, hshown, htold.archetype, ?_, hmissing, ?_⟩
  · rwa [htold.result]
  · exact (htold.flags "auth").trans (if_neg hmissing)

end Command

end Promptsmith
