import Promptsmith.Proofs.Engine.Escaping

/-!
# How a generation ends

Where the store can tell of every body whether it is there and fails to read for a reason only,
where the values can be scored and written, and where the console takes what is noted, every
generation gives a rendering. Which one it is depends on the
hint, on the body that is chosen for the request and on what is read there: `Engine.Course` has the
ways, and `Engine.Ending` is what can be told from the rendering about the way it came.
-/
namespace Promptsmith

theorem Archetype.ofHint?_eq_some_iff {hint : String} {a : Archetype} :
    ofHint? hint = some a ↔ a.name = Text.lowered (Text.trimmed hint) := by
  unfold ofHint?
  constructor
  · exact Vocabulary.name_of_ofName?
  · intro h
    rw [← h]
    exact Vocabulary.ofName?_name a

theorem Archetype.ofHint?_name (a : Archetype) : ofHint? a.name = some a := by
  cases a <;> decide +kernel

/-- The name of an archetype hints at no other. -/
theorem Archetype.eq_of_named {a b : Archetype}
    (h : b.name = Text.lowered (Text.trimmed a.name)) : b = a := by
  have hhint := ofHint?_eq_some_iff.mpr h
  rw [a.ofHint?_name] at hhint
  exact (Option.some.inj hhint).symm

/-- A list whose items are texts. -/
def Value.IsTexts (v : Value) : Prop :=
  ∃ items, v = .list items ∧ ∀ item ∈ items, item.text?.isSome

theorem Value.isTexts_texts (ss : List String) : (Value.texts ss).IsTexts := by
  refine ⟨ss.map .text, rfl, ?_⟩
  intro item hitem
  obtain ⟨s, -, rfl⟩ := List.mem_map.mp hitem
  rfl

theorem Check.textProblems_eq_nil {index : Nat} {vs : List Value}
    (h : ∀ v ∈ vs, v.text?.isSome) : textProblems index vs = [] := by
  rw [textProblems, List.filterMap_eq_nil_iff]
  rintro ⟨v, i⟩ hv
  exact if_pos (h v (List.fst_mem_of_mem_zipIdx hv))

namespace Template

theorem render_eq_ok_iff {text prompt : String} {context : Fields} :
    render text context = .ok prompt ↔
      ∃ nodes, parse text = .ok nodes ∧ evaluate nodes context = prompt := by
  unfold render
  cases parse text <;> simp [Except.map]

theorem render_eq_error_iff {text : String} {context : Fields} {fault : SyntaxError} :
    render text context = .error fault ↔ parse text = .error fault := by
  unfold render
  cases parse text <;> simp [Except.map]

end Template

namespace Engine

/-! ### Values that can be scored -/

/-- What a generation is given to render with: a context, or values of which the features are texts
and the technologies a text or texts, as far as they are there. -/
inductive Contextual : Fields → Prop
  | context (c : PromptContext) : Contextual c.toFields
  | mapping {values : Fields}
      (hfeatures : ∀ v, values.get? "detected_features" = some v → v.IsTexts)
      (hstack : ∀ v, values.get? "tech_stack" = some v → v.text?.isSome ∨ v.IsTexts) :
      Contextual values

theorem contextual_toFields_features (c : PromptContext) {v : Value}
    (h : c.toFields.get? "detected_features" = some v) : v.IsTexts := by
  cases h
  exact Value.isTexts_texts c.detectedFeatures

theorem contextual_toFields_stack (c : PromptContext) {v : Value}
    (h : c.toFields.get? "tech_stack" = some v) : v.text?.isSome ∨ v.IsTexts := by
  cases h
  cases c.techStack with
  | line s => exact .inl rfl
  | names ss => exact .inr (Value.isTexts_texts ss)

theorem not_stackIsNumber {values : Fields}
    (h : ∀ v, values.get? "tech_stack" = some v → v.text?.isSome ∨ v.IsTexts) :
    ¬StackIsNumber values := by
  unfold StackIsNumber Fields.get
  cases hstack : values.get? "tech_stack" with
  | none => simp [Value.truthy]
  | some v =>
    rintro ⟨-, hnumber⟩
    rcases h v hstack with htext | ⟨items, rfl, -⟩
    · cases v <;> simp_all [Value.text?, Value.isNumber]
    · cases hnumber

theorem featureProblems_eq_nil {values : Fields}
    (h : ∀ v, values.get? "detected_features" = some v → v.IsTexts) :
    featureProblems values = [] := by
  have hitems : ∀ item ∈ featureItems values, item.text?.isSome := by
    unfold featureItems Fields.get
    cases hfeatures : values.get? "detected_features" with
    | none => nofun
    | some v =>
      obtain ⟨items, rfl, htexts⟩ := h v hfeatures
      intro item hitem
      dsimp only [Option.getD_some, Value.items?] at hitem
      split at hitem
      · exact htexts item hitem
      · cases hitem
  rw [featureProblems, Check.textProblems_eq_nil hitems, List.map_nil]

theorem Contextual.not_unscorable {values : Fields} (h : Contextual values) (f : Failure) :
    ¬Unscorable values f := by
  obtain ⟨hfeatures, hstack⟩ : (∀ v, values.get? "detected_features" = some v → v.IsTexts) ∧
      ∀ v, values.get? "tech_stack" = some v → v.text?.isSome ∨ v.IsTexts := by
    cases h with
    | context c =>
      exact ⟨fun _ => contextual_toFields_features c, fun _ => contextual_toFields_stack c⟩
    | mapping hfeatures hstack => exact ⟨hfeatures, hstack⟩
  intro hunscorable
  cases hunscorable with
  | stack h => exact not_stackIsNumber hstack h
  | features _ h => exact h (featureProblems_eq_nil hfeatures)

/-! ### The body of a request -/

/-- The hint names no archetype, or one whose main body is missing. -/
def Absent (e : Engine) (hint : String) : Prop :=
  ∀ a : Archetype, a.name = Text.lowered (Text.trimmed hint) → e.store.has a.mainPath = .ok false

/-- The id and the path of the body for an archetype: the selected variant's if it is there, else
the main body's. -/
inductive Chosen (e : Engine) (a : Archetype) : Option Selection → String → String → Prop
  | main : Chosen e a none a.mainId a.mainPath
  | variant {s : Selection} (h : e.store.has (e.variantFor a s).bodyPath = .ok true) :
      Chosen e a (some s) (e.variantFor a s).id (e.variantFor a s).bodyPath
  | fallback {s : Selection} (h : e.store.has (e.variantFor a s).bodyPath = .ok false) :
      Chosen e a (some s) a.mainId a.mainPath

/-- The hint names an archetype whose main body is there, and the request is answered from the body
with an id and a path. -/
structure AnsweredFrom (e : Engine) (hint : String) (selection : Option Selection) (a : Archetype)
    (templateId path : String) : Prop where
  named : a.name = Text.lowered (Text.trimmed hint)
  main : e.store.has a.mainPath = .ok true
  chosen : e.Chosen a selection templateId path

variable {e : Engine} {hint : String} {selection : Option Selection}

theorem chosenBody_eq_ok_iff {a : Archetype} {templateId path : String} :
    e.chosenBody a selection = .ok (templateId, path) ↔ e.Chosen a selection templateId path := by
  cases selection with
  | none =>
    constructor
    · rintro ⟨⟩
      exact .main
    · rintro ⟨⟩
      rfl
  | some s =>
    constructor
    · intro h
      obtain ⟨there, hthere, h⟩ := bind_eq_ok_iff.mp h
      have hhas := Store.present_eq_ok_iff.mp hthere
      cases there with
      | true =>
        cases h
        exact .variant hhas
      | false =>
        cases h
        exact .fallback hhas
    · intro h
      cases h with
      | variant h => exact bind_eq_ok_iff.mpr ⟨true, Store.present_eq_ok_iff.mpr h, rfl⟩
      | fallback h => exact bind_eq_ok_iff.mpr ⟨false, Store.present_eq_ok_iff.mpr h, rfl⟩

theorem AnsweredFrom.not_absent {a : Archetype} {templateId path : String}
    (h : e.AnsweredFrom hint selection a templateId path) : ¬e.Absent hint := by
  intro habsent
  have hmissing := habsent a h.named
  rw [h.main] at hmissing
  cases hmissing

/-- A request is answered from one body only. -/
theorem AnsweredFrom.unique {a a' : Archetype} {templateId templateId' path path' : String}
    (h : e.AnsweredFrom hint selection a templateId path)
    (h' : e.AnsweredFrom hint selection a' templateId' path') :
    templateId = templateId' ∧ path = path' := by
  have ha : some a = some a' := by
    rw [← Archetype.ofHint?_eq_some_iff.mpr h.named, Archetype.ofHint?_eq_some_iff.mpr h'.named]
  cases ha
  have hchosen := chosenBody_eq_ok_iff.mpr h.chosen
  rw [chosenBody_eq_ok_iff.mpr h'.chosen] at hchosen
  cases hchosen
  exact ⟨rfl, rfl⟩

theorem mainFor_eq_none_iff : e.mainFor hint = .ok none ↔ e.Absent hint := by
  unfold mainFor Absent
  cases hhint : Archetype.ofHint? hint with
  | none =>
    have hunnamed (a : Archetype) : a.name ≠ Text.lowered (Text.trimmed hint) := by
      intro ha
      rw [Archetype.ofHint?_eq_some_iff.mpr ha] at hhint
      cases hhint
    exact ⟨fun _ a ha => absurd ha (hunnamed a), fun _ => rfl⟩
  | some a =>
    constructor
    · intro h b hb
      have hab : b = a := by
        rw [Archetype.ofHint?_eq_some_iff.mpr hb] at hhint
        exact Option.some.inj hhint
      subst hab
      obtain ⟨there, hthere, h⟩ := bind_eq_ok_iff.mp h
      cases there with
      | true => cases h
      | false => exact Store.present_eq_ok_iff.mp hthere
    · intro h
      have hmissing := h a (Archetype.ofHint?_eq_some_iff.mp hhint)
      exact bind_eq_ok_iff.mpr ⟨false, Store.present_eq_ok_iff.mpr hmissing, rfl⟩

/-! ### The ways -/

/-- The body at a path cannot be read or does not parse, and what is told of it. -/
inductive Flawed (e : Engine) (path : String) : String → Prop
  | unread {message : String} (hread : e.store.read path = .error (.reason message)) :
      Flawed e path message
  | unparsed {body : String} {fault : Template.SyntaxError} (hread : e.store.read path = .ok body)
      (hparse : Template.parse body = .error fault) : Flawed e path fault.message

theorem Flawed.not_parses {path message : String} (h : e.Flawed path message) :
    ¬e.Parses path := by
  rintro ⟨body, nodes, hbody, hnodes⟩
  cases h with
  | unread hread =>
    rw [hbody] at hread
    cases hread
  | unparsed hread hparse =>
    rw [hbody] at hread
    cases hread
    rw [hnodes] at hparse
    cases hparse

section

variable [Host]

/-- How a rendering comes about. -/
inductive Course (e : Engine) (hint : String) (values : Fields) (selection : Option Selection) :
    Rendering → Prop
  | absent (h : e.Absent hint) :
      Course e hint values selection
        (e.refusal (Text.lowered (Text.trimmed hint)) (unknownMessage hint) "none")
  | flawed {a : Archetype} {templateId path message : String}
      (h : e.AnsweredFrom hint selection a templateId path) (hflaw : e.Flawed path message) :
      Course e hint values selection (e.refusal a.name message "error")
  | rendered {a : Archetype} {templateId path body prompt : String} {given : Fields}
      {r : Rendering} (h : e.AnsweredFrom hint selection a templateId path)
      (hread : e.store.read path = .ok body) (hgiven : e.valuesFor body values = .ok given)
      (hrender : Template.render body given = .ok prompt)
      (hr : e.described a templateId prompt given = .ok r) : Course e hint values selection r

omit [Host] in
theorem fetch_eq_reason_iff {s : Store} {path message : String} :
    s.fetch path = .ok (.error message) ↔ s.read path = .error (.reason message) := by
  unfold Store.fetch
  match s.read path with
  | .ok body => simp
  | .error (.reason message) => simp
  | .error (.fatal f) => simp

theorem course_of_rendered {a : Archetype} {templateId path : String} {values : Fields}
    {r : Rendering} (h : e.AnsweredFrom hint selection a templateId path)
    (hr : e.rendered a templateId path values = .ok r) : e.Course hint values selection r := by
  obtain ⟨fetched, hfetch, hr⟩ := bind_eq_ok_iff.mp hr
  cases fetched with
  | error message =>
    cases hr
    exact .flawed h (.unread (fetch_eq_reason_iff.mp hfetch))
  | ok body =>
    have hread := Store.fetch_eq_body_iff.mp hfetch
    obtain ⟨given, hgiven, hr⟩ := bind_eq_ok_iff.mp hr
    cases hrender : Template.render body given with
    | ok prompt =>
      rw [hrender] at hr
      obtain ⟨-, -, hr⟩ := bind_eq_ok_iff.mp hr
      exact .rendered h hread hgiven hrender hr
    | error fault =>
      rw [hrender] at hr
      cases hr
      exact .flawed h (.unparsed hread (Template.render_eq_error_iff.mp hrender))

/-- A generation that gives a rendering went one of these ways. -/
theorem course_of_answer {values : Fields} {r : Rendering}
    (h : e.answer hint values selection = .ok r) : e.Course hint values selection r := by
  obtain ⟨main, hmain, h⟩ := bind_eq_ok_iff.mp h
  cases main with
  | none =>
    cases h
    exact .absent (mainFor_eq_none_iff.mp hmain)
  | some a =>
    obtain ⟨hhint, hthere⟩ := mainFor_eq_some_iff.mp hmain
    obtain ⟨⟨templateId, path⟩, hchosen, h⟩ := bind_eq_ok_iff.mp h
    have hfrom : e.AnsweredFrom hint selection a templateId path :=
      ⟨Archetype.ofHint?_eq_some_iff.mp hhint, hthere, chosenBody_eq_ok_iff.mp hchosen⟩
    exact course_of_rendered hfrom h

/-- What can be told from a rendering about the request and the store. -/
structure Ending (e : Engine) (hint : String) (values : Fields) (selection : Option Selection)
    (r : Rendering) : Prop where
  /-- There is a prompt just when the body for the request is read and parses. -/
  succeeds_iff : r.prompt?.isSome ↔
    ∃ a templateId path, e.AnsweredFrom hint selection a templateId path ∧ e.Parses path
  /-- The prompt is what the body with the id told is rendered to. -/
  rendered : ∀ prompt, r.prompt? = some prompt → ∃ a path body given,
    e.AnsweredFrom hint selection a r.metadata.templateId path ∧ e.store.read path = .ok body ∧
      e.valuesFor body values = .ok given ∧ Template.render body given = .ok prompt
  bare : r.prompt? = none → r.metadata.detectedFeatures = [] ∧ r.metadata.confidence = 0
  none_iff : r.prompt? = none → (r.metadata.templateId = "none" ↔ e.Absent hint)
  unknown : e.Absent hint → r.error? = some (unknownMessage hint)
  /-- Any other error is that of reading or of parsing the body for the request. -/
  failed : r.prompt? = none → ¬e.Absent hint → r.metadata.templateId = "error" ∧
    ∃ a templateId path message, e.AnsweredFrom hint selection a templateId path ∧
      e.Flawed path message ∧ r.error? = some message

theorem described_ok {a : Archetype} {templateId prompt : String} {values : Fields} {r : Rendering}
    (h : e.described a templateId prompt values = .ok r) :
    r.outcome = .prompt prompt ∧ r.metadata.templateId = templateId := by
  obtain ⟨confidence, -, h⟩ := bind_eq_ok_iff.mp h
  obtain ⟨features, -, h⟩ := bind_eq_ok_iff.mp h
  cases h
  exact ⟨rfl, rfl⟩

omit [Host] in
theorem ending_of_absent {values : Fields} (h : e.Absent hint) :
    e.Ending hint values selection
      (e.refusal (Text.lowered (Text.trimmed hint)) (unknownMessage hint) "none") where
  succeeds_iff := by
    constructor
    · nofun
    · rintro ⟨a, templateId, path, hfrom, -⟩
      exact absurd h hfrom.not_absent
  rendered := nofun
  bare _ := ⟨rfl, rfl⟩
  none_iff _ := ⟨fun _ => h, fun _ => rfl⟩
  unknown _ := rfl
  failed _ hnot := absurd h hnot

omit [Host] in
theorem ending_of_flawed {values : Fields} {a : Archetype} {templateId path message : String}
    (h : e.AnsweredFrom hint selection a templateId path) (hflaw : e.Flawed path message) :
    e.Ending hint values selection (e.refusal a.name message "error") where
  succeeds_iff := by
    constructor
    · nofun
    · rintro ⟨a', templateId', path', hfrom, hparses⟩
      rw [← (h.unique hfrom).2] at hparses
      exact absurd hparses hflaw.not_parses
  rendered := nofun
  bare _ := ⟨rfl, rfl⟩
  none_iff _ := ⟨fun hnone => absurd hnone (by decide : "error" ≠ "none"),
    fun habsent => absurd habsent h.not_absent⟩
  unknown habsent := absurd habsent h.not_absent
  failed _ _ := ⟨rfl, a, templateId, path, message, h, hflaw, rfl⟩

theorem ending_of_rendered {values given : Fields} {a : Archetype}
    {templateId path body prompt : String} {r : Rendering}
    (h : e.AnsweredFrom hint selection a templateId path) (hread : e.store.read path = .ok body)
    (hgiven : e.valuesFor body values = .ok given)
    (hrender : Template.render body given = .ok prompt)
    (hr : e.described a templateId prompt given = .ok r) :
    e.Ending hint values selection r := by
  obtain ⟨houtcome, htemplate⟩ := described_ok hr
  have hprompt : r.prompt? = some prompt := by rw [Rendering.prompt?, houtcome]
  obtain ⟨nodes, hnodes, -⟩ := Template.render_eq_ok_iff.mp hrender
  have hparses : e.Parses path := ⟨body, nodes, hread, hnodes⟩
  constructor
  case succeeds_iff =>
    rw [hprompt]
    exact ⟨fun _ => ⟨a, templateId, path, h, hparses⟩, fun _ => rfl⟩
  case rendered =>
    intro prompt' hprompt'
    rw [hprompt] at hprompt'
    cases hprompt'
    rw [htemplate]
    exact ⟨a, path, body, given, h, hread, hgiven, hrender⟩
  case unknown => exact fun habsent => absurd habsent h.not_absent
  all_goals
    intro hnone
    rw [hprompt] at hnone
    cases hnone

theorem Course.ending {values : Fields} {r : Rendering} (h : e.Course hint values selection r) :
    e.Ending hint values selection r := by
  cases h with
  | absent h => exact ending_of_absent h
  | flawed h hflaw => exact ending_of_flawed h hflaw
  | rendered h hread hgiven hrender hr => exact ending_of_rendered h hread hgiven hrender hr

theorem generate_of_has_error [Console] {a : Archetype} {error : Files.FileError}
    (h : e.store.has a.mainPath = .error error) (values : Fields) :
    (generate a.name values selection).start e = (.error (.file error), .start e) := by
  have hhas : Act.has a.mainPath (.start e) = .error (.file error) (.start e) := by
    rw [Act.has_run, Session.start, h]
  have hlookup : Registry.lookup a.name (.start e) = .error (.file error) (.start e) := by
    unfold Registry.lookup
    rw [a.ofHint?_name]
    exact EStateM.bind_error hhas
  have hrun : generate a.name values selection (.start e) = _ := EStateM.bind_error hlookup
  rw [Act.start, hrun]

end

attribute [local instance] Console.quiet Host.plain

end Engine

end Promptsmith
