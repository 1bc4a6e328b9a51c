import Mathlib
import Promptsmith.Proofs.Engine.Answer
import Promptsmith.Proofs.Host.Spelt

/-!
# Which failures escape

A rendering tells of an unknown hint, of a body that is missing or cannot be read and of one that
does not parse. Three kinds of failure end a generation without a rendering: a store that cannot
tell whether a body is there, values that a prompt cannot be written, scored or described with
though its body is read and parses, and a note that the console refuses. Nothing else escapes.
-/
namespace Promptsmith

/-! ### Values that cannot be scored -/

/-- Truth values and numbers, which list nothing. -/
def Value.isNumber : Value → Bool
  | .bool _ => true
  | .int _ => true
  | .float _ => true
  | _ => false

/-- A problem at the index of each item that is no text, counted from an index on. -/
def Check.textProblems (index : Nat) (vs : List Value) : List Problem :=
  (vs.zipIdx index).filterMap fun (v, i) =>
    if v.text?.isSome then none else some ⟨[toString i], .stringType⟩

namespace Engine

/-- The technologies are a number other than zero, or the truth. -/
def StackIsNumber (values : Fields) : Prop :=
  (values.get "tech_stack").truthy ∧ (values.get "tech_stack").isNumber

/-- A problem for every feature that is no text. -/
def featureProblems (values : Fields) : List Problem :=
  (Check.textProblems 0 (featureItems values)).map (·.under "detected_features")

/-- What a prompt cannot be scored or described with: technologies that are a number, or else
features that are no texts. -/
inductive Unscorable (values : Fields) : Failure → Prop
  | stack (h : StackIsNumber values) :
      Unscorable values (.notIterable (values.get "tech_stack").typeName)
  | features (hstack : ¬StackIsNumber values) (h : featureProblems values ≠ []) :
      Unscorable values (.invalid "RenderMetadata" (featureProblems values))

/-- The failure tells of a number with too many digits, and there is one among the values. -/
def Overlong (values : Fields) (f : Failure) : Prop :=
  ¬values.Spelt ∧ ∃ message, f = .overlong message

end Engine

theorem Score.listed_error_iff {v : Value} {f : Failure} :
    listed v = .error f ↔ (v.truthy ∧ v.isNumber) ∧ f = .notIterable v.typeName := by
  unfold listed
  by_cases hcounts : v.truthy
  · cases v with
    | null => cases hcounts
    | _ => simp [hcounts, Value.text?, Value.iterate, Value.isNumber, Except.map, eq_comm]
  · simp [hcounts]

theorem Score.confidence_error_iff {values : Fields} {f : Failure} :
    confidence values = .error f ↔
      Engine.StackIsNumber values ∧ f = .notIterable (values.get "tech_stack").typeName := by
  rw [Engine.StackIsNumber, ← listed_error_iff]
  unfold confidence technologies
  cases listed (values.get "tech_stack") <;> simp [Except.map]

/-- Without a number for technologies there is a score. -/
theorem Score.exists_confidence_iff {values : Fields} :
    (∃ n, confidence values = .ok n) ↔ ¬Engine.StackIsNumber values := by
  cases hscore : confidence values with
  | ok n =>
    have hstack : ¬Engine.StackIsNumber values := by
      intro h
      have herror := confidence_error_iff.mpr ⟨h, rfl⟩
      rw [hscore] at herror
      cases herror
    simp [hstack]
  | error f => simp [(confidence_error_iff.mp hscore).1]

theorem Check.text_under {v : Value} (name : String) :
    (text v).under name =
      match v.text? with
      | some s => .valid s
      | none => .invalid [⟨[name], .stringType⟩] := by
  unfold text
  cases v.text? <;> rfl

/-- Items are refused for those among them that are no texts. -/
theorem Check.allFrom_text (index : Nat) (vs : List Value) :
    Checked.allFrom text index vs =
      if textProblems index vs = [] then .valid (vs.filterMap Value.text?)
      else .invalid (textProblems index vs) := by
  induction vs generalizing index with
  | nil => rfl
  | cons v vs ih =>
    rw [Checked.allFrom, ih, text_under]
    cases hv : v.text? with
    | some s =>
      have hproblems : textProblems index (v :: vs) = textProblems (index + 1) vs := by
        simp [textProblems, hv]
      rw [hproblems, List.filterMap_cons_some hv]
      by_cases h : textProblems (index + 1) vs = []
      · rw [if_pos h, if_pos h]
        rfl
      · rw [if_neg h, if_neg h]
        rfl
    | none =>
      have hproblems : textProblems index (v :: vs) =
          ⟨[toString index], .stringType⟩ :: textProblems (index + 1) vs := by
        simp [textProblems, hv]
      rw [hproblems, if_neg (List.cons_ne_nil _ _)]
      by_cases h : textProblems (index + 1) vs = []
      · rw [if_pos h, h]
        rfl
      · rw [if_neg h]
        rfl

theorem bind_eq_ok_iff {α β : Type} {x : Except Failure α} {next : α → Except Failure β} {b : β} :
    x >>= next = .ok b ↔ ∃ a, x = .ok a ∧ next a = .ok b := by
  cases x with
  | error e =>
    constructor
    · intro h
      cases h
    · rintro ⟨a, ha, -⟩
      cases ha
  | ok a =>
    constructor
    · intro h
      exact ⟨a, rfl, h⟩
    · rintro ⟨a', ha, h⟩
      cases ha
      exact h

theorem bind_eq_error_iff {α β : Type} {x : Except Failure α} {next : α → Except Failure β}
    {f : Failure} :
    x >>= next = .error f ↔ x = .error f ∨ ∃ a, x = .ok a ∧ next a = .error f := by
  cases x with
  | error e =>
    constructor
    · intro h
      cases h
      exact .inl rfl
    · rintro (h | ⟨a, ha, -⟩)
      · cases h
        rfl
      · cases ha
  | ok a =>
    constructor
    · intro h
      exact .inr ⟨a, rfl, h⟩
    · rintro (h | ⟨a', ha, h⟩)
      · cases h
      · cases ha
        exact h

namespace Engine

/-- The features of a description are refused for their problems. -/
theorem features_error_iff {values : Fields} {f : Failure} :
    ((Check.texts (.list (featureItems values))).under "detected_features").toExcept
        "RenderMetadata" = .error f ↔
      featureProblems values ≠ [] ∧ f = .invalid "RenderMetadata" (featureProblems values) := by
  have htexts : Check.texts (.list (featureItems values)) =
      Checked.allFrom Check.text 0 (featureItems values) := rfl
  rw [htexts, Check.allFrom_text, featureProblems]
  by_cases h : Check.textProblems 0 (featureItems values) = []
  · simp [h, Checked.under, Checked.toExcept]
  · rw [if_neg h]
    constructor
    · intro herror
      exact ⟨by simpa using h, (Except.error.inj herror).symm⟩
    · rintro ⟨-, rfl⟩
      rfl

section

variable [Host] {values : Fields} {f : Failure}

theorem scored_of_spelt (h : values.Spelt) : scored values = Score.confidence values := by
  rw [scored, Score.write_written h]
  rfl

theorem overlong_of_written (h : Host.write (Score.written values) = .error f) :
    Overlong values f := by
  refine ⟨fun hspelt => ?_, Host.overlong_of_write h⟩
  rw [Score.write_written hspelt] at h
  cases h

theorem overlong_of_shown {body : String}
    (h : Host.write (Template.shown body values) = .error f) : Overlong values f := by
  refine ⟨fun hspelt => ?_, Host.overlong_of_write h⟩
  rw [Template.write_shown hspelt] at h
  cases h

theorem described_error {e : Engine} {a : Archetype} {templateId prompt : String}
    (h : e.described a templateId prompt values = .error f) :
    Unscorable values f ∨ Overlong values f := by
  rcases bind_eq_error_iff.mp h with h | ⟨n, hscored, h⟩
  · rcases bind_eq_error_iff.mp h with h | ⟨-, -, h⟩
    · exact .inr (overlong_of_written h)
    · obtain ⟨hstack, rfl⟩ := Score.confidence_error_iff.mp h
      exact .inl (.stack hstack)
  · obtain ⟨-, -, hscore⟩ := bind_eq_ok_iff.mp hscored
    rcases bind_eq_error_iff.mp h with hfeatures | ⟨features, -, hpure⟩
    · obtain ⟨hproblems, rfl⟩ := features_error_iff.mp hfeatures
      exact .inl (.features (Score.exists_confidence_iff.mp ⟨n, hscore⟩) hproblems)
    · cases hpure

theorem described_error_iff {e : Engine} {a : Archetype} {templateId prompt : String}
    (hspelt : values.Spelt) :
    e.described a templateId prompt values = .error f ↔ Unscorable values f := by
  constructor
  · intro h
    rcases described_error h with hunscorable | ⟨hlong, -⟩
    · exact hunscorable
    · exact absurd hspelt hlong
  · intro h
    rw [described, scored_of_spelt hspelt]
    cases h with
    | stack hstack =>
      exact bind_eq_error_iff.mpr (.inl (Score.confidence_error_iff.mpr ⟨hstack, rfl⟩))
    | features hstack hproblems =>
      obtain ⟨n, hscore⟩ := Score.exists_confidence_iff.mpr hstack
      refine bind_eq_error_iff.mpr (.inr ⟨n, hscore, ?_⟩)
      exact bind_eq_error_iff.mpr (.inl (features_error_iff.mpr ⟨hproblems, rfl⟩))

end

/-- Scoring looks at the technologies and at the features alone. -/
theorem Unscorable.congr {values values' : Fields} {f : Failure} (h : Unscorable values f)
    (hstack : values'.get "tech_stack" = values.get "tech_stack")
    (hfeatures : values'.get "detected_features" = values.get "detected_features") :
    Unscorable values' f := by
  have hcounts : StackIsNumber values' ↔ StackIsNumber values := by
    rw [StackIsNumber, StackIsNumber, hstack]
  have hproblems : featureProblems values' = featureProblems values := by
    rw [featureProblems, featureProblems, featureItems, featureItems, hfeatures]
  cases h with
  | stack h =>
    rw [← hstack]
    exact .stack (hcounts.mpr h)
  | features hnone h =>
    rw [← hproblems] at h ⊢
    exact .features (mt hcounts.mp hnone) h

end Engine

/-! ### Stores that cannot tell -/

namespace Store

/-- The store fails to tell whether some body is there. -/
def Silent (s : Store) (f : Failure) : Prop :=
  ∃ path e, s.has path = .error e ∧ f = .file e

theorem silent_of_present {s : Store} {path : String} {f : Failure}
    (h : s.present path = .error f) : s.Silent f := by
  unfold present at h
  cases hhas : s.has path with
  | ok there =>
    rw [hhas] at h
    cases h
  | error e =>
    rw [hhas] at h
    exact ⟨path, e, hhas, (Except.error.inj h).symm⟩

theorem fetch_eq_body_iff {s : Store} {path body : String} :
    s.fetch path = .ok (.ok body) ↔ s.read path = .ok body := by
  unfold fetch
  match s.read path with
  | .ok body => simp
  | .error (.reason message) => simp
  | .error (.fatal f) => simp

theorem Recoverable.fetch_ne {s : Store} (hrec : s.Recoverable) {path : String}
    (hthere : s.has path = .ok true) (f : Failure) : s.fetch path ≠ .error f := by
  have hread := hrec path hthere
  unfold fetch
  match hfetch : s.read path with
  | .ok body => nofun
  | .error (.reason message) => nofun
  | .error (.fatal f) => exact absurd hfetch (hread f)

/-- Base files that cannot be read are skipped; one that cannot be told to be there is not. -/
theorem Recoverable.exists_of_sections {s : Store} (hrec : s.Recoverable) {paths : List String}
    {f : Failure} (h : s.sections paths = .error f) :
    ∃ path ∈ paths, s.present path = .error f := by
  induction paths with
  | nil => cases h
  | cons path paths ih =>
    have hlater : s.sections paths = .error f →
        ∃ p ∈ path :: paths, s.present p = .error f := by
      intro h
      obtain ⟨p, hp, hfails⟩ := ih h
      exact ⟨p, List.mem_cons_of_mem path hp, hfails⟩
    rcases bind_eq_error_iff.mp h with hfails | ⟨there, hthere, h⟩
    · exact ⟨path, List.mem_cons_self, hfails⟩
    · cases there with
      | false => exact hlater h
      | true =>
        rcases bind_eq_error_iff.mp h with hfetch | ⟨body, -, h⟩
        · exact absurd hfetch (hrec.fetch_ne (present_eq_ok_iff.mp hthere) f)
        · cases body with
          | error message => exact hlater h
          | ok body =>
            rcases bind_eq_error_iff.mp h with h | ⟨sections, -, h⟩
            · exact hlater h
            · cases h

end Store

/-! ### The parts of a generation -/

namespace Engine

section

variable {e : Engine}

theorem mainFor_eq_some_iff {hint : String} {a : Archetype} :
    e.mainFor hint = .ok (some a) ↔
      Archetype.ofHint? hint = some a ∧ e.store.has a.mainPath = .ok true := by
  unfold mainFor
  cases Archetype.ofHint? hint with
  | none => simp [pure, Except.pure]
  | some b =>
    constructor
    · intro h
      obtain ⟨there, hthere, h⟩ := bind_eq_ok_iff.mp h
      cases there with
      | false => cases h
      | true =>
        cases h
        exact ⟨rfl, Store.present_eq_ok_iff.mp hthere⟩
    · rintro ⟨hb, hthere⟩
      cases hb
      exact bind_eq_ok_iff.mpr ⟨true, Store.present_eq_ok_iff.mpr hthere, rfl⟩

theorem silent_of_mainFor {hint : String} {f : Failure} (h : e.mainFor hint = .error f) :
    e.store.Silent f := by
  unfold mainFor at h
  cases hhint : Archetype.ofHint? hint with
  | none =>
    rw [hhint] at h
    cases h
  | some a =>
    rw [hhint] at h
    rcases bind_eq_error_iff.mp h with h | ⟨there, -, h⟩
    · exact Store.silent_of_present h
    · cases there <;> cases h

theorem silent_of_chosenBody {a : Archetype} {selection : Option Selection} {f : Failure}
    (h : e.chosenBody a selection = .error f) : e.store.Silent f := by
  cases selection with
  | none => cases h
  | some s =>
    rcases bind_eq_error_iff.mp h with h | ⟨there, -, h⟩
    · exact Store.silent_of_present h
    · cases there <;> cases h

/-- Only a body that is there is chosen. -/
theorem has_of_chosenBody {a : Archetype} {selection : Option Selection}
    {templateId path : String} (hmain : e.store.has a.mainPath = .ok true)
    (h : e.chosenBody a selection = .ok (templateId, path)) : e.store.has path = .ok true := by
  cases selection with
  | none =>
    cases h
    exact hmain
  | some s =>
    obtain ⟨there, hthere, h⟩ := bind_eq_ok_iff.mp h
    cases there with
    | true =>
      cases h
      exact Store.present_eq_ok_iff.mp hthere
    | false =>
      cases h
      exact hmain

theorem valuesFor_error {body : String} {values : Fields} {f : Failure}
    (hrec : e.store.Recoverable) (h : e.valuesFor body values = .error f) :
    ∃ path ∈ e.settings.baseFiles, e.store.present path = .error f := by
  unfold valuesFor at h
  split at h
  · rcases bind_eq_error_iff.mp h with h | ⟨content, -, h⟩
    · rcases bind_eq_error_iff.mp h with h | ⟨sections, -, h⟩
      · exact hrec.exists_of_sections h
      · cases h
    · cases h
  · cases h

/-- Base guidance changes no other value. -/
theorem get_valuesFor {body name : String} {values values' : Fields}
    (h : e.valuesFor body values = .ok values') (hname : name ≠ "base_content") :
    values'.get name = values.get name := by
  unfold valuesFor at h
  split at h
  · obtain ⟨content, -, h⟩ := bind_eq_ok_iff.mp h
    cases h
    rw [Fields.get, Fields.get, Fields.get?_put_of_ne _ _ hname]
  · cases h
    rfl

/-- Base guidance holds no number. -/
theorem spelt_valuesFor {body : String} {values values' : Fields}
    (h : e.valuesFor body values = .ok values') (hspelt : values.Spelt) : values'.Spelt := by
  unfold valuesFor at h
  split at h
  · obtain ⟨content, -, h⟩ := bind_eq_ok_iff.mp h
    cases h
    exact hspelt.put _ (Value.spelt_text content)
  · cases h
    exact hspelt

/-- Where every base file can be told to be there or not, there are values to render with. -/
theorem exists_valuesFor (hrec : e.store.Recoverable)
    (hbase : ∀ path ∈ e.settings.baseFiles, ∃ there, e.store.has path = .ok there)
    (body : String) (values : Fields) : ∃ values', e.valuesFor body values = .ok values' := by
  cases hvalues : e.valuesFor body values with
  | ok values' => exact ⟨values', rfl⟩
  | error f =>
    obtain ⟨path, hpath, hfails⟩ := valuesFor_error hrec hvalues
    obtain ⟨there, hthere⟩ := hbase path hpath
    rw [Store.present_eq_ok_iff.mpr hthere] at hfails
    cases hfails

/-- The body at a path is read and parses. -/
def Parses (e : Engine) (path : String) : Prop :=
  ∃ body nodes, e.store.read path = .ok body ∧ Template.parse body = .ok nodes

variable [Host]

theorem rendered_error {a : Archetype} {templateId path : String} {values : Fields} {f : Failure}
    (hrec : e.store.Recoverable) (hthere : e.store.has path = .ok true)
    (h : e.rendered a templateId path values = .error f) :
    e.store.Silent f ∨ e.Parses path ∧ (Unscorable values f ∨ Overlong values f) := by
  rcases bind_eq_error_iff.mp h with h | ⟨body, hbody, h⟩
  · exact absurd h (hrec.fetch_ne hthere f)
  · cases body with
    | error message => cases h
    | ok body =>
      rcases bind_eq_error_iff.mp h with h | ⟨values', hvalues, h⟩
      · obtain ⟨path, -, hfails⟩ := valuesFor_error hrec h
        exact .inl (Store.silent_of_present hfails)
      · unfold Template.render at h
        cases hnodes : Template.parse body with
        | error fault =>
          rw [hnodes] at h
          cases h
        | ok nodes =>
          rw [hnodes] at h
          refine .inr ⟨⟨body, nodes, Store.fetch_eq_body_iff.mp hbody, hnodes⟩, ?_⟩
          have hgiven : Unscorable values' f ∨ Overlong values' f := by
            rcases bind_eq_error_iff.mp h with h | ⟨-, -, h⟩
            · exact .inr (overlong_of_shown h)
            · exact described_error h
          rcases hgiven with hunscorable | hlong
          · exact .inl (hunscorable.congr (get_valuesFor hvalues (by decide)).symm
              (get_valuesFor hvalues (by decide)).symm)
          · exact .inr (hlong.imp_left fun hnot hspelt => hnot (spelt_valuesFor hvalues hspelt))

theorem rendered_eq_error {a : Archetype} {templateId path : String} {values : Fields}
    {f : Failure} (hrec : e.store.Recoverable)
    (hbase : ∀ path ∈ e.settings.baseFiles, ∃ there, e.store.has path = .ok there)
    (hparses : e.Parses path) (hspelt : values.Spelt) (h : Unscorable values f) :
    e.rendered a templateId path values = .error f := by
  obtain ⟨body, nodes, hbody, hnodes⟩ := hparses
  obtain ⟨values', hvalues⟩ := exists_valuesFor hrec hbase body values
  have hunscorable := h.congr (get_valuesFor hvalues (by decide))
    (get_valuesFor hvalues (by decide))
  have hspelt' := spelt_valuesFor hvalues hspelt
  refine bind_eq_error_iff.mpr (.inr ⟨_, Store.fetch_eq_body_iff.mpr hbody, ?_⟩)
  refine bind_eq_error_iff.mpr (.inr ⟨_, hvalues, ?_⟩)
  rw [Template.render, hnodes]
  refine bind_eq_error_iff.mpr (.inr ⟨_, Template.write_shown hspelt' body, ?_⟩)
  exact (described_error_iff hspelt').mpr hunscorable

/-- A prompt is rendered: the hint names an archetype whose main body is there, and the body chosen
for the request is read and parses. -/
def Renders (e : Engine) (hint : String) (selection : Option Selection) : Prop :=
  ∃ a templateId path, Archetype.ofHint? hint = some a ∧ e.store.has a.mainPath = .ok true ∧
    e.chosenBody a selection = .ok (templateId, path) ∧ e.Parses path

theorem answer_error {hint : String} {values : Fields} {selection : Option Selection} {f : Failure}
    (hrec : e.store.Recoverable) (h : e.answer hint values selection = .error f) :
    e.store.Silent f ∨ e.Renders hint selection ∧ (Unscorable values f ∨ Overlong values f) := by
  rcases bind_eq_error_iff.mp h with h | ⟨main, hmain, h⟩
  · exact .inl (silent_of_mainFor h)
  · cases main with
    | none => cases h
    | some a =>
      obtain ⟨hhint, hthere⟩ := mainFor_eq_some_iff.mp hmain
      rcases bind_eq_error_iff.mp h with h | ⟨⟨templateId, path⟩, hchosen, h⟩
      · exact .inl (silent_of_chosenBody h)
      · rcases rendered_error hrec (has_of_chosenBody hthere hchosen) h with hsilent | ⟨hp, hu⟩
        · exact .inl hsilent
        · exact .inr ⟨⟨a, templateId, path, hhint, hthere, hchosen, hp⟩, hu⟩

theorem answer_eq_error {hint : String} {values : Fields} {selection : Option Selection}
    {f : Failure} (hrec : e.store.Recoverable)
    (hbase : ∀ path ∈ e.settings.baseFiles, ∃ there, e.store.has path = .ok there)
    (hrenders : e.Renders hint selection) (hspelt : values.Spelt) (h : Unscorable values f) :
    e.answer hint values selection = .error f := by
  obtain ⟨a, templateId, path, hhint, hthere, hchosen, hparses⟩ := hrenders
  refine bind_eq_error_iff.mpr (.inr ⟨_, mainFor_eq_some_iff.mpr ⟨hhint, hthere⟩, ?_⟩)
  refine bind_eq_error_iff.mpr (.inr ⟨_, hchosen, ?_⟩)
  exact rendered_eq_error hrec hbase hparses hspelt h

/-- A failure that escapes a generation is that of a store that cannot tell whether a body is there,
or the body is read and parses and the prompt cannot be scored or holds too long a number, or it is
the console's complaint about a note. A note that is refused does end the generation; and if every
note is taken, values that cannot be scored end it with their failure, unless the store fails to
tell of a base file before. -/
theorem generate_escapes [Console] (he : e.cache = []) (steps : List Step)
    (hrec : (e.after steps).store.Recoverable) (hint : String) (values : Fields)
    (selection : Option Selection) (f : Failure) :
    let e' := e.after steps
    let run := (generate hint values selection).start e'
    (run.1 = .error f →
      e'.store.Silent f ∨
        e'.Renders hint selection ∧ (Unscorable values f ∨ Overlong values f) ∨
        ∃ message, f = .markup message ∧ Refused run.2 message) ∧
      (¬Heard run.2 → ∃ message, run.1 = .error (.markup message) ∧ Refused run.2 message) ∧
      (Heard run.2 → (∀ path ∈ e'.settings.baseFiles, ∃ there, e'.store.has path = .ok there) →
        e'.Renders hint selection → values.Spelt → Unscorable values f → run.1 = .error f) := by
  intro e' run
  have hcases := Act.start_cases (heeds_generate hint values selection) e'
  have hstart (hheard : Heard run.2) : run.1 = e'.answer hint values selection :=
    generate_start_of_heard (sound_after he steps) hrec hheard
  refine ⟨?_, ?_, ?_⟩
  · intro hrun
    rcases hcases with ⟨-, hheard⟩ | ⟨message, hmarkup, hrefused⟩
    · rw [hstart hheard] at hrun
      exact (answer_error hrec hrun).imp_right .inl
    · rw [hrun] at hmarkup
      exact .inr (.inr ⟨message, Except.error.inj hmarkup, hrefused⟩)
  · intro hnot
    rcases hcases with ⟨-, hheard⟩ | hrefused
    · exact absurd hheard hnot
    · exact hrefused
  · intro hheard hbase hrenders hspelt h
    exact (hstart hheard).trans (answer_eq_error hrec hbase hrenders hspelt h)

end

attribute [local instance] Console.quiet Host.plain

theorem recoverable_serving (body : String) : (serving body).store.Recoverable := by
  apply Store.recoverable_of_reasons
  intro p hp
  obtain rfl := List.mem_singleton.mp hp
  exact ⟨"disk error", rfl⟩

/-- The second feature is no text, which is found out when the prompt is there. -/
theorem generate_escapes_features :
    let body := "{{base_content}}"
    let e := (serving body).after [.list]
    let values : Fields := [("detected_features", .list [.text "auth", .int 1])]
    (serving body).cache = [] ∧ e.store.Recoverable ∧
      (∀ path ∈ e.settings.baseFiles, ∃ there, e.store.has path = .ok there) ∧
      e.Renders " SaaS" (some (request "blog" [])) ∧ values.Spelt ∧
      ((generate " SaaS" values (some (request "blog" []))).start e).1 =
        .error (.invalid "RenderMetadata" [⟨["detected_features", "1"], .stringType⟩]) := by
  intro body e values
  have hrec : e.store.Recoverable := recoverable_serving body
  have hbase : ∀ path ∈ e.settings.baseFiles, ∃ there, e.store.has path = .ok there :=
    fun path _ => ⟨_, rfl⟩
  have hhint : Archetype.ofHint? " SaaS" = some .saas := by cbv
  have hnodes : Template.parse body = .ok [.variable "base_content"] := by cbv
  have hrenders : e.Renders " SaaS" (some (request "blog" [])) :=
    ⟨.saas, "saas-main", "saas/main-prompt.md", hhint, rfl, rfl, body, _, rfl, hnodes⟩
  have hspelt : values.Spelt := by
    refine List.forall_mem_singleton.mpr (Value.spelt_list.mpr ?_)
    rw [List.forall_mem_cons, List.forall_mem_singleton]
    exact ⟨Value.spelt_text "auth", Value.spelt_int (by decide)⟩
  have hstack : ¬StackIsNumber values := fun h => Bool.false_ne_true h.1
  have hunscorable : Unscorable values
      (.invalid "RenderMetadata" [⟨["detected_features", "1"], .stringType⟩]) :=
    .features hstack (List.cons_ne_nil _ _)
  exact ⟨rfl, hrec, hbase, hrenders, hspelt,
    (generate_escapes rfl [.list] hrec _ _ _ _).2.2 (heard_quiet _) hbase hrenders hspelt
      hunscorable⟩

/-- Technologies given as a number end a generation whose store never fails for good. -/
theorem generate_escapes_number :
    (serving "Hi").store.Recoverable ∧
      ((generate "saas" [("tech_stack", .int 5)] none).start (serving "Hi")).1 =
        .error (.notIterable "int") := by
  have hrec := recoverable_serving "Hi"
  have hnodes : Template.parse "Hi" = .ok [.literal "Hi"] := by cbv
  have hrenders : (serving "Hi").Renders "saas" none :=
    ⟨.saas, "saas-main", "saas/main-prompt.md", by cbv, rfl, rfl, "Hi", _, rfl, hnodes⟩
  have hspelt : Fields.Spelt [("tech_stack", .int 5)] :=
    List.forall_mem_singleton.mpr (Value.spelt_int (by decide))
  refine ⟨hrec, ?_⟩
  rw [generate_start (sound_of_cache_eq_nil rfl) hrec]
  exact answer_eq_error hrec (fun path _ => ⟨_, rfl⟩) hrenders hspelt (.stack ⟨rfl, rfl⟩)

end Engine

end Promptsmith
