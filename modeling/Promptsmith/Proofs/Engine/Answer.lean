import Promptsmith.Proofs.Engine.History

/-!
# What a generation answers

Neither the descriptors that an engine makes nor the feedback it learns on the way tell in a
rendering. So the end of a generation can be told from the engine it starts from: `Engine.answer` is
the rendering, or the failure that escapes, as a function of what the store holds, of the settings
and of the variants. On a quiet console every operation on the way gives its part of it.
-/
namespace Promptsmith

attribute [local instance] Console.quiet

namespace Store

/-- Whether a body is there, or the failure to find out. -/
def present (s : Store) (path : String) : Except Failure Bool :=
  match s.has path with
  | .ok there => .ok there
  | .error e => .error (.file e)

theorem present_eq_ok_iff {s : Store} {path : String} {there : Bool} :
    s.present path = .ok there ↔ s.has path = .ok there := by
  unfold present
  cases s.has path <;> simp

/-- A body or the reason why it cannot be read, or a failure that ends the operation. -/
def fetch (s : Store) (path : String) : Except Failure (Except String String) :=
  match s.read path with
  | .ok body => .ok (.ok body)
  | .error (.reason message) => .ok (.error message)
  | .error (.fatal f) => .error f

/-- The bodies at some paths, without those that are missing or cannot be read. -/
def sections (s : Store) : List String → Except Failure (List String)
  | [] => pure []
  | path :: paths => do
    if ← s.present path then
      match ← s.fetch path with
      | .ok body => return body :: (← s.sections paths)
      | .error _ => s.sections paths
    else s.sections paths

end Store

namespace Engine

/-- The variant that a request for an archetype is answered with, if its body is there. -/
def variantFor (e : Engine) (a : Archetype) (s : Selection) : Variant :=
  e.catalog.select { s with intent := { s.intent with archetype := a.name } }

/-- The id and the path of the body that a request is answered from. -/
def chosenBody (e : Engine) (a : Archetype) : Option Selection → Except Failure (String × String)
  | none => pure (a.mainId, a.mainPath)
  | some s => do
    if ← e.store.present (e.variantFor a s).bodyPath then
      return ((e.variantFor a s).id, (e.variantFor a s).bodyPath)
    else return (a.mainId, a.mainPath)

/-- The base guidance. -/
def guidance (e : Engine) : Except Failure String := do
  return String.intercalate baseSeparator (← e.store.sections e.settings.baseFiles)

/-- The values that a body is rendered with. -/
def valuesFor (e : Engine) (body : String) (values : Fields) : Except Failure Fields := do
  if "base_content" ∈ Template.scanNames body ∧ !values.has "base_content" then
    return values.put "base_content" (.text (← e.guidance))
  else return values

def refusal (e : Engine) (archetype message templateId : String) : Rendering where
  outcome := .error message
  metadata := {
    archetype
    detectedFeatures := []
    confidence := 0
    templateId
    generatedAt := e.settings.clock.now }

variable [Host]

/-- A prompt with its score and features. -/
def described (e : Engine) (a : Archetype) (templateId prompt : String) (values : Fields) :
    Except Failure Rendering := do
  let confidence ← scored values
  let features ←
    ((Check.texts (.list (featureItems values))).under "detected_features").toExcept
      "RenderMetadata"
  return {
    outcome := .prompt prompt
    metadata := {
      archetype := a.name
      detectedFeatures := features
      confidence
      templateId
      generatedAt := e.settings.clock.now } }

/-- What the body at a path is rendered to. -/
def rendered (e : Engine) (a : Archetype) (templateId path : String) (values : Fields) :
    Except Failure Rendering := do
  match ← e.store.fetch path with
  | .error message => return e.refusal a.name message "error"
  | .ok body =>
    let values ← e.valuesFor body values
    match Template.render body values with
    | .error fault => return e.refusal a.name fault.message "error"
    | .ok prompt =>
      Host.write (Template.shown body values)
      e.described a templateId prompt values

/-- The main body that a hint names, if it is there. -/
def mainFor (e : Engine) (hint : String) : Except Failure (Option Archetype) :=
  match Archetype.ofHint? hint with
  | none => pure none
  | some a => do
    if ← e.store.present a.mainPath then return some a else return none

/-- How a generation ends. -/
def answer (e : Engine) (hint : String) (values : Fields) (selection : Option Selection) :
    Except Failure Rendering := do
  match ← e.mainFor hint with
  | none =>
    return e.refusal (Text.lowered (Text.trimmed hint)) (unknownMessage hint) "none"
  | some a =>
    let (templateId, path) ← e.chosenBody a selection
    e.rendered a templateId path values

omit [Host]

/-- From `e` on, at most descriptors were made and feedback was learnt. -/
structure Since (e f : Engine) : Prop where
  store : f.store = e.store
  settings : f.settings = e.settings
  catalog : f.catalog.SameButWeights e.catalog
  sound : f.Sound

theorem Since.refl {e : Engine} (h : e.Sound) : e.Since e :=
  ⟨rfl, rfl, .refl e.catalog, h⟩

theorem Since.learn {e f : Engine} (h : e.Since f) (fs : List Feedback) :
    e.Since { f with catalog := f.catalog.learn fs } :=
  ⟨h.store, h.settings, (f.catalog.sameButWeights_learn fs).trans h.catalog, h.sound⟩

/-- The variant chosen is the same since, its weight aside. -/
theorem Since.variantFor {e f : Engine} (h : e.Since f) (a : Archetype) (s : Selection) :
    (f.variantFor a s).unweighted = (e.variantFor a s).unweighted :=
  h.catalog.select rfl rfl rfl

end Engine

namespace Act

variable {α β : Type} {e : Engine}

/-- Run since `e`, the operation ends as told. -/
structure Gives (e : Engine) (act : Act α) (x : Except Failure α) : Prop where
  run : ∀ s : Session, e.Since s.engine →
    match act s with
    | .ok a t => e.Since t.engine ∧ x = .ok a
    | .error f _ => x = .error f

theorem Gives.pure (a : α) : Gives e (pure a) (pure a) := ⟨fun _ hs => ⟨hs, rfl⟩⟩

theorem Gives.throw (f : Failure) : Gives e (throw f : Act α) (.error f) := ⟨fun _ _ => rfl⟩

theorem Gives.bind {act : Act α} {next : α → Act β} {x : Except Failure α}
    {y : α → Except Failure β} (h : Gives e act x)
    (hnext : ∀ a, x = .ok a → Gives e (next a) (y a)) : Gives e (act >>= next) (x >>= y) := by
  constructor
  intro s hs
  have hrun := h.run s hs
  cases hact : act s with
  | ok a t =>
    rw [hact] at hrun
    obtain ⟨ht, rfl⟩ := hrun
    rw [EStateM.bind_ok hact]
    exact (hnext a rfl).run t ht
  | error f t =>
    rw [hact] at hrun
    subst hrun
    rw [EStateM.bind_error hact]
    rfl

/-- What leaves an answer open does not tell in it. -/
theorem Gives.after {act : Act Unit} {next : Unit → Act α} {x : Except Failure α}
    (h : Gives e act (.ok ())) (hnext : Gives e (next ()) x) : Gives e (act >>= next) x :=
  .bind (y := fun _ => x) h fun _ _ => hnext

/-- The engine that an operation asks for may be any since. -/
theorem Gives.engine {next : Engine → Act α} {x : Except Failure α}
    (h : ∀ f, e.Since f → Gives e (next f) x) : Gives e (engine >>= next) x :=
  ⟨fun s hs => (h s.engine hs).run s hs⟩

theorem gives_note (text : String) : Gives e (note text) (.ok ()) :=
  ⟨fun _ hs => ⟨hs, rfl⟩⟩

theorem gives_ofExcept (x : Except Failure α) : Gives e (ofExcept x) x := by
  cases x with
  | ok a => exact .pure a
  | error f => exact .throw f

theorem gives_has (path : String) : Gives e (has path) (e.store.present path) := by
  refine .engine ?_
  intro f hf
  rw [hf.store]
  unfold Store.present
  cases e.store.has path with
  | ok there => exact .pure there
  | error fault => exact .throw (.file fault)

theorem gives_readBody (path : String) : Gives e (readBody path) (e.store.fetch path) := by
  constructor
  intro s hs
  rw [readBody_run, hs.store]
  unfold Store.fetch
  cases e.store.read path with
  | ok body => exact ⟨hs, rfl⟩
  | error fault =>
    cases fault with
    | reason message => exact ⟨hs, rfl⟩
    | fatal f => rfl

/-- Whatever names a descriptor declares, it is one of its archetype. -/
theorem Gives.descriptor {a : Archetype} {next : Descriptor → Act α} {x : Except Failure α}
    (hthere : e.store.has a.mainPath = .ok true) (hrec : e.store.Recoverable)
    (h : ∀ names, Gives e (next (a.describe names)) x) :
    Gives e (Registry.descriptor a >>= next) x := by
  constructor
  intro s hs
  rw [← hs.store] at hthere hrec
  obtain ⟨names, t, hrun, cache, ht, hsound⟩ := Registry.descriptor_run hs.sound hthere hrec
  rw [EStateM.bind_ok hrun]
  refine (h names).run t ?_
  rw [ht] at hsound ⊢
  exact ⟨hs.store, hs.settings, hs.catalog, hsound⟩

theorem Gives.lookup {hint : String} {next : Option (Archetype × Descriptor) → Act α}
    {y : Option Archetype → Except Failure α} (hrec : e.store.Recoverable)
    (hnone : Gives e (next none) (y none))
    (hsome : ∀ a names, Gives e (next (some (a, a.describe names))) (y (some a))) :
    Gives e (Registry.lookup hint >>= next) (e.mainFor hint >>= y) := by
  unfold Registry.lookup Engine.mainFor
  cases Archetype.ofHint? hint with
  | none => exact hnone
  | some a =>
    dsimp only
    rw [bind_assoc, bind_assoc]
    refine .bind (gives_has a.mainPath) ?_
    intro there hthere
    cases there with
    | false => exact hnone
    | true =>
      rw [if_pos rfl, if_pos rfl, bind_assoc]
      exact .descriptor (Store.present_eq_ok_iff.mp hthere) hrec fun names => hsome a names

theorem Gives.start {act : Act α} {x : Except Failure α} (h : Gives e act x) (he : e.Sound) :
    (act.start e).1 = x := by
  have hrun := h.run (.start e) (.refl he)
  unfold Act.start
  cases hact : act (.start e) with
  | ok a t =>
    rw [hact] at hrun
    exact hrun.2.symm
  | error f t =>
    rw [hact] at hrun
    exact hrun.symm

end Act

namespace Engine

open Act

variable {e : Engine}

theorem gives_learn (fs : List Feedback) : Gives e (learn fs) (.ok ()) := by
  constructor
  intro s hs
  obtain ⟨t, hrun, ht⟩ := learn_run fs s
  rw [hrun]
  refine ⟨?_, rfl⟩
  rw [ht]
  exact hs.learn fs

theorem gives_resolveBody (a : Archetype) (names : List String) (selection : Option Selection) :
    Gives e (resolveBody (a.describe names) selection) (e.chosenBody a selection) := by
  cases selection with
  | none => exact .pure _
  | some s =>
    refine .after (gives_learn s.feedback) ?_
    refine .engine ?_
    intro f hf
    have hid := Variant.id_of_unweighted (hf.variantFor a s)
    have hpath := Variant.bodyPath_of_unweighted (hf.variantFor a s)
    unfold variantFor at hid hpath
    dsimp only [Archetype.describe]
    rw [hid, hpath]
    refine .bind (gives_has _) ?_
    intro there _
    cases there with
    | true => exact .pure _
    | false => exact .after (gives_note _) (.pure _)

theorem gives_failed (archetype message templateId : String) :
    Gives e (failed archetype message templateId)
      (pure (e.refusal archetype message templateId)) := by
  refine .engine ?_
  intro f hf
  rw [hf.settings]
  exact .pure _

theorem gives_baseSections (paths : List String) :
    Gives e (baseSections paths) (e.store.sections paths) := by
  induction paths with
  | nil => exact .pure []
  | cons path paths ih =>
    refine .bind (gives_has path) ?_
    intro there _
    cases there with
    | false => exact ih
    | true =>
      refine .bind (gives_readBody path) ?_
      intro body _
      cases body with
      | error message => exact .after (gives_note _) ih
      | ok body => exact .bind ih fun sections _ => .pure (body :: sections)

theorem gives_baseContent : Gives e baseContent e.guidance := by
  refine .engine ?_
  intro f hf
  rw [hf.settings]
  exact .bind (gives_baseSections _) fun sections _ => .pure _

theorem gives_withBase (body : String) (values : Fields) :
    Gives e (withBase body values) (e.valuesFor body values) := by
  unfold withBase valuesFor
  split
  · exact .bind gives_baseContent fun content _ => .pure _
  · exact .pure values

variable [Host]

theorem gives_succeeded (a : Archetype) (names : List String) (templateId prompt : String)
    (values : Fields) :
    Gives e (succeeded (a.describe names) templateId prompt values)
      (e.described a templateId prompt values) := by
  refine .after (gives_note _) ?_
  refine .bind (gives_ofExcept _) ?_
  intro confidence _
  refine .bind (gives_ofExcept _) ?_
  intro features _
  refine .engine ?_
  intro f hf
  rw [hf.settings]
  exact .pure _

theorem gives_renderBody (a : Archetype) (names : List String) (templateId path : String)
    (values : Fields) :
    Gives e (renderBody (a.describe names) templateId path values)
      (e.rendered a templateId path values) := by
  refine .bind (gives_readBody path) ?_
  intro body _
  cases body with
  | error message => exact .after (gives_note _) (gives_failed _ _ _)
  | ok body =>
    refine .bind (gives_withBase body values) ?_
    intro values _
    cases Template.render body values with
    | error fault => exact .after (gives_note _) (gives_failed _ _ _)
    | ok prompt => exact .bind (gives_ofExcept _) fun _ _ => gives_succeeded _ _ _ _ _

theorem gives_generate (hrec : e.store.Recoverable) (hint : String) (values : Fields)
    (selection : Option Selection) :
    Gives e (generate hint values selection) (e.answer hint values selection) := by
  refine .lookup hrec ?_ ?_
  · exact gives_failed _ _ _
  · intro a names
    refine .bind (gives_resolveBody a names selection) ?_
    intro chosen _
    exact gives_renderBody a names chosen.1 chosen.2 values

/-- On a quiet console a generation ends as the engine it starts from tells. -/
theorem generate_start (he : e.Sound) (hrec : e.store.Recoverable) (hint : String)
    (values : Fields) (selection : Option Selection) :
    ((generate hint values selection).start e).1 = e.answer hint values selection :=
  (gives_generate hrec hint values selection).start he

/-- So it does on any console that takes what is noted. -/
theorem generate_start_of_heard [Console] (he : e.Sound) (hrec : e.store.Recoverable)
    {hint : String} {values : Fields} {selection : Option Selection}
    (hheard : Heard ((generate hint values selection).start e).2) :
    ((generate hint values selection).start e).1 = e.answer hint values selection := by
  rw [start_eq_of_heard (heeds_generate hint values selection) hheard, generate_start he hrec]

end Engine

end Promptsmith
