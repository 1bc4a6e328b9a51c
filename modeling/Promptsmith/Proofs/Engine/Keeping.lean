import Promptsmith.Engine.Generate
import Promptsmith.Proofs.Host.Heeding

/-!
# What operations keep

An operation may fail on the way, and then what it did before stays. So an invariant of engines is
kept by an operation when it holds at the end of every run, failed or not. Looking up, listing,
previewing and generating change an engine in two ways only: they add a descriptor made for its
archetype, and they learn feedback.
-/
namespace Promptsmith

variable {α β : Type}

namespace Act

theorem engine_run (s : Session) : engine s = .ok s.engine s := rfl

theorem has_run (path : String) (s : Session) :
    has path s =
      match s.engine.store.has path with
      | .ok b => .ok b s
      | .error e => .error (.file e) s := by
  have hrun : has path s = _ := EStateM.bind_ok (engine_run s)
  rw [hrun]
  cases s.engine.store.has path <;> rfl

theorem readBody_run (path : String) (s : Session) :
    readBody path s =
      match s.engine.store.read path with
      | .ok body => .ok (.ok body) { s with reads := s.reads ++ [path] }
      | .error (.reason message) => .ok (.error message) { s with reads := s.reads ++ [path] }
      | .error (.fatal f) => .error f { s with reads := s.reads ++ [path] } := by
  have hlog : (modify fun s => { s with reads := s.reads ++ [path] } : Act Unit) s =
      .ok () { s with reads := s.reads ++ [path] } := rfl
  have hrun : readBody path s = _ := EStateM.bind_ok hlog
  rw [hrun, EStateM.bind_ok (engine_run _)]
  dsimp only
  match s.engine.store.read path with
  | .ok body => rfl
  | .error (.reason message) => rfl
  | .error (.fatal f) => rfl

/-- The invariant holds of the engine after every run, failed or not, and `Q` of the result. -/
structure Keeps (I : Engine → Prop) (Q : α → Prop) (act : Act α) : Prop where
  run : ∀ s : Session, I s.engine →
    match act s with
    | .ok a t => I t.engine ∧ Q a
    | .error _ t => I t.engine

/-- Every result will do. -/
abbrev Any : α → Prop := fun _ => True

theorem Keeps.pure {I : Engine → Prop} {Q : α → Prop} {a : α} (h : Q a) :
    Keeps I Q (pure a : Act α) := ⟨fun _ hs => ⟨hs, h⟩⟩

theorem Keeps.throw {I : Engine → Prop} {Q : α → Prop} (f : Failure) :
    Keeps I Q (throw f : Act α) := ⟨fun _ hs => hs⟩

theorem Keeps.bind {I : Engine → Prop} {Q : α → Prop} {R : β → Prop} {act : Act α}
    {next : α → Act β} (h : Keeps I Q act) (hnext : ∀ a, Q a → Keeps I R (next a)) :
    Keeps I R (act >>= next) := by
  constructor
  intro s hs
  have hrun := h.run s hs
  cases hact : act s with
  | ok a t =>
    rw [hact] at hrun
    rw [EStateM.bind_ok hact]
    exact (hnext a hrun.2).run t hrun.1
  | error f t =>
    rw [hact] at hrun
    rw [EStateM.bind_error hact]
    exact hrun

section

variable {I : Engine → Prop}

theorem keeps_engine : Keeps I I engine := ⟨fun _ hs => ⟨hs, hs⟩⟩

theorem keeps_setEngine {e : Engine} (h : I e) : Keeps I Any (setEngine e) :=
  ⟨fun _ _ => ⟨h, trivial⟩⟩

theorem keeps_note [Console] (text : String) : Keeps I Any (note text) := by
  refine .bind (Q := Any) ⟨fun _ hs => ⟨hs, trivial⟩⟩ ?_
  intro _ _
  cases Console.refusal? text with
  | none => exact .pure trivial
  | some message => exact .throw (.markup message)

theorem keeps_ofExcept (x : Except Failure α) : Keeps I Any (ofExcept x) := by
  cases x with
  | ok a => exact .pure trivial
  | error f => exact .throw f

theorem keeps_has (path : String) : Keeps I Any (has path) := by
  refine .bind keeps_engine ?_
  intro e _
  cases e.store.has path with
  | ok b => exact .pure trivial
  | error f => exact .throw (.file f)

theorem keeps_readBody (path : String) : Keeps I Any (readBody path) := by
  refine .bind (Q := Any) ⟨fun _ hs => ⟨hs, trivial⟩⟩ ?_
  intro _ _
  refine .bind keeps_engine ?_
  intro e _
  cases e.store.read path with
  | ok body => exact .pure trivial
  | error fault =>
    cases fault with
    | reason message => exact .pure trivial
    | fatal f => exact .throw f

theorem keeps_forM {f : α → Act Unit} (h : ∀ a, Keeps I Any (f a)) (xs : List α) :
    Keeps I Any (xs.forM f) := by
  induction xs with
  | nil => exact .pure trivial
  | cons x xs ih => exact .bind (h x) fun _ _ => ih

theorem keeps_mapM {f : α → Act β} (h : ∀ a, Keeps I Any (f a)) (xs : List α) :
    Keeps I Any (xs.mapM f) := by
  induction xs with
  | nil => exact .pure trivial
  | cons x xs ih =>
    rw [List.mapM_cons]
    exact .bind (h x) fun _ _ => .bind ih fun _ _ => .pure trivial

theorem keeps_readTemplate (path : String) : Keeps I Any (Engine.readTemplate path) := by
  refine .bind (keeps_readBody path) ?_
  intro body _
  cases body with
  | ok body => exact .pure trivial
  | error message => exact .throw _

end

end Act

/-- An invariant that minds neither a descriptor made for its archetype nor feedback learnt. -/
structure Stable (I : Engine → Prop) : Prop where
  cache : ∀ {e a} names, I e → I { e with cache := e.cache ++ [(a, a.describe names)] }
  learn : ∀ {e} fs, I e → I { e with catalog := e.catalog.learn fs }

namespace Stable

open Act

variable {I : Engine → Prop}

theorem keeps_failed (archetype message templateId : String) :
    Keeps I Any (Engine.failed archetype message templateId) :=
  .bind keeps_engine fun _ _ => .pure trivial

variable [Console]

theorem keeps_declared (a : Archetype) : Keeps I Any (Registry.declared a) := by
  refine .bind (keeps_has a.mainPath) ?_
  intro there _
  cases there with
  | false => exact .pure trivial
  | true =>
    refine .bind (keeps_readBody a.mainPath) ?_
    intro body _
    cases body with
    | ok body => exact .pure trivial
    | error message => exact .bind (keeps_note _) fun _ _ => .pure trivial

theorem keeps_descriptor (h : Stable I) (a : Archetype) :
    Keeps I Any (Registry.descriptor a) := by
  refine .bind keeps_engine ?_
  intro e _
  cases e.cache.lookup a with
  | some d => exact .pure trivial
  | none =>
    refine .bind (keeps_declared a) ?_
    intro names _
    refine .bind keeps_engine ?_
    intro e he
    exact .bind (keeps_setEngine (h.cache names he)) fun _ _ => .pure trivial

theorem keeps_list (h : Stable I) : Keeps I Any Registry.list :=
  keeps_mapM h.keeps_descriptor _

theorem keeps_lookup (h : Stable I) (hint : String) : Keeps I Any (Registry.lookup hint) := by
  unfold Registry.lookup
  cases Archetype.ofHint? hint with
  | none => exact .pure trivial
  | some a =>
    refine .bind (keeps_has a.mainPath) ?_
    intro there _
    cases there with
    | false => exact .pure trivial
    | true => exact .bind (h.keeps_descriptor a) fun _ _ => .pure trivial

theorem keeps_learnOne (h : Stable I) (f : Feedback) : Keeps I Any (Engine.learnOne f) := by
  refine .bind keeps_engine ?_
  intro e he
  refine .bind (keeps_setEngine (h.learn [f] he)) ?_
  intro _ _
  split
  · exact keeps_note _
  · exact .pure trivial

theorem keeps_learn (h : Stable I) (fs : List Feedback) : Keeps I Any (Engine.learn fs) :=
  keeps_forM h.keeps_learnOne fs

theorem keeps_resolveBody (h : Stable I) (d : Descriptor) (selection : Option Selection) :
    Keeps I Any (Engine.resolveBody d selection) := by
  cases selection with
  | none => exact .pure trivial
  | some s =>
    refine .bind (h.keeps_learn s.feedback) ?_
    intro _ _
    refine .bind keeps_engine ?_
    intro e _
    refine .bind (keeps_has _) ?_
    intro there _
    cases there with
    | true => exact .pure trivial
    | false => exact .bind (keeps_note _) fun _ _ => .pure trivial

theorem keeps_baseSections (paths : List String) : Keeps I Any (Engine.baseSections paths) := by
  induction paths with
  | nil => exact .pure trivial
  | cons path paths ih =>
    refine .bind (keeps_has path) ?_
    intro there _
    cases there with
    | false => exact ih
    | true =>
      refine .bind (keeps_readBody path) ?_
      intro body _
      cases body with
      | ok body => exact .bind ih fun _ _ => .pure trivial
      | error message => exact .bind (keeps_note _) fun _ _ => ih

theorem keeps_withBase (body : String) (values : Fields) :
    Keeps I Any (Engine.withBase body values) := by
  unfold Engine.withBase
  split
  · have hcontent : Keeps I Any Engine.baseContent :=
      .bind keeps_engine fun _ _ => .bind (keeps_baseSections _) fun _ _ => .pure trivial
    exact .bind hcontent fun _ _ => .pure trivial
  · exact .pure trivial

theorem keeps_succeeded [Host] (d : Descriptor) (templateId prompt : String) (values : Fields) :
    Keeps I Any (Engine.succeeded d templateId prompt values) := by
  refine .bind (keeps_note _) ?_
  intro _ _
  refine .bind (keeps_ofExcept _) ?_
  intro confidence _
  refine .bind (keeps_ofExcept _) ?_
  intro features _
  exact .bind keeps_engine fun _ _ => .pure trivial

theorem keeps_renderBody [Host] (d : Descriptor) (templateId bodyPath : String) (values : Fields) :
    Keeps I Any (Engine.renderBody d templateId bodyPath values) := by
  refine .bind (keeps_readBody bodyPath) ?_
  intro body _
  cases body with
  | error message => exact .bind (keeps_note _) fun _ _ => keeps_failed _ _ _
  | ok body =>
    refine .bind (keeps_withBase body values) ?_
    intro values _
    cases Template.render body values with
    | error e => exact .bind (keeps_note _) fun _ _ => keeps_failed _ _ _
    | ok prompt => exact .bind (keeps_ofExcept _) fun _ _ => keeps_succeeded _ _ _ _

theorem keeps_generate [Host] (h : Stable I) (hint : String) (values : Fields)
    (selection : Option Selection) : Keeps I Any (Engine.generate hint values selection) := by
  refine .bind (h.keeps_lookup hint) ?_
  intro found _
  cases found with
  | none => exact keeps_failed _ _ _
  | some found =>
    refine .bind (h.keeps_resolveBody found.2 selection) ?_
    intro chosen _
    exact keeps_renderBody _ _ _ _

theorem keeps_generateFromDescription [Host] (h : Stable I) (description : String)
    (options : Fields) (feedback : List Feedback) :
    Keeps I Any (Engine.generateFromDescription description options feedback) := by
  refine .bind keeps_engine ?_
  intro e _
  refine .bind (keeps_ofExcept _) ?_
  intro i _
  refine .bind (keeps_ofExcept _) ?_
  intro context _
  refine .bind (keeps_ofExcept _) ?_
  intro selection _
  exact h.keeps_generate _ _ _

theorem keeps_preview (h : Stable I) (hint : String) : Keeps I Any (Engine.preview hint) := by
  refine .bind (h.keeps_lookup hint) ?_
  intro found _
  cases found with
  | none => exact .pure trivial
  | some found =>
    refine .bind (keeps_readBody _) ?_
    intro body _
    cases body with
    | ok body => exact .bind keeps_engine fun _ _ => .pure trivial
    | error message => exact .pure trivial

end Stable

/-- What may be asked of an engine, or be done to the store under it. -/
inductive Step where
  | list
  | lookup (hint : String)
  | preview (hint : String)
  | read (path : String)
  | generate (hint : String) (values : Fields) (selection : Option Selection)
  | describe (description : String) (options : Fields) (feedback : List Feedback)
  | learn (feedback : List Feedback)
  | setWeight (id : String) (weight : Value)
  | register (archetype : String) (v : Variant)
  | share (archetype : String) (i : Nat)
  | changeStore (f : Store → Store)
  | resetRegistry
  | resetCatalog

/-- The operation of a step, its result dropped. -/
def Step.act [Console] [Host] : Step → Act Unit
  | .list => do let _ ← Registry.list
  | .lookup hint => do let _ ← Registry.lookup hint
  | .preview hint => do let _ ← Engine.preview hint
  | .read path => do let _ ← Engine.readTemplate path
  | .generate hint values selection => do let _ ← Engine.generate hint values selection
  | .describe description options feedback => do
    let _ ← Engine.generateFromDescription description options feedback
  | .learn feedback => Engine.learn feedback
  | .setWeight id weight => Engine.setWeight id weight
  | .register archetype v => Engine.register archetype v
  | .share archetype i => Engine.share archetype i
  | .changeStore f => Engine.changeStore f
  | .resetRegistry => Registry.reset
  | .resetCatalog => Engine.resetCatalog

/-- The engine after some steps, each of which may have failed. -/
def Engine.after [Console] [Host] (e : Engine) : List Step → Engine
  | [] => e
  | step :: steps => (step.act.start e).2.engine.after steps

theorem Act.Keeps.start {I : Engine → Prop} {Q : α → Prop} {act : Act α} (h : Keeps I Q act)
    {e : Engine} (he : I e) : I (act.start e).2.engine := by
  have hrun := h.run (.start e) he
  unfold Act.start
  cases hact : act (.start e) with
  | ok a t =>
    rw [hact] at hrun
    exact hrun.1
  | error f t =>
    rw [hact] at hrun
    exact hrun

/-- What each step keeps, any number of steps keeps. -/
theorem Engine.after_induction [Console] [Host] {I : Engine → Prop}
    (hstep : ∀ step : Step, Act.Keeps I Act.Any step.act) {e : Engine} (he : I e)
    (steps : List Step) : I (e.after steps) := by
  induction steps generalizing e with
  | nil => exact he
  | cons step steps ih => exact ih ((hstep step).start he)

/-- An invariant that no step breaks: it minds neither what is in the store nor what is in the
catalog, nor that the descriptors are forgotten. -/
structure Lasting (I : Engine → Prop) : Prop extends Stable I where
  store : ∀ {e} store, I e → I { e with store }
  catalog : ∀ {e} catalog, I e → I { e with catalog }
  forget : ∀ {e}, I e → I { e with cache := [] }

open Act in
theorem Lasting.keeps_act [Console] [Host] {I : Engine → Prop} (h : Lasting I) (step : Step) :
    Keeps I Any step.act := by
  cases step with
  | list => exact .bind h.keeps_list fun _ _ => .pure trivial
  | lookup hint => exact .bind (h.keeps_lookup hint) fun _ _ => .pure trivial
  | preview hint => exact .bind (h.keeps_preview hint) fun _ _ => .pure trivial
  | read path => exact .bind (keeps_readTemplate path) fun _ _ => .pure trivial
  | generate hint values selection =>
    exact .bind (h.keeps_generate hint values selection) fun _ _ => .pure trivial
  | describe description options feedback =>
    exact .bind (h.keeps_generateFromDescription description options feedback)
      fun _ _ => .pure trivial
  | learn feedback => exact h.keeps_learn feedback
  | setWeight id weight =>
    refine .bind keeps_engine ?_
    intro e he
    exact .bind (keeps_ofExcept _) fun catalog _ => keeps_setEngine (h.catalog catalog he)
  | register archetype v => exact .bind keeps_engine fun _ he => keeps_setEngine (h.catalog _ he)
  | share archetype i => exact .bind keeps_engine fun _ he => keeps_setEngine (h.catalog _ he)
  | changeStore f => exact .bind keeps_engine fun _ he => keeps_setEngine (h.store _ he)
  | resetRegistry => exact .bind keeps_engine fun _ he => keeps_setEngine (h.forget he)
  | resetCatalog => exact .bind keeps_engine fun _ he => keeps_setEngine (h.catalog _ he)

/-- Every descriptor kept is one that the registry made for its archetype. -/
def Engine.Sound (e : Engine) : Prop :=
  ∀ a d, (a, d) ∈ e.cache → ∃ names, d = a.describe names

namespace Engine

theorem sound_of_cache_eq_nil {e : Engine} (h : e.cache = []) : e.Sound := by
  intro a d hd
  rw [h] at hd
  cases hd

theorem stable_sound : Stable Sound where
  cache := by
    intro e a names he b d hd
    rcases List.mem_append.mp hd with hd | hd
    · exact he b d hd
    · obtain ⟨rfl, rfl⟩ := Prod.mk.inj (List.mem_singleton.mp hd)
      exact ⟨names, rfl⟩
  learn := fun _ he => he

theorem lasting_sound : Lasting Sound where
  toStable := stable_sound
  store := fun _ he => he
  catalog := fun _ he => he
  forget := fun _ => sound_of_cache_eq_nil rfl

/-- Whatever was asked of an engine, its descriptors are sound. -/
theorem sound_after [Console] [Host] {e : Engine} (h : e.cache = []) (steps : List Step) :
    (e.after steps).Sound :=
  after_induction lasting_sound.keeps_act (sound_of_cache_eq_nil h) steps

end Engine

end Promptsmith
