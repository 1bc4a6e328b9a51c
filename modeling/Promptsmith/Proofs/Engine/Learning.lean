import Promptsmith.Proofs.Catalog.Log
import Promptsmith.Proofs.Engine.Caching

/-!
# When a generation learns

The feedback of a request is learnt just when the look-up of its hint gives a descriptor, before the
body of the request is read. So whether a prompt comes of the request has no say in what the engine
is left with. Without a main body nothing is done at all.
-/
namespace Promptsmith

theorem Variant.unweighted_taught (v : Variant) (fs : List Feedback) :
    (v.taught fs).unweighted = v.unweighted := by
  induction fs generalizing v with
  | nil => rfl
  | cons f fs ih =>
    have hone : (f.teach v).unweighted = v.unweighted := by
      unfold Feedback.teach
      cases f.nudge? with
      | none => rfl
      | some n => by_cases h : v.id = f.variantId <;> simp [h, Variant.unweighted]
    rw [Variant.taught_cons, ih, hone]

namespace Catalog

/-- The variants without what is learnt of them. -/
def unweighted (c : Catalog) : Catalog where
  objects := c.objects.map Variant.unweighted
  groups := c.groups
  listed i hi := by
    rw [List.length_map]
    exact c.listed i hi

/-- Feedback leaves all variants in their places, with all but their weights. -/
theorem unweighted_learn (c : Catalog) (fs : List Feedback) :
    (c.learn fs).unweighted = c.unweighted := by
  refine Catalog.ext (List.ext_getElem? fun i => ?_) (c.groups_learn fs)
  simp only [unweighted, List.getElem?_map, getElem?_learn, Option.map_map, Function.comp_def,
    Variant.unweighted_taught]

/-- What the console has against the note that feedback is ignored, if it is noted. -/
def objection [Console] (c : Catalog) (f : Feedback) : Option String :=
  if c.ignores f then Console.refusal? (ignoredNote f.variantId) else none

/-- Applies feedback item by item until a note is refused. -/
def learnUntil [Console] (c : Catalog) : List Feedback → Catalog
  | [] => c
  | f :: fs =>
    match c.objection f with
    | some _ => c.learnOne f
    | none => (c.learnOne f).learnUntil fs

end Catalog

namespace Act

variable {α β : Type} {act : Act α} {next : α → Act β} {s t : Session}

/-- The session after a run, failed or not. -/
def leaves (act : Act α) (s : Session) : Session :=
  match act s with
  | .ok _ t => t
  | .error _ t => t

theorem start_leaves (act : Act α) (e : Engine) : (act.start e).2 = act.leaves (.start e) := by
  unfold start leaves
  cases act (.start e) <;> rfl

theorem leaves_ok {a : α} (h : act s = .ok a t) : act.leaves s = t := by
  rw [leaves, h]

theorem leaves_error {f : Failure} (h : act s = .error f t) : act.leaves s = t := by
  rw [leaves, h]

theorem leaves_bind_ok {a : α} (h : act s = .ok a t) :
    (act >>= next).leaves s = (next a).leaves t := by
  rw [leaves, EStateM.bind_ok h]
  rfl

theorem Keeps.leaves {I : Engine → Prop} {Q : α → Prop} (h : Keeps I Q act) (hs : I s.engine) :
    I (act.leaves s).engine := by
  have hrun := h.run s hs
  unfold Act.leaves
  cases hact : act s with
  | ok a t =>
    rw [hact] at hrun
    exact hrun.1
  | error f t =>
    rw [hact] at hrun
    exact hrun

/-- What goes on without changing the engine leaves it as it was. -/
theorem engine_leaves_bind (h : ∀ a e, Keeps (· = e) Any (next a)) :
    ((act >>= next).leaves s).engine = (act.leaves s).engine := by
  cases hact : act s with
  | ok a t =>
    rw [leaves_bind_ok hact, leaves_ok hact]
    exact (h a t.engine).leaves rfl
  | error f t => rw [leaves_error (EStateM.bind_error hact), leaves_error hact]

end Act

namespace Engine

open Act

/-- The hint names an archetype, and its main body is there. -/
structure Finds (e : Engine) (hint : String) (a : Archetype) : Prop where
  named : a.name = Text.lowered (Text.trimmed hint)
  main : e.store.has a.mainPath = .ok true

/-- The descriptors with that of an archetype, made from the store if it has none. -/
def cacheWith (e : Engine) (a : Archetype) : List (Archetype × Descriptor) :=
  if (e.cache.lookup a).isSome then e.cache else e.cache ++ [e.store.describe a]

/-- The paths that are read for the descriptor of an archetype whose main body is there. -/
def scanned (e : Engine) (a : Archetype) : List String :=
  if (e.cache.lookup a).isSome then [] else [a.mainPath]

/-- The feedback that comes with a selection; there is none without one. -/
def feedbackOf (selection : Option Selection) : List Feedback :=
  (selection.map Selection.feedback).getD []

variable {e : Engine} {hint : String} {s : Session}

section

attribute [local instance] Console.quiet

theorem descriptor_cached {a : Archetype} (hthere : s.engine.store.has a.mainPath = .ok true)
    (hrec : s.engine.store.Recoverable) :
    ∃ d t, Registry.descriptor a s = .ok d t ∧
      t.engine = { s.engine with cache := s.engine.cacheWith a } ∧
      t.reads = s.reads ++ s.engine.scanned a ∧
      (s.engine.Sound → ∃ names, d = a.describe names) := by
  have hrun : Registry.descriptor a s = _ := EStateM.bind_ok (engine_run s)
  unfold cacheWith scanned
  cases hlookup : s.engine.cache.lookup a with
  | some d =>
    rw [hrun, hlookup]
    refine ⟨d, s, rfl, rfl, (List.append_nil _).symm, ?_⟩
    exact fun hsound => hsound a d (Registry.mem_of_lookup hlookup)
  | none =>
    obtain ⟨t, hdeclared, hengine, hreads⟩ := Registry.declared_eq hthere hrec
    rw [hrun, hlookup]
    dsimp only
    rw [EStateM.bind_ok hdeclared]
    refine ⟨_, _, rfl, ?_, hreads, fun _ => ⟨_, rfl⟩⟩
    dsimp only
    rw [hengine]
    rfl

theorem lookup_found {a : Archetype} (h : e.Finds hint a) (hrec : e.store.Recoverable) :
    ∃ d t, Registry.lookup hint (.start e) = .ok (some (a, d)) t ∧
      t.engine = { e with cache := e.cacheWith a } ∧ t.reads = e.scanned a ∧
      (e.Sound → ∃ names, d = a.describe names) := by
  obtain ⟨d, t, hdescriptor, htold⟩ := @descriptor_cached (.start e) a h.main hrec
  refine ⟨d, t, ?_, htold⟩
  have hhas : has a.mainPath (.start e) = .ok true (.start e) := by
    rw [has_run, Session.start, h.main]
  unfold Registry.lookup
  rw [Archetype.ofHint?_eq_some_iff.mpr h.named]
  dsimp only
  rw [EStateM.bind_ok hhas, if_pos rfl, EStateM.bind_ok hdescriptor]
  rfl

end

theorem stable_unweighted (c : Catalog) : Stable fun e => e.catalog.unweighted = c where
  cache := fun _ he => he
  learn := fun fs he => (Catalog.unweighted_learn _ fs).trans he

section

variable [Console]

/-- A descriptor is made as a whole or not at all. -/
theorem engine_of_descriptor_error {a : Archetype} {f : Failure} {t : Session}
    (h : Registry.descriptor a s = .error f t) : t.engine = s.engine := by
  have hrun : Registry.descriptor a s = _ := EStateM.bind_ok (engine_run s)
  rw [hrun] at h
  cases hlookup : s.engine.cache.lookup a with
  | some d =>
    rw [hlookup] at h
    cases h
  | none =>
    rw [hlookup] at h
    dsimp only at h
    have hkeeps := (Stable.keeps_declared (I := (· = s.engine)) a).run s rfl
    cases hdeclared : Registry.declared a s with
    | ok names u =>
      rw [EStateM.bind_ok hdeclared] at h
      cases h
    | error g u =>
      rw [EStateM.bind_error hdeclared] at h
      rw [hdeclared] at hkeeps
      cases h
      exact hkeeps

theorem engine_of_lookup_error {f : Failure} {t : Session}
    (h : Registry.lookup hint s = .error f t) : t.engine = s.engine := by
  unfold Registry.lookup at h
  cases hhint : Archetype.ofHint? hint with
  | none =>
    rw [hhint] at h
    cases h
  | some a =>
    have hhas := has_run a.mainPath s
    rw [hhint] at h
    dsimp only at h
    cases hthere : s.engine.store.has a.mainPath with
    | error g =>
      rw [hthere] at hhas
      rw [EStateM.bind_error hhas] at h
      cases h
      rfl
    | ok there =>
      rw [hthere] at hhas
      rw [EStateM.bind_ok hhas] at h
      cases there with
      | false => cases h
      | true =>
        rw [if_pos rfl] at h
        cases hdescriptor : Registry.descriptor a s with
        | ok d u =>
          rw [EStateM.bind_ok hdescriptor] at h
          cases h
        | error g u =>
          rw [EStateM.bind_error hdescriptor] at h
          cases h
          exact engine_of_descriptor_error hdescriptor

theorem learnOne_step (f : Feedback) (s : Session) :
    ∃ t, t.engine = { s.engine with catalog := s.engine.catalog.learnOne f } ∧
      learnOne f s =
        match s.engine.catalog.objection f with
        | some message => .error (.markup message) t
        | none => .ok () t := by
  have hset : setEngine { s.engine with catalog := s.engine.catalog.learnOne f } s =
      .ok () { s with engine.catalog := s.engine.catalog.learnOne f } := rfl
  have hrun : learnOne f s = _ := EStateM.bind_ok (engine_run s)
  rw [hrun, EStateM.bind_ok hset]
  unfold Catalog.objection
  by_cases h : s.engine.catalog.ignores f
  · rw [if_pos h, if_pos h, note_run]
    cases Console.refusal? (Catalog.ignoredNote f.variantId) <;> exact ⟨_, rfl, rfl⟩
  · rw [if_neg h, if_neg h]
    exact ⟨_, rfl, rfl⟩

theorem learn_leaves (fs : List Feedback) (s : Session) :
    ((learn fs).leaves s).engine =
      { s.engine with catalog := s.engine.catalog.learnUntil fs } := by
  induction fs generalizing s with
  | nil => rfl
  | cons f fs ih =>
    obtain ⟨t, ht, hone⟩ := learnOne_step f s
    have hlearn : learn (f :: fs) = learnOne f >>= fun _ => learn fs := rfl
    rw [hlearn, Catalog.learnUntil]
    cases hobjection : s.engine.catalog.objection f with
    | some message =>
      rw [hobjection] at hone
      rw [leaves_error (EStateM.bind_error hone), ht]
    | none =>
      rw [hobjection] at hone
      rw [leaves_bind_ok hone, ih, ht]

theorem resolveBody_leaves (d : Descriptor) (selection : Option Selection) (s : Session) :
    ((resolveBody d selection).leaves s).engine =
      { s.engine with catalog := s.engine.catalog.learnUntil (feedbackOf selection) } := by
  cases selection with
  | none => rfl
  | some choice =>
    refine Eq.trans (engine_leaves_bind ?_) (learn_leaves choice.feedback s)
    intro _ e
    refine .bind keeps_engine ?_
    intro _ _
    refine .bind (keeps_has _) ?_
    intro there _
    cases there with
    | true => exact .pure trivial
    | false => exact .bind (keeps_note _) fun _ _ => .pure trivial

variable [Host]

theorem generate_leaves_of_lookup {a : Archetype} {d : Descriptor} {t : Session}
    (hlookup : Registry.lookup hint (.start e) = .ok (some (a, d)) t) (values : Fields)
    (selection : Option Selection) :
    ((generate hint values selection).leaves (.start e)).engine =
      { t.engine with catalog := t.engine.catalog.learnUntil (feedbackOf selection) } := by
  have hrun : (generate hint values selection).leaves (.start e) = _ := leaves_bind_ok hlookup
  rw [hrun]
  refine (engine_leaves_bind ?_).trans ?_
  · intro chosen _
    exact Stable.keeps_renderBody d chosen.1 chosen.2 values
  · rw [resolveBody_leaves]

theorem generate_leaves_of_finds {a : Archetype} (h : e.Finds hint a) (hrec : e.store.Recoverable)
    (hheard : Heard ((Registry.lookup hint).start e).2) (values : Fields)
    (selection : Option Selection) :
    ((generate hint values selection).leaves (.start e)).engine =
      { e with
        cache := e.cacheWith a
        catalog := e.catalog.learnUntil (feedbackOf selection) } := by
  obtain ⟨d, t, hquiet, hengine, -, -⟩ := lookup_found h hrec
  have hlookup := run_eq_of_heard (Registry.heeds_lookup hint) hheard hquiet
  rw [generate_leaves_of_lookup hlookup, hengine]

/-- A look-up whose note is refused ends the generation, and leaves nothing behind. -/
theorem generate_leaves_of_refused (hrefused : ¬Heard ((Registry.lookup hint).start e).2)
    (values : Fields) (selection : Option Selection) :
    ((generate hint values selection).leaves (.start e)).engine = e := by
  rcases start_cases (Registry.heeds_lookup hint) e with ⟨-, hheard⟩ | ⟨message, hmarkup, -⟩
  · exact absurd hheard hrefused
  · cases hlookup : Registry.lookup hint (.start e) with
    | ok found t =>
      rw [start, hlookup] at hmarkup
      cases hmarkup
    | error f t =>
      have hgenerate : generate hint values selection (.start e) = .error f t :=
        EStateM.bind_error hlookup
      rw [leaves_error hgenerate]
      exact engine_of_lookup_error hlookup

theorem generate_leaves_of_not_finds (h : ∀ a, ¬e.Finds hint a) (values : Fields)
    (selection : Option Selection) :
    (generate hint values selection).leaves (.start e) = .start e := by
  have hnone (hlookup : Registry.lookup hint (.start e) = .ok none (.start e)) :
      (generate hint values selection).leaves (.start e) = .start e := leaves_bind_ok hlookup
  cases hhint : Archetype.ofHint? hint with
  | none =>
    refine hnone ?_
    unfold Registry.lookup
    rw [hhint]
    rfl
  | some a =>
    have hhas := has_run a.mainPath (.start e)
    cases hthere : e.store.has a.mainPath with
    | error f =>
      rw [Session.start, hthere] at hhas
      have hlookup : Registry.lookup hint (.start e) = .error (.file f) (.start e) := by
        unfold Registry.lookup
        rw [hhint]
        exact EStateM.bind_error hhas
      exact leaves_error (EStateM.bind_error hlookup)
    | ok there =>
      cases there with
      | true => exact absurd ⟨Archetype.ofHint?_eq_some_iff.mp hhint, hthere⟩ (h a)
      | false =>
        rw [Session.start, hthere] at hhas
        refine hnone ?_
        unfold Registry.lookup
        rw [hhint]
        exact EStateM.bind_ok hhas

/-- If the main body for the hint is there and the console takes what its scan notes, a generation
leaves the engine as learning the feedback once does, with the archetype's descriptor, whatever its
result; if the note of the scan is refused, the engine stays as it was. If there is no main body, a
generation leaves the session as it was, so that nothing is read. Of the variants at most the
weights change, and at most one descriptor is added. -/
theorem generate_learns_once (hrec : e.store.Recoverable) (hint : String) (values : Fields)
    (selection : Option Selection) :
    let after := ((generate hint values selection).start e).2
    let learnt := ((learn (feedbackOf selection)).start e).2.engine
    (∀ a, e.Finds hint a → Heard ((Registry.lookup hint).start e).2 →
        after.engine = { learnt with cache := e.cacheWith a }) ∧
      (¬Heard ((Registry.lookup hint).start e).2 → after.engine = e) ∧
      ((∀ a, ¬e.Finds hint a) → after = .start e) ∧
      after.engine.catalog.unweighted = e.catalog.unweighted ∧
      (after.engine.cache = e.cache ∨ ∃ a, e.Finds hint a ∧ e.cache.lookup a = none ∧
        after.engine.cache = e.cache ++ [e.store.describe a]) := by
  intro after learnt
  have hafter : after = (generate hint values selection).leaves (.start e) := start_leaves _ e
  have hlearnt : learnt = { e with catalog := e.catalog.learnUntil (feedbackOf selection) } :=
    (congrArg Session.engine (start_leaves _ e)).trans (learn_leaves _ _)
  have hfinds : ∀ a, e.Finds hint a → Heard ((Registry.lookup hint).start e).2 →
      after.engine = { learnt with cache := e.cacheWith a } := by
    intro a ha hheard
    rw [hafter, hlearnt, generate_leaves_of_finds ha hrec hheard]
  have hrefused : ¬Heard ((Registry.lookup hint).start e).2 → after.engine = e := by
    intro h
    rw [hafter, generate_leaves_of_refused h]
  have hnot : (∀ a, ¬e.Finds hint a) → after = .start e := by
    intro h
    rw [hafter, generate_leaves_of_not_finds h]
  have hunweighted : after.engine.catalog.unweighted = e.catalog.unweighted := by
    rw [hafter]
    exact ((stable_unweighted _).keeps_generate hint values selection).leaves rfl
  have hcache : after.engine.cache = e.cache ∨ ∃ a, e.Finds hint a ∧ e.cache.lookup a = none ∧
      after.engine.cache = e.cache ++ [e.store.describe a] := by
    by_cases h : ∃ a, e.Finds hint a
    · obtain ⟨a, ha⟩ := h
      by_cases hheard : Heard ((Registry.lookup hint).start e).2
      · rw [hfinds a ha hheard]
        dsimp only
        unfold cacheWith
        cases hlookup : e.cache.lookup a with
        | some d => exact .inl rfl
        | none => exact .inr ⟨a, ha, hlookup, rfl⟩
      · rw [hrefused hheard]
        exact .inl rfl
    · rw [hnot (not_exists.mp h)]
      exact .inl rfl
  exact ⟨hfinds, hrefused, hnot, hunweighted, hcache⟩

end

attribute [local instance] Console.quiet Host.plain

/-- The body does not parse, and the feedback is learnt all the same. -/
theorem generate_learns_once_unparsed :
    let e := serving "\x7b\x7b#if x\x7d\x7d"
    let selection := some (request "saas" [⟨"saas-mvp", 5, .helpful, ""⟩])
    let after := ((generate " SaaS" [] selection).start e).2
    let learnt := ((learn (feedbackOf selection)).start e).2.engine
    e.store.Recoverable ∧ e.Finds " SaaS" .saas ∧ Heard ((Registry.lookup " SaaS").start e).2 ∧
      after.engine = { learnt with cache := e.cacheWith .saas } ∧
      after.engine.catalog.unweighted = e.catalog.unweighted := by
  intro e selection after learnt
  have hrec : e.store.Recoverable := recoverable_serving _
  have hfinds : e.Finds " SaaS" .saas := ⟨by cbv, rfl⟩
  have hheard : Heard ((Registry.lookup " SaaS").start e).2 := heard_quiet _
  obtain ⟨hlearnt, -, -, hunweighted, -⟩ := generate_learns_once hrec " SaaS" [] selection
  exact ⟨hrec, hfinds, hheard, hlearnt .saas hfinds hheard, hunweighted⟩

end Engine

end Promptsmith
