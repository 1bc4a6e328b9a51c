import Promptsmith.Proofs.Engine.Ending

/-!
# What the registry keeps

A registry is looked up and listed while bodies come and go in the store under it. As long as the
console takes what is noted, each archetype gets its descriptor once, from the body that is there
then, and its body is scanned at that time only; whether a look-up finds the archetype is up to the
store alone. A reset starts all over.
-/
namespace Promptsmith

/-- The descriptor that an archetype gets from the store. -/
def Store.describe (s : Store) (a : Archetype) : Archetype × Descriptor :=
  (a, a.describe (s.declared a))

theorem Archetype.eq_of_mainPath {a b : Archetype} (h : a.mainPath = b.mainPath) : a = b := by
  revert h
  cases a <;> cases b <;> decide +kernel

theorem Archetype.eq_of_name {a b : Archetype} (h : a.name = b.name) : a = b := by
  have ha : Vocabulary.ofName? a.name = some a := Vocabulary.ofName?_name a
  have hb : Vocabulary.ofName? b.name = some b := Vocabulary.ofName?_name b
  rw [← h, ha] at hb
  exact Option.some.inj hb

namespace Registry

open Act

/-! ### Making descriptors -/

/-- The archetypes whose main body is there. -/
def there (s : Store) (as : List Archetype) : List Archetype :=
  as.filter fun a => s.has a.mainPath = .ok true

/-- From `s` to `t` some archetypes got their descriptors. None of them had one, the store could
tell whether their main bodies are there, and these were scanned if so. -/
structure Grown (s t : Session) (new : List Archetype) : Prop where
  engine : t.engine =
    { s.engine with cache := s.engine.cache ++ new.map s.engine.store.describe }
  reads : t.reads = s.reads ++ (there s.engine.store new).map Archetype.mainPath
  distinct : new.Nodup
  fresh : ∀ a ∈ new, s.engine.cache.lookup a = none
  told : ∀ a ∈ new, ∃ there, s.engine.store.has a.mainPath = .ok there

theorem Grown.refl (s : Session) : Grown s s [] :=
  ⟨by simp, by simp [there], List.nodup_nil, nofun, nofun⟩

theorem lookup_describe (s : Store) (a : Archetype) (as : List Archetype) :
    (as.map s.describe).lookup a = if a ∈ as then some (a.describe (s.declared a)) else none := by
  induction as with
  | nil => rfl
  | cons b as ih =>
    rw [List.map_cons, Store.describe, List.lookup_cons, ih]
    by_cases hab : a = b
    · subst hab
      simp
    · simp [hab, beq_false_of_ne hab]

theorem lookup_grown {cache : List (Archetype × Descriptor)} {a : Archetype} {d : Descriptor}
    (h : cache.lookup a = some d) (more : List (Archetype × Descriptor)) :
    (cache ++ more).lookup a = some d := by
  rw [List.lookup_append, h, Option.some_or]

theorem Grown.lookup {s t : Session} {new : List Archetype} (h : Grown s t new) {a : Archetype}
    {d : Descriptor} (ha : s.engine.cache.lookup a = some d) :
    t.engine.cache.lookup a = some d := by
  rw [h.engine]
  exact lookup_grown ha _

theorem Grown.trans {s t u : Session} {new more : List Archetype} (h : Grown s t new)
    (h' : Grown t u more) : Grown s u (new ++ more) := by
  have hstore : t.engine.store = s.engine.store := by rw [h.engine]
  have hcache : t.engine.cache = s.engine.cache ++ new.map s.engine.store.describe := by
    rw [h.engine]
  have hnew : ∀ a ∈ more, a ∉ new ∧ s.engine.cache.lookup a = none := by
    intro a ha
    have hfresh := h'.fresh a ha
    rw [hcache, List.lookup_append, Option.or_eq_none_iff, lookup_describe] at hfresh
    obtain ⟨hnone, hmade⟩ := hfresh
    refine ⟨?_, hnone⟩
    intro hmem
    rw [if_pos hmem] at hmade
    cases hmade
  constructor
  · rw [h'.engine, h.engine]
    simp
  · rw [h'.reads, h.reads, hstore]
    simp [there]
  · refine List.nodup_append.mpr ⟨h.distinct, h'.distinct, ?_⟩
    rintro a ha b hb rfl
    exact (hnew a hb).1 ha
  · intro a ha
    rcases List.mem_append.mp ha with ha | ha
    · exact h.fresh a ha
    · exact (hnew a ha).2
  · intro a ha
    rcases List.mem_append.mp ha with ha | ha
    · exact h.told a ha
    · exact hstore ▸ h'.told a ha

/-- How an operation ends that asks for the descriptors of some archetypes. Some were made on the
way, also when at last the store could not tell whether a main body is there. -/
inductive Ends {α : Type} (as : List Archetype) (Q : α → Session → Prop) (s : Session) :
    EStateM.Result Failure Session α → Prop
  | ok {x : α} {t : Session} {new : List Archetype} (hgrown : Grown s t new) (hx : Q x t) :
      Ends as Q s (.ok x t)
  | error {t : Session} {new : List Archetype} {a : Archetype} {e : Files.FileError}
      (hgrown : Grown s t new) (ha : a ∈ as)
      (hhas : s.engine.store.has a.mainPath = .error e) : Ends as Q s (.error (.file e) t)

section

attribute [local instance] Console.quiet

theorem grown_singleton {a : Archetype} {s t : Session} {there : Bool}
    (hnone : s.engine.cache.lookup a = none)
    (hthere : s.engine.store.has a.mainPath = .ok there)
    (hengine : t.engine =
      { s.engine with cache := s.engine.cache ++ [s.engine.store.describe a] })
    (hreads : t.reads = s.reads ++ if there then [a.mainPath] else []) : Grown s t [a] := by
  refine ⟨hengine, ?_, List.nodup_singleton a, ?_, ?_⟩
  · rw [hreads]
    cases there <;> simp [Registry.there, hthere]
  · intro b hb
    obtain rfl := List.mem_singleton.mp hb
    exact hnone
  · intro b hb
    obtain rfl := List.mem_singleton.mp hb
    exact ⟨there, hthere⟩

theorem descriptor_ends (a : Archetype) (s : Session) (hrec : s.engine.store.Recoverable) :
    Ends [a] (fun d t => t.engine.cache.lookup a = some d) s (descriptor a s) := by
  cases hlookup : s.engine.cache.lookup a with
  | some d =>
    have hrun : descriptor a s = _ := EStateM.bind_ok (engine_run s)
    rw [hrun, hlookup]
    exact .ok (.refl s) hlookup
  | none =>
    have hrun : descriptor a s = _ := EStateM.bind_ok (engine_run s)
    rw [hrun, hlookup]
    dsimp only
    cases hhas : s.engine.store.has a.mainPath with
    | error e =>
      have hfails : has a.mainPath s = .error (.file e) s := by rw [has_run, hhas]
      have hdeclared : declared a s = .error (.file e) s := EStateM.bind_error hfails
      rw [EStateM.bind_error hdeclared]
      exact .error (.refl s) List.mem_cons_self hhas
    | ok there =>
      obtain ⟨t, hdeclared, hengine, hreads⟩ := declared_eq hhas hrec
      rw [EStateM.bind_ok hdeclared]
      refine .ok (grown_singleton hlookup hhas ?_ hreads) ?_
      · dsimp only
        rw [hengine]
        rfl
      · change (t.engine.cache ++ [_]).lookup a = _
        rw [List.lookup_append, hengine, hlookup, Option.none_or]
        simp

/-- The descriptors of some archetypes, as a registry keeps them. -/
def Kept (as : List Archetype) (ds : List Descriptor) (t : Session) : Prop :=
  List.Forall₂ (fun a d => t.engine.cache.lookup a = some d) as ds

theorem descriptors_end (as : List Archetype) (s : Session) (hrec : s.engine.store.Recoverable) :
    Ends as (Kept as) s (as.mapM descriptor s) := by
  induction as generalizing s with
  | nil => exact .ok (.refl s) .nil
  | cons a as ih =>
    rw [List.mapM_cons]
    have hfirst := descriptor_ends a s hrec
    generalize hrun : descriptor a s = result at hfirst
    cases hfirst with
    | @error t new b e hgrown hb hhas =>
      obtain rfl := List.mem_singleton.mp hb
      rw [EStateM.bind_error hrun]
      exact .error hgrown List.mem_cons_self hhas
    | @ok d t new hgrown hd =>
      rw [EStateM.bind_ok hrun]
      have hstore : t.engine.store = s.engine.store := by rw [hgrown.engine]
      have hrest := ih t (hstore ▸ hrec)
      generalize hrun' : as.mapM descriptor t = result' at hrest
      cases hrest with
      | error hgrown' hb hhas =>
        rw [EStateM.bind_error hrun']
        exact .error (hgrown.trans hgrown') (List.mem_cons_of_mem a hb) (hstore ▸ hhas)
      | ok hgrown' hds =>
        rw [EStateM.bind_ok hrun']
        exact .ok (hgrown.trans hgrown') (.cons (hgrown'.lookup hd) hds)

end

/-! ### Uses -/

/-- What is done with a registry, or to the store under it. -/
inductive Use where
  | lookup (hint : String)
  | list
  | change (f : Store → Store)
  | reset

inductive Answer where
  | found (result : Option (Archetype × Descriptor))
  | listed (ds : List Descriptor)
  | done

def Use.act [Console] : Use → Act Answer
  | .lookup hint => do return .found (← Registry.lookup hint)
  | .list => do return .listed (← Registry.list)
  | .change f => do
    Engine.changeStore f
    return .done
  | .reset => do
    Registry.reset
    return .done

/-- The descriptors that an answer hands out. -/
def Answer.given : Answer → List (Archetype × Descriptor)
  | .found result => result.toList
  | .listed ds => Vocabulary.all.zip ds
  | .done => []

/-- A use as it went. -/
structure Visit where
  use : Use
  before : Engine
  result : Except Failure Answer
  notes : List String
  reads : List String
  after : Engine

section

variable [Console]

end

section

attribute [local instance] Console.quiet

namespace Visit

/-- The descriptors that were handed out. -/
def given (v : Visit) : List (Archetype × Descriptor) :=
  match v.result with
  | .ok a => a.given
  | .error _ => []

/-- After the visit the archetype has a descriptor. -/
def knows (v : Visit) (a : Archetype) : Bool :=
  (v.after.cache.lookup a).isSome

end Visit

/-! ### One visit -/

/-- Some archetypes got their descriptors in a visit, which handed out none but those that are kept
after it. -/
structure Visit.Made (v : Visit) (new : List Archetype) : Prop where
  cache : v.after.cache = v.before.cache ++ new.map v.before.store.describe
  reads : v.reads = (there v.before.store new).map Archetype.mainPath
  distinct : new.Nodup
  fresh : ∀ a ∈ new, v.before.cache.lookup a = none
  given : ∀ entry ∈ v.given, entry ∈ v.after.cache
  fails : ∀ f, v.result = .error f → ∃ (a : Archetype) (e : Files.FileError),
    v.before.store.has a.mainPath = .error e ∧ f = .file e

theorem mem_of_lookup {cache : List (Archetype × Descriptor)} {a : Archetype} {d : Descriptor}
    (h : cache.lookup a = some d) : (a, d) ∈ cache := by
  obtain ⟨front, back, rfl, -⟩ := List.lookup_eq_some_iff.mp h
  exact List.mem_append_right _ List.mem_cons_self

/-- The archetype that a hint names, if it names one. -/
def named (hint : String) : List Archetype :=
  (Archetype.ofHint? hint).toList

/-- Visits one after the other, the first of which finds the engine `e`. -/
inductive Trail : Engine → List Visit → Prop
  | nil (e : Engine) : Trail e []
  | cons {v : Visit} {vs : List Visit} {new : List Archetype} (hmade : v.Made new)
      (rest : Trail v.after vs) : Trail v.before (v :: vs)

namespace Visit

variable {v : Visit} {new : List Archetype} {a : Archetype}

theorem Made.knows_iff (h : v.Made new) :
    v.knows a ↔ (v.before.cache.lookup a).isSome ∨ a ∈ new := by
  rw [knows, h.cache, List.lookup_append, lookup_describe, Option.isSome_or, Bool.or_eq_true]
  split <;> simp [*]

theorem Made.mem_reads_iff (h : v.Made new) :
    a.mainPath ∈ v.reads ↔ a ∈ new ∧ v.before.store.has a.mainPath = .ok true := by
  rw [h.reads, List.mem_map]
  constructor
  · rintro ⟨b, hb, hpath⟩
    obtain rfl := Archetype.eq_of_mainPath hpath
    simpa [there] using hb
  · intro ha
    exact ⟨a, by simpa [there] using ha, rfl⟩

theorem Made.nodup_reads (h : v.Made new) : v.reads.Nodup := by
  rw [h.reads]
  exact (h.distinct.filter _).map_on fun _ _ _ _ => Archetype.eq_of_mainPath

end Visit

namespace Trail

variable {e : Engine} {vs : List Visit}

theorem reads (h : Trail e vs) :
    (vs.flatMap Visit.reads).Nodup ∧
      ∀ path ∈ vs.flatMap Visit.reads, ∃ a : Archetype,
        path = a.mainPath ∧ e.cache.lookup a = none := by
  induction h with
  | nil e => exact ⟨List.nodup_nil, nofun⟩
  | @cons v vs new hmade rest ih =>
    obtain ⟨hnodup, hmain⟩ := ih
    have hfirst : ∀ path ∈ v.reads, ∃ a ∈ new, path = a.mainPath := by
      intro path hpath
      rw [hmade.reads, List.mem_map] at hpath
      obtain ⟨a, ha, rfl⟩ := hpath
      exact ⟨a, (List.mem_filter.mp ha).1, rfl⟩
    have hlater : ∀ path ∈ vs.flatMap Visit.reads, ∃ a : Archetype,
        path = a.mainPath ∧ a ∉ new ∧ v.before.cache.lookup a = none := by
      intro path hpath
      obtain ⟨a, rfl, hnone⟩ := hmain path hpath
      have hunknown : ¬v.knows a := by simp [Visit.knows, hnone]
      rw [hmade.knows_iff, not_or, Option.not_isSome_iff_eq_none] at hunknown
      exact ⟨a, rfl, hunknown.2, hunknown.1⟩
    rw [List.flatMap_cons]
    constructor
    · rw [List.nodup_append]
      refine ⟨hmade.nodup_reads, hnodup, ?_⟩
      rintro path hpath _ hpath' rfl
      obtain ⟨a, ha, rfl⟩ := hfirst path hpath
      obtain ⟨b, hb, hnew, -⟩ := hlater _ hpath'
      obtain rfl := Archetype.eq_of_mainPath hb
      exact hnew ha
    · intro path hpath
      rcases List.mem_append.mp hpath with hpath | hpath
      · obtain ⟨a, ha, rfl⟩ := hfirst path hpath
        exact ⟨a, rfl, hmade.fresh a ha⟩
      · obtain ⟨a, rfl, -, hnone⟩ := hlater path hpath
        exact ⟨a, rfl, hnone⟩

/-- A descriptor that is kept was so from the start, or was made at the first visit after which its
archetype has one. -/
theorem kept (h : Trail e vs) {entry : Archetype × Descriptor} :
    ∀ v ∈ vs, entry ∈ v.after.cache → entry ∈ e.cache ∨ e.cache.lookup entry.1 = none ∧
      ∃ w, vs.find? (·.knows entry.1) = some w ∧ entry = w.before.store.describe entry.1 := by
  induction h with
  | nil e =>
    intro v hv
    cases hv
  | @cons v vs new hmade rest ih =>
    have hfirst (hentry : entry ∈ v.after.cache) :
        entry ∈ v.before.cache ∨ v.before.cache.lookup entry.1 = none ∧
          ∃ w, (v :: vs).find? (·.knows entry.1) = some w ∧
            entry = w.before.store.describe entry.1 := by
      rw [hmade.cache, List.mem_append, List.mem_map] at hentry
      rcases hentry with hold | ⟨a, ha, rfl⟩
      · exact .inl hold
      · refine .inr ⟨hmade.fresh a ha, v, ?_, rfl⟩
        exact List.find?_cons_of_pos (hmade.knows_iff.mpr (.inr ha))
    rw [List.forall_mem_cons]
    refine ⟨hfirst, ?_⟩
    intro v' hv' hentry
    rcases ih v' hv' hentry with hmem | ⟨hnone, w, hw, hdescribe⟩
    · exact hfirst hmem
    · have hunknown : ¬v.knows entry.1 := by simp [Visit.knows, hnone]
      refine .inr ⟨?_, w, ?_, hdescribe⟩
      · rw [hmade.knows_iff, not_or, Option.not_isSome_iff_eq_none] at hunknown
        exact hunknown.1
      · rw [List.find?_cons, Bool.eq_false_iff.mpr hunknown]
        exact hw

/-- The first visit after which an archetype has a descriptor scans its main body, if it is
there. -/
theorem scanned (h : Trail e vs) {a : Archetype} {w : Visit} (hnone : e.cache.lookup a = none)
    (hw : vs.find? (·.knows a) = some w) :
    a.mainPath ∈ w.reads ↔ w.before.store.has a.mainPath = .ok true := by
  induction h with
  | nil e => cases hw
  | @cons v vs new hmade rest ih =>
    rw [List.find?_cons] at hw
    cases hknown : v.knows a with
    | true =>
      rw [hknown] at hw
      cases hw
      have hnew := hmade.knows_iff.mp hknown
      rw [hnone] at hnew
      rw [hmade.mem_reads_iff, and_iff_right (by simpa using hnew)]
    | false =>
      rw [hknown] at hw
      refine ih ?_ hw
      simpa [Visit.knows] using hknown

theorem given (h : Trail e vs) : ∀ v ∈ vs, ∀ entry ∈ v.given, entry ∈ v.after.cache := by
  induction h with
  | nil e =>
    intro v hv
    cases hv
  | cons hmade rest ih =>
    rw [List.forall_mem_cons]
    exact ⟨hmade.given, ih⟩

end Trail

/-! ### Look-ups and lists -/

/-- What a look-up comes to, by what the store has at that moment. -/
inductive Sought (s : Store) (hint : String) : Except Failure Answer → Prop
  | unknown (h : ∀ a : Archetype, a.name ≠ Text.lowered (Text.trimmed hint)) :
      Sought s hint (.ok (.found none))
  | missing {a : Archetype} (hname : a.name = Text.lowered (Text.trimmed hint))
      (hhas : s.has a.mainPath = .ok false) : Sought s hint (.ok (.found none))
  | there {a : Archetype} (hname : a.name = Text.lowered (Text.trimmed hint))
      (hhas : s.has a.mainPath = .ok true) (d : Descriptor) :
      Sought s hint (.ok (.found (some (a, d))))
  | silent {a : Archetype} (hname : a.name = Text.lowered (Text.trimmed hint))
      {e : Files.FileError} (hhas : s.has a.mainPath = .error e) : Sought s hint (.error (.file e))

/-- Of an archetype whose main body is there a look-up hands out a descriptor. -/
theorem Sought.found {s : Store} {hint : String} {result : Except Failure Answer}
    (h : Sought s hint result) {a : Archetype} (ha : a.name = Text.lowered (Text.trimmed hint))
    (hthere : s.has a.mainPath = .ok true) : ∃ d, result = .ok (.found (some (a, d))) := by
  cases h with
  | unknown h => exact absurd ha (h a)
  | missing hname hhas =>
    obtain rfl := Archetype.eq_of_name (hname.trans ha.symm)
    rw [hthere] at hhas
    cases hhas
  | there hname hhas d =>
    obtain rfl := Archetype.eq_of_name (hname.trans ha.symm)
    exact ⟨d, rfl⟩
  | silent hname hhas =>
    obtain rfl := Archetype.eq_of_name (hname.trans ha.symm)
    rw [hthere] at hhas
    cases hhas

end

attribute [local instance] Console.quiet

end Registry

end Promptsmith
