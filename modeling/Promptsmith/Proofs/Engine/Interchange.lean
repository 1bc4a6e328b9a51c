import Promptsmith.Proofs.Catalog.Bounds
import Promptsmith.Proofs.Catalog.Choice
import Promptsmith.Proofs.Engine.Heeding
import Promptsmith.Proofs.Files.Holding

/-!
# Stores that stand in for each other

An engine asks its store for the main bodies, the bodies of its variants and its base files, and it
reads nothing without asking first whether it is there. So over a store that answers the same of
these paths, and serves the same of those that are there, it runs the same: the results, the notes
and the reads of every request agree. A directory of text files and a memory of what is read of
them are two such stores.
-/
namespace Promptsmith

/-- Of the path the stores tell the same, and if it is there they read the same. -/
structure Store.AgreesAt (s t : Store) (path : String) : Prop where
  has : s.has path = t.has path
  read : s.has path = .ok true → s.read path = t.read path

namespace Catalog

/-- Where the bodies of the variants lie. -/
def bodyPaths (c : Catalog) : List String :=
  c.objects.map Variant.bodyPath

theorem mem_bodyPaths_learnOne {c : Catalog} {f : Feedback} {path : String}
    (h : path ∈ (c.learnOne f).bodyPaths) : path ∈ c.bodyPaths := by
  unfold learnOne at h
  cases hnudge : f.nudge? with
  | none =>
    rw [hnudge] at h
    exact h
  | some n =>
    rw [hnudge] at h
    obtain ⟨w, hw, rfl⟩ := List.mem_map.mp h
    refine forall_mapPlaces (P := fun v => v.bodyPath ∈ c.bodyPaths) ?_ ?_ w hw
    · intro v hv
      split
      · exact hv
      · exact hv
    · intro v hv
      exact List.mem_map_of_mem hv

theorem bodyPaths_register (c : Catalog) (archetype : String) (v : Variant) :
    (c.register archetype v).bodyPaths = c.bodyPaths ++ [v.bodyPath] := by
  simp [bodyPaths]

theorem bodyPaths_share (c : Catalog) (archetype : String) (i : Nat) :
    (c.share archetype i).bodyPaths = c.bodyPaths := by
  simp [bodyPaths]

/-- A selection takes the body of a variant, or the main body if the archetype has none. -/
theorem bodyPath_select (c : Catalog) {s : Selection} {a : Archetype}
    (hs : s.intent.archetype = a.name) :
    (c.select s).bodyPath = a.mainPath ∨ (c.select s).bodyPath ∈ c.bodyPaths := by
  obtain ⟨hnone, hsome⟩ := c.select_best s
  by_cases hvs : c.variants s.intent.archetype = []
  · have hname : Text.lowered a.name = a.name := by cases a <;> decide +kernel
    rw [hnone hvs, hs, hname]
    exact .inl rfl
  · exact .inr (List.mem_map_of_mem (mem_objects_of_mem_pick (hsome hvs).2.2.1))

end Catalog

/-! ### Engines over two stores -/

/-- The paths that an engine may ask its store for. -/
def Engine.paths (e : Engine) : List String :=
  (Vocabulary.all : List Archetype).map Archetype.mainPath ++ e.catalog.bodyPaths ++
    e.settings.baseFiles

/-- The engine over another store. -/
def Engine.over (e : Engine) (t : Store) : Engine :=
  { e with store := t }

@[simp] theorem Engine.over_store (e : Engine) (t : Store) : (e.over t).store = t := rfl

@[simp] theorem Engine.over_cache (e : Engine) (t : Store) : (e.over t).cache = e.cache := rfl

@[simp] theorem Engine.over_catalog (e : Engine) (t : Store) :
    (e.over t).catalog = e.catalog := rfl

/-- The session over another store. -/
def Session.over (s : Session) (t : Store) : Session :=
  { s with engine := s.engine.over t }

/-- The engine stands on the first store, and the second agrees with it wherever it may ask. -/
structure Engine.Exchanges (s t : Store) (e : Engine) : Prop where
  store : e.store = s
  sound : e.Sound
  agrees : ∀ path ∈ e.paths, s.AgreesAt t path

namespace Engine.Exchanges

variable {s t : Store} {e : Engine}

theorem main (h : Exchanges s t e) (a : Archetype) : s.AgreesAt t a.mainPath := by
  refine h.agrees _ (List.mem_append_left _ (List.mem_append_left _ (List.mem_map_of_mem ?_)))
  cases a <;> decide

theorem variant (h : Exchanges s t e) {path : String} (hpath : path ∈ e.catalog.bodyPaths) :
    s.AgreesAt t path :=
  h.agrees path (List.mem_append_left _ (List.mem_append_right _ hpath))

theorem base (h : Exchanges s t e) {path : String} (hpath : path ∈ e.settings.baseFiles) :
    s.AgreesAt t path :=
  h.agrees path (List.mem_append_right _ hpath)

theorem withCache (h : Exchanges s t e) {cache : List (Archetype × Descriptor)}
    (hsound : { e with cache }.Sound) : Exchanges s t { e with cache } :=
  ⟨h.store, hsound, h.agrees⟩

theorem withCatalog (h : Exchanges s t e) {c : Catalog}
    (hc : ∀ path ∈ c.bodyPaths, s.AgreesAt t path) : Exchanges s t { e with catalog := c } := by
  refine ⟨h.store, h.sound, ?_⟩
  intro path hpath
  rcases List.mem_append.mp hpath with hpath | hbase
  · rcases List.mem_append.mp hpath with hmain | hvariant
    · exact h.agrees path (List.mem_append_left _ (List.mem_append_left _ hmain))
    · exact hc path hvariant
  · exact h.base hbase

end Engine.Exchanges

namespace Act

variable {α β : Type} {s t : Store}

/-- Over the other store a run ends the same, with the same session but for the store. `Q` holds of
its result. -/
inductive SameRun (s t : Store) (Q : α → Prop) :
    EStateM.Result Failure Session α → EStateM.Result Failure Session α → Prop
  | ok {a : α} {u : Session} (ha : Q a) (hu : u.engine.Exchanges s t) :
      SameRun s t Q (.ok a u) (.ok a (u.over t))
  | error (f : Failure) {u : Session} (hu : u.engine.Exchanges s t) :
      SameRun s t Q (.error f u) (.error f (u.over t))

/-- What `x` does over the first store, `y` does over the second. -/
structure Mirrors (s t : Store) (Q : α → Prop) (x y : Act α) : Prop where
  run : ∀ u : Session, u.engine.Exchanges s t → SameRun s t Q (x u) (y (u.over t))

namespace Mirrors

variable {Q : α → Prop} {R : β → Prop}

theorem pure {a : α} (h : Q a) : Mirrors s t Q (pure a) (pure a) := ⟨fun _ hu => .ok h hu⟩

theorem throw (f : Failure) : Mirrors s t Q (throw f) (throw f) := ⟨fun _ hu => .error f hu⟩

theorem bind {x y : Act α} {next next' : α → Act β} (h : Mirrors s t Q x y)
    (hnext : ∀ a, Q a → Mirrors s t R (next a) (next' a)) :
    Mirrors s t R (x >>= next) (y >>= next') := by
  constructor
  intro u hu
  have hrun := h.run u hu
  generalize hx : x u = r at hrun
  generalize hy : y (u.over t) = r' at hrun
  cases hrun with
  | ok ha hv =>
    rw [EStateM.bind_ok hx, EStateM.bind_ok hy]
    exact (hnext _ ha).run _ hv
  | error f hv =>
    rw [EStateM.bind_error hx, EStateM.bind_error hy]
    exact .error f hv

/-- An operation may look at its engine first. -/
theorem engine_bind {next next' : Engine → Act β}
    (hnext : ∀ e, Engine.Exchanges s t e → Mirrors s t R (next e) (next' (e.over t))) :
    Mirrors s t R (engine >>= next) (engine >>= next') :=
  ⟨fun u hu => (hnext u.engine hu).run u hu⟩

/-- That the stores agree may be used of an operation that does not look at its engine. -/
theorem of_exchanges {x y : Act α} (h : ∀ e, Engine.Exchanges s t e → Mirrors s t Q x y) :
    Mirrors s t Q x y :=
  ⟨fun u hu => (h u.engine hu).run u hu⟩

end Mirrors

theorem mirrors_setEngine {e : Engine} (h : e.Exchanges s t) :
    Mirrors s t Any (setEngine e) (setEngine (e.over t)) := ⟨fun _ _ => .ok trivial h⟩

theorem mirrors_note [Console] (text : String) : Mirrors s t Any (note text) (note text) := by
  refine .bind (Q := Any) ⟨fun _ hu => .ok trivial hu⟩ ?_
  intro _ _
  cases Console.refusal? text with
  | none => exact .pure trivial
  | some message => exact .throw (.markup message)

theorem mirrors_forM {f : α → Act Unit} (h : ∀ a, Mirrors s t Any (f a) (f a)) (xs : List α) :
    Mirrors s t Any (xs.forM f) (xs.forM f) := by
  induction xs with
  | nil => exact .pure trivial
  | cons x xs ih => exact .bind (h x) fun _ _ => ih

theorem mirrors_ofExcept (x : Except Failure α) :
    Mirrors s t Any (ofExcept x) (ofExcept x) := by
  cases x with
  | ok a => exact .pure trivial
  | error f => exact .throw f

theorem mirrors_mapM {Q : α → β → Prop} {f : α → Act β}
    (h : ∀ a, Mirrors s t (Q a) (f a) (f a)) (xs : List α) :
    Mirrors s t Any (xs.mapM f) (xs.mapM f) := by
  induction xs with
  | nil => exact .pure trivial
  | cons x xs ih =>
    rw [List.mapM_cons]
    exact .bind (h x) fun _ _ => .bind ih fun _ _ => .pure trivial

theorem mirrors_has {path : String} (h : s.AgreesAt t path) :
    Mirrors s t (fun b => s.has path = .ok b) (has path) (has path) := by
  refine .engine_bind ?_
  intro e he
  rw [Engine.over_store, he.store, ← h.has]
  cases s.has path with
  | ok b => exact .pure rfl
  | error f => exact .throw (.file f)

theorem mirrors_readBody {path : String} (h : s.read path = t.read path) :
    Mirrors s t Any (readBody path) (readBody path) := by
  refine .bind (Q := Any) ⟨fun _ hu => .ok trivial hu⟩ ?_
  intro _ _
  refine .engine_bind ?_
  intro e he
  rw [Engine.over_store, he.store, ← h]
  cases s.read path with
  | ok body => exact .pure trivial
  | error fault =>
    cases fault with
    | reason message => exact .pure trivial
    | fatal f => exact .throw f

end Act

/-! ### The registry -/

namespace Registry

open Act

variable [Console] {s t : Store}

theorem mirrors_declared {a : Archetype} (h : s.AgreesAt t a.mainPath) :
    Mirrors s t Any (declared a) (declared a) := by
  refine .bind (mirrors_has h) ?_
  intro there hthere
  cases there with
  | false => exact .pure trivial
  | true =>
    refine .bind (mirrors_readBody (h.read hthere)) ?_
    intro body _
    cases body with
    | ok body => exact .pure trivial
    | error message => exact .bind (mirrors_note _) fun _ _ => .pure trivial

theorem mirrors_descriptor (a : Archetype) :
    Mirrors s t (fun d => ∃ names, d = a.describe names) (descriptor a) (descriptor a) := by
  refine .engine_bind ?_
  intro e he
  rw [Engine.over_cache]
  cases hlookup : e.cache.lookup a with
  | some d =>
    obtain ⟨front, back, hsplit, -⟩ := List.lookup_eq_some_iff.mp hlookup
    exact .pure (he.sound a d (by simp [hsplit]))
  | none =>
    refine .bind (mirrors_declared (he.main a)) ?_
    intro names _
    refine .engine_bind ?_
    intro e he
    have hadded := he.withCache (Engine.stable_sound.cache (a := a) names he.sound)
    exact .bind (mirrors_setEngine hadded) fun _ _ => .pure ⟨names, rfl⟩

theorem mirrors_list : Mirrors s t Any list list :=
  mirrors_mapM mirrors_descriptor _

/-- What a look-up finds is described as its archetype, and its main body can be read. -/
def Found (s t : Store) : Option (Archetype × Descriptor) → Prop
  | none => True
  | some (a, d) => (∃ names, d = a.describe names) ∧ s.read a.mainPath = t.read a.mainPath

theorem mirrors_lookup (hint : String) :
    Mirrors s t (Found s t) (lookup hint) (lookup hint) := by
  refine .of_exchanges ?_
  intro e he
  unfold lookup
  cases Archetype.ofHint? hint with
  | none => exact .pure trivial
  | some a =>
    refine .bind (mirrors_has (he.main a)) ?_
    intro there hthere
    cases there with
    | false => exact .pure trivial
    | true =>
      refine .bind (mirrors_descriptor a) ?_
      intro d hd
      exact .pure ⟨hd, (he.main a).read hthere⟩

end Registry

/-! ### Generation -/

namespace Engine

open Act

variable {s t : Store}

theorem mirrors_failed (archetype message templateId : String) :
    Mirrors s t Any (failed archetype message templateId) (failed archetype message templateId) :=
  .engine_bind fun _ _ => .pure trivial

variable [Console]

theorem mirrors_learnOne (f : Feedback) : Mirrors s t Any (learnOne f) (learnOne f) := by
  refine .engine_bind ?_
  intro e he
  have hlearnt : Exchanges s t { e with catalog := e.catalog.learnOne f } :=
    he.withCatalog fun path hpath => he.variant (Catalog.mem_bodyPaths_learnOne hpath)
  refine .bind (mirrors_setEngine hlearnt) ?_
  intro _ _
  rw [Engine.over_catalog]
  split
  · exact mirrors_note _
  · exact .pure trivial

theorem mirrors_learn (fs : List Feedback) : Mirrors s t Any (learn fs) (learn fs) :=
  mirrors_forM mirrors_learnOne fs

/-- The body that is resolved is one that was found there. -/
theorem mirrors_resolveBody (a : Archetype) (names : List String)
    (hmain : s.read a.mainPath = t.read a.mainPath) (selection : Option Selection) :
    Mirrors s t (fun chosen => s.read chosen.2 = t.read chosen.2)
      (resolveBody (a.describe names) selection) (resolveBody (a.describe names) selection) := by
  cases selection with
  | none => exact .pure hmain
  | some selection =>
    refine .bind (mirrors_learn selection.feedback) ?_
    intro _ _
    refine .engine_bind ?_
    intro e he
    let asked := { selection with intent := { selection.intent with archetype := a.name } }
    have hagrees : s.AgreesAt t (e.catalog.select asked).bodyPath := by
      rcases e.catalog.bodyPath_select (s := asked) (a := a) rfl with hpath | hpath
      · exact hpath ▸ he.main a
      · exact he.variant hpath
    refine .bind (mirrors_has hagrees) ?_
    intro there hthere
    cases there with
    | true => exact .pure (hagrees.read hthere)
    | false => exact .bind (mirrors_note _) fun _ _ => .pure hmain

theorem mirrors_baseSections {paths : List String} (h : ∀ path ∈ paths, s.AgreesAt t path) :
    Mirrors s t Any (baseSections paths) (baseSections paths) := by
  induction paths with
  | nil => exact .pure trivial
  | cons path paths ih =>
    rw [List.forall_mem_cons] at h
    refine .bind (mirrors_has h.1) ?_
    intro there hthere
    cases there with
    | false => exact ih h.2
    | true =>
      refine .bind (mirrors_readBody (h.1.read hthere)) ?_
      intro body _
      cases body with
      | ok body => exact .bind (ih h.2) fun _ _ => .pure trivial
      | error message => exact .bind (mirrors_note _) fun _ _ => ih h.2

theorem mirrors_withBase (body : String) (values : Fields) :
    Mirrors s t Any (withBase body values) (withBase body values) := by
  unfold withBase
  split
  · have hcontent : Mirrors s t Any baseContent baseContent := by
      refine .engine_bind ?_
      intro e he
      exact .bind (mirrors_baseSections fun _ => he.base) fun _ _ => .pure trivial
    exact .bind hcontent fun _ _ => .pure trivial
  · exact .pure trivial

theorem mirrors_preview (hint : String) : Mirrors s t Any (preview hint) (preview hint) := by
  refine .bind (Registry.mirrors_lookup hint) ?_
  intro found hfound
  cases found with
  | none => exact .pure trivial
  | some found =>
    obtain ⟨a, d⟩ := found
    obtain ⟨⟨names, rfl⟩, hmain⟩ := hfound
    refine .bind (mirrors_readBody hmain) ?_
    intro body _
    cases body with
    | ok body => exact .engine_bind fun _ _ => .pure trivial
    | error message => exact .pure trivial

variable [Host]

theorem mirrors_succeeded (d : Descriptor) (templateId prompt : String) (values : Fields) :
    Mirrors s t Any (succeeded d templateId prompt values)
      (succeeded d templateId prompt values) := by
  refine .bind (mirrors_note _) ?_
  intro _ _
  refine .bind (mirrors_ofExcept _) ?_
  intro confidence _
  refine .bind (mirrors_ofExcept _) ?_
  intro features _
  exact .engine_bind fun _ _ => .pure trivial

theorem mirrors_renderBody (d : Descriptor) (templateId : String) {bodyPath : String}
    (h : s.read bodyPath = t.read bodyPath) (values : Fields) :
    Mirrors s t Any (renderBody d templateId bodyPath values)
      (renderBody d templateId bodyPath values) := by
  refine .bind (mirrors_readBody h) ?_
  intro body _
  cases body with
  | error message => exact .bind (mirrors_note _) fun _ _ => mirrors_failed _ _ _
  | ok body =>
    refine .bind (mirrors_withBase body values) ?_
    intro values _
    cases Template.render body values with
    | error e => exact .bind (mirrors_note _) fun _ _ => mirrors_failed _ _ _
    | ok prompt => exact .bind (mirrors_ofExcept _) fun _ _ => mirrors_succeeded _ _ _ _

theorem mirrors_generate (hint : String) (values : Fields) (selection : Option Selection) :
    Mirrors s t Any (generate hint values selection) (generate hint values selection) := by
  refine .bind (Registry.mirrors_lookup hint) ?_
  intro found hfound
  cases found with
  | none => exact mirrors_failed _ _ _
  | some found =>
    obtain ⟨a, d⟩ := found
    obtain ⟨⟨names, rfl⟩, hmain⟩ := hfound
    refine .bind (mirrors_resolveBody a names hmain selection) ?_
    intro chosen hchosen
    exact mirrors_renderBody _ _ hchosen values

theorem mirrors_generateFromDescription (description : String) (options : Fields)
    (feedback : List Feedback) :
    Mirrors s t Any (generateFromDescription description options feedback)
      (generateFromDescription description options feedback) := by
  refine .engine_bind ?_
  intro e _
  refine .bind (mirrors_ofExcept _) ?_
  intro i _
  refine .bind (mirrors_ofExcept _) ?_
  intro context _
  refine .bind (mirrors_ofExcept _) ?_
  intro selection _
  exact mirrors_generate _ _ _

end Engine

/-! ### Requests -/

/-- What an engine may be asked while its store stays as it is. -/
inductive Request where
  | list
  | lookup (hint : String)
  | preview (hint : String)
  | generate (hint : String) (values : Fields) (selection : Option Selection)
  | describe (description : String) (options : Fields) (feedback : List Feedback)
  | learn (feedback : List Feedback)
  | register (archetype : String) (v : Variant)
  | share (archetype : String) (i : Nat)
  | reset

inductive Reply where
  | descriptors (ds : List Descriptor)
  | found (found : Option (Archetype × Descriptor))
  | preview (start : Option String)
  | rendering (r : Rendering)
  | catalog (c : Catalog)
  deriving DecidableEq, Repr

namespace Request

open Act in
/-- The operation of a request. What changes the catalog is answered with the catalog. -/
def act [Console] [Host] : Request → Act Reply
  | .list => return .descriptors (← Registry.list)
  | .lookup hint => return .found (← Registry.lookup hint)
  | .preview hint => return .preview (← Engine.preview hint)
  | .generate hint values selection => return .rendering (← Engine.generate hint values selection)
  | .describe description options feedback =>
    return .rendering (← Engine.generateFromDescription description options feedback)
  | .learn feedback => do
    Engine.learn feedback
    return .catalog (← engine).catalog
  | .register archetype v => do
    Engine.register archetype v
    return .catalog (← engine).catalog
  | .share archetype i => do
    Engine.share archetype i
    return .catalog (← engine).catalog
  | .reset => do
    Engine.reset
    return .catalog (← engine).catalog

/-- The paths that an engine may ask for only because of the request. -/
def paths : Request → List String
  | .register _ v => [v.bodyPath]
  | .reset => Catalog.bundled.bodyPaths
  | _ => []

open Act Engine in
theorem mirrors_act [Console] [Host] {s t : Store} (r : Request)
    (h : ∀ path ∈ r.paths, s.AgreesAt t path) :
    Mirrors s t Any r.act r.act := by
  have hcatalog : Mirrors s t Any (do return Reply.catalog (← engine).catalog)
      (do return Reply.catalog (← engine).catalog) := .engine_bind fun _ _ => .pure trivial
  cases r with
  | list => exact .bind Registry.mirrors_list fun _ _ => .pure trivial
  | lookup hint => exact .bind (Registry.mirrors_lookup hint) fun _ _ => .pure trivial
  | preview hint => exact .bind (mirrors_preview hint) fun _ _ => .pure trivial
  | generate hint values selection =>
    exact .bind (mirrors_generate hint values selection) fun _ _ => .pure trivial
  | describe description options feedback =>
    exact .bind (mirrors_generateFromDescription description options feedback)
      fun _ _ => .pure trivial
  | learn feedback => exact .bind (mirrors_learn feedback) fun _ _ => hcatalog
  | register archetype v =>
    have hregister : Mirrors s t Any (Engine.register archetype v)
        (Engine.register archetype v) := by
      refine .engine_bind ?_
      intro e he
      refine mirrors_setEngine (he.withCatalog ?_)
      rw [Catalog.bodyPaths_register, List.forall_mem_append]
      exact ⟨fun _ => he.variant, h⟩
    exact .bind hregister fun _ _ => hcatalog
  | share archetype i =>
    have hshare : Mirrors s t Any (Engine.share archetype i) (Engine.share archetype i) := by
      refine .engine_bind ?_
      intro e he
      refine mirrors_setEngine (he.withCatalog ?_)
      rw [Catalog.bodyPaths_share]
      exact fun _ => he.variant
    exact .bind hshare fun _ _ => hcatalog
  | reset =>
    have hreset : Mirrors s t Any Engine.reset Engine.reset := by
      refine .bind (Q := Any) (.engine_bind ?_) ?_
      · intro e he
        exact mirrors_setEngine (he.withCache (sound_of_cache_eq_nil rfl))
      · intro _ _
        refine .engine_bind ?_
        intro e he
        exact mirrors_setEngine (he.withCatalog h)
    exact .bind hreset fun _ _ => hcatalog

end Request

/-- What comes of a request: its result, the notes on the way and the paths that were read. -/
structure Report where
  result : Except Failure Reply
  notes : List String
  reads : List String

namespace Engine

/-- What comes of requests made one after the other, some of which may fail. -/
def reports [Console] [Host] (e : Engine) : List Request → List Report
  | [] => []
  | r :: rs =>
    let ended := r.act.start e
    ⟨ended.1, ended.2.notes, ended.2.reads⟩ :: ended.2.engine.reports rs

/-- What one request comes to over two stores that agree where it may ask, and what it leaves. -/
theorem Exchanges.start [Console] [Host] {s t : Store} {e : Engine} (he : e.Exchanges s t)
    (r : Request) (hr : ∀ path ∈ r.paths, s.AgreesAt t path) :
    r.act.start (e.over t) = ((r.act.start e).1, (r.act.start e).2.over t) ∧
      (r.act.start e).2.engine.Exchanges s t := by
  have hrun := (r.mirrors_act hr).run (.start e) he
  change Act.SameRun s t _ _ (r.act (.start (e.over t))) at hrun
  unfold Act.start
  generalize r.act (.start e) = ended at hrun ⊢
  generalize r.act (.start (e.over t)) = ended' at hrun ⊢
  cases hrun with
  | ok _ hu => exact ⟨rfl, hu⟩
  | error f hu => exact ⟨rfl, hu⟩

/-- Over two stores that agree wherever an engine may ask, all requests come to the same. -/
theorem Exchanges.reports_over [Console] [Host] {s t : Store} {e : Engine} (he : e.Exchanges s t)
    {rs : List Request} (hrs : ∀ path ∈ rs.flatMap Request.paths, s.AgreesAt t path) :
    (e.over t).reports rs = e.reports rs := by
  induction rs generalizing e with
  | nil => rfl
  | cons r rs ih =>
    rw [List.flatMap_cons, List.forall_mem_append] at hrs
    obtain ⟨hstart, hafter⟩ := he.start r hrs.1
    rw [reports, reports, hstart]
    exact congrArg _ (ih hafter hrs.2)

end Engine

/-! ### A directory and a memory of it -/

open Files

/-- A memory of what is read of files. -/
def Store.ofTexts (files : List TextFile) : Store :=
  .inMemory (files.map fun f => (f.path, f.body))

namespace Store

variable {tree : Tree} {root : String} {files : List TextFile} {path body : String}

theorem has_ofDirectory :
    (ofDirectory tree root).has path = tree.isFile ((Path.ofText root).join path) := rfl

theorem read_ofDirectory : (ofDirectory tree root).read path =
    (tree.read ((Path.ofText root).join path)).mapError Source.faultOf := rfl

theorem has_ofTexts : (ofTexts files).has path =
    .ok ((files.map fun f => (f.path, f.body)).lookup path).isSome := rfl

theorem read_ofTexts (h : (files.map fun f => (f.path, f.body)).lookup path = some body) :
    (ofTexts files).read path = .ok body := by
  change (Source.memory (files.map fun f => (f.path, f.body))).read path = .ok body
  unfold Source.read
  dsimp only
  rw [h]

theorem agreesAt_ofTexts {place : List String}
    (hroot : tree.resolve (.ofText root) = .ok place) (hholds : tree.Holds place files)
    (hfiles : ∀ f ∈ files, (Path.ofText root).Fits f.path) (hpath : (Path.ofText root).Fits path) :
    (ofDirectory tree root).AgreesAt (ofTexts files) path := by
  cases hlookup : (files.map fun f => (f.path, f.body)).lookup path with
  | some body =>
    obtain ⟨front, back, hsplit, -⟩ := List.lookup_eq_some_iff.mp hlookup
    have hmem : (path, body) ∈ files.map fun f => (f.path, f.body) := by simp [hsplit]
    obtain ⟨f, hf, heq⟩ := List.mem_map.mp hmem
    obtain ⟨rfl, rfl⟩ := Prod.mk.inj heq
    constructor
    · rw [has_ofDirectory, hholds.isFile_of_mem hroot hf hpath, has_ofTexts, hlookup]
      rfl
    · intro _
      rw [read_ofDirectory, hholds.read_of_mem hroot hf hpath, read_ofTexts hlookup]
      rfl
  | none =>
    have hne : ∀ f ∈ files, f.path ≠ path := by
      rintro f hf rfl
      rw [List.lookup_eq_none_iff] at hlookup
      simpa using hlookup _ (List.mem_map_of_mem hf)
    have hmissing : (ofDirectory tree root).has path = .ok false := by
      rw [has_ofDirectory]
      exact hholds.isFile_of_forall_ne hroot hfiles hpath hne
    constructor
    · rw [hmissing, has_ofTexts, hlookup]
      rfl
    · intro hthere
      rw [hmissing] at hthere
      cases hthere

end Store

/-- An engine over a directory that holds some text files and no others, and one over a memory of
what is read of them, answer all requests alike, write the same notes and read the same paths in the
same order. -/
theorem Engine.reports_ofDirectory_eq_ofTexts [Console] [Host] {tree : Tree} {root : String}
    {place : List String} {files : List TextFile} (hroot : tree.resolve (.ofText root) = .ok place)
    (hholds : tree.Holds place files) (hfiles : ∀ f ∈ files, (Path.ofText root).Fits f.path)
    {e : Engine} (hcache : e.cache = []) (requests : List Request)
    (hpaths : ∀ path ∈ e.paths ++ requests.flatMap Request.paths, (Path.ofText root).Fits path) :
    (e.over (.ofDirectory tree root)).reports requests =
      (e.over (.ofTexts files)).reports requests := by
  rw [List.forall_mem_append] at hpaths
  have hagrees : ∀ path, (Path.ofText root).Fits path →
      (Store.ofDirectory tree root).AgreesAt (Store.ofTexts files) path := fun _ hpath =>
    Store.agreesAt_ofTexts hroot hholds hfiles hpath
  have hexchanges : (e.over (.ofDirectory tree root)).Exchanges (.ofDirectory tree root)
      (.ofTexts files) :=
    ⟨rfl, sound_of_cache_eq_nil hcache, fun path hpath => hagrees path (hpaths.1 path hpath)⟩
  exact (hexchanges.reports_over fun path hpath => hagrees path (hpaths.2 path hpath)).symm

namespace Engine

/-- A main body that ends a line with CR LF, and base guidance with a lone CR. -/
def sharedTexts : List TextFile := [
  { path := "saas/main-prompt.md"
    content := .raw [
      0x43, 0x61, 0x66, 0xC3, 0xA9, 0x20, 0x7B, 0x7B, 0x77, 0x68, 0x6F, 0x7D, 0x7D, 0x0D,
      0x0A, 0x7B, 0x7B, 0x62, 0x61, 0x73, 0x65, 0x5F, 0x63, 0x6F, 0x6E, 0x74, 0x65, 0x6E,
      0x74, 0x7D, 0x7D]
    chars := "Café \x7b\x7bwho\x7d\x7d\r\n\x7b\x7bbase_content\x7d\x7d".toList
    decoded := by decide +kernel },
  { path := "base/core.md"
    content := .text "Be\rbrief."
    chars := "Be\rbrief.".toList
    decoded := rfl }]

/-- A tree whose one directory but the current holds these texts. -/
def sharedTree : Tree :=
  ((Tree.empty ["work"]).put ["work", "tpl"] .directory).filled ["work", "tpl"] sharedTexts

/-- An engine whose only variant has no body among these texts, nor has one of its base files. -/
def sharedEngine : Engine where
  store := .inMemory []
  cache := []
  catalog := .ofGroups [
    ("saas", [⟨"own", "Own", "", .expert, .implementation, "saas/own.md", 1.0⟩])]
  settings :=
    ⟨"1.0.0", 200, ["base/core.md", "base/none.md"], ⟨"2024-01-01", "2024-01-01T00:00:00"⟩⟩

def sharedRequests : List Request := [
  .list, .preview " SaaS", .lookup "blog", .learn [⟨"own", 5, .helpful, ""⟩],
  .generate "saas" [("who", .text "us")]
    (some ⟨⟨"saas", [], .medium, 60, "", [], []⟩, .expert, .development, []⟩)]

attribute [local instance] Console.quiet Host.plain

theorem reports_ofDirectory_eq_ofTexts_shared :
    let paths := sharedEngine.paths ++ sharedRequests.flatMap Request.paths
    sharedTree.resolve (.ofText "tpl") = .ok ["work", "tpl"] ∧
    sharedTree.Holds ["work", "tpl"] sharedTexts ∧
    (∀ f ∈ sharedTexts, (Path.ofText "tpl").Fits f.path) ∧ sharedEngine.cache = [] ∧
    (∀ path ∈ paths, (Path.ofText "tpl").Fits path) ∧
    (sharedEngine.over (.ofDirectory sharedTree "tpl")).reports sharedRequests =
      (sharedEngine.over (.ofTexts sharedTexts)).reports sharedRequests := by
  intro paths
  have hroot : sharedTree.resolve (.ofText "tpl") = .ok ["work", "tpl"] := by rfl
  have hholds : sharedTree.Holds ["work", "tpl"] sharedTexts :=
    Tree.holds_filled (Tree.holds_nil (by decide) (by decide)) (by decide +kernel)
      (by decide +kernel)
  have hfiles : ∀ f ∈ sharedTexts, (Path.ofText "tpl").Fits f.path := by decide +kernel
  have hpaths : ∀ path ∈ paths, (Path.ofText "tpl").Fits path := by decide +kernel
  exact ⟨hroot, hholds, hfiles, rfl, hpaths,
    reports_ofDirectory_eq_ofTexts hroot hholds hfiles rfl sharedRequests hpaths⟩

end Engine

end Promptsmith
