import Promptsmith.Proofs.Engine.Ending

/-!
# What a generation notes

A generation hands notes of six kinds to the console, and each of them tells of something: of a body
that cannot be scanned, of feedback that is ignored, of a variant without a body, of base guidance
that is passed over, of a failure or of success. So a console that takes these notes takes a whole
generation.
-/
namespace Promptsmith

variable {α β : Type}

namespace Engine

/-- What a generation for a hint may note. -/
inductive Noted (e : Engine) (hint : String) (selection : Option Selection) : String → Prop
  | scan {a : Archetype} {message : String} (hname : a.name = Text.lowered (Text.trimmed hint))
      (hread : e.store.read a.mainPath = .error (.reason message)) :
      Noted e hint selection (Registry.scanNote a.mainPath message)
  | ignored {s : Selection} {f : Feedback} (hselection : selection = some s)
      (hf : f ∈ s.feedback) : Noted e hint selection (Catalog.ignoredNote f.variantId)
  | missing {a : Archetype} {s : Selection} (hname : a.name = Text.lowered (Text.trimmed hint))
      (hselection : selection = some s)
      (hmissing : e.store.has (e.variantFor a s).bodyPath = .ok false) :
      Noted e hint selection (missingNote (e.variantFor a s).bodyPath a.mainPath)
  | skipped {path message : String} (hpath : path ∈ e.settings.baseFiles)
      (hread : e.store.read path = .error (.reason message)) :
      Noted e hint selection (skippedNote path message)
  | failed {a : Archetype} {templateId path message : String}
      (h : e.AnsweredFrom hint selection a templateId path) (hflaw : e.Flawed path message) :
      Noted e hint selection (failureNote a.name message)
  | succeeded {a : Archetype} {templateId path : String} (size : Nat)
      (h : e.AnsweredFrom hint selection a templateId path) (hparses : e.Parses path) :
      Noted e hint selection (successNote a.name templateId size)

theorem Since.cache {e f : Engine} (h : e.Since f) (a : Archetype) (names : List String) :
    e.Since { f with cache := f.cache ++ [(a, a.describe names)] } :=
  ⟨h.store, h.settings, h.catalog, stable_sound.cache names h.sound⟩

end Engine

namespace Act

variable {e : Engine} {P : String → Prop} {Q : α → Prop}

/-- Run since `e`, the operation notes nothing but what `P` holds of; `Q` holds of its result. -/
structure Notes (e : Engine) (P : String → Prop) (Q : α → Prop) (act : Act α) : Prop where
  run : ∀ s : Session, e.Since s.engine → (∀ text ∈ s.notes, P text) →
    match act s with
    | .ok a t => e.Since t.engine ∧ (∀ text ∈ t.notes, P text) ∧ Q a
    | .error _ t => ∀ text ∈ t.notes, P text

theorem Notes.pure {a : α} (h : Q a) : Notes e P Q (pure a : Act α) :=
  ⟨fun _ hs htold => ⟨hs, htold, h⟩⟩

theorem Notes.throw (f : Failure) : Notes e P Q (throw f : Act α) := ⟨fun _ _ htold => htold⟩

theorem Notes.bind {R : β → Prop} {act : Act α} {next : α → Act β} (h : Notes e P Q act)
    (hnext : ∀ a, Q a → Notes e P R (next a)) : Notes e P R (act >>= next) := by
  constructor
  intro s hs htold
  have hrun := h.run s hs htold
  cases hact : act s with
  | ok a t =>
    rw [hact] at hrun
    obtain ⟨ht, htold', ha⟩ := hrun
    rw [EStateM.bind_ok hact]
    exact (hnext a ha).run t ht htold'
  | error f t =>
    rw [hact] at hrun
    rw [EStateM.bind_error hact]
    exact hrun

theorem Notes.forM {f : α → Act Unit} {xs : List α} (h : ∀ x ∈ xs, Notes e P Any (f x)) :
    Notes e P Any (xs.forM f) := by
  induction xs with
  | nil => exact .pure trivial
  | cons x xs ih =>
    rw [List.forall_mem_cons] at h
    exact .bind h.1 fun _ _ => ih h.2

theorem notes_engine : Notes e P e.Since engine := ⟨fun _ hs htold => ⟨hs, htold, hs⟩⟩

theorem notes_setEngine {f : Engine} (h : e.Since f) : Notes e P Any (setEngine f) :=
  ⟨fun _ _ htold => ⟨h, htold, trivial⟩⟩

theorem notes_note [Console] {text : String} (h : P text) : Notes e P Any (note text) := by
  constructor
  intro s hs htold
  have hall : ∀ t ∈ s.notes ++ [text], P t := by
    rw [List.forall_mem_append, List.forall_mem_singleton]
    exact ⟨htold, h⟩
  rw [note_run]
  cases Console.refusal? text with
  | none => exact ⟨hs, hall, trivial⟩
  | some message => exact hall

theorem notes_ofExcept (x : Except Failure α) : Notes e P (x = .ok ·) (ofExcept x) := by
  cases x with
  | ok a => exact .pure rfl
  | error f => exact .throw f

theorem notes_has (path : String) : Notes e P (e.store.has path = .ok ·) (has path) := by
  refine .bind notes_engine ?_
  intro f hf
  rw [hf.store]
  cases e.store.has path with
  | ok there => exact .pure rfl
  | error fault => exact .throw (.file fault)

theorem notes_readBody (path : String) :
    Notes e P (e.store.fetch path = .ok ·) (readBody path) := by
  constructor
  intro s hs htold
  rw [readBody_run, hs.store]
  unfold Store.fetch
  match e.store.read path with
  | .ok body => exact ⟨hs, htold, rfl⟩
  | .error (.reason message) => exact ⟨hs, htold, rfl⟩
  | .error (.fatal f) => exact htold

theorem Notes.start {act : Act α} (h : Notes e P Q act) (he : e.Sound) :
    ∀ text ∈ (act.start e).2.notes, P text := by
  have hrun := h.run (.start e) (.refl he) (List.forall_mem_nil _)
  unfold Act.start
  cases hact : act (.start e) with
  | ok a t =>
    rw [hact] at hrun
    exact hrun.2.1
  | error f t =>
    rw [hact] at hrun
    exact hrun

end Act

namespace Engine

open Act

variable [Console] {e : Engine} {hint : String} {selection : Option Selection} {a : Archetype}

theorem notes_declared (hname : a.name = Text.lowered (Text.trimmed hint)) :
    Notes e (e.Noted hint selection) Any (Registry.declared a) := by
  refine .bind (notes_has a.mainPath) ?_
  intro there _
  cases there with
  | false => exact .pure trivial
  | true =>
    refine .bind (notes_readBody a.mainPath) ?_
    intro body hbody
    cases body with
    | ok body => exact .pure trivial
    | error message =>
      have hread := fetch_eq_reason_iff.mp hbody
      exact .bind (notes_note (.scan hname hread)) fun _ _ => .pure trivial

theorem notes_descriptor (hname : a.name = Text.lowered (Text.trimmed hint)) :
    Notes e (e.Noted hint selection) (fun d => ∃ names, d = a.describe names)
      (Registry.descriptor a) := by
  refine .bind notes_engine ?_
  intro f hf
  cases hlookup : f.cache.lookup a with
  | some d =>
    obtain ⟨front, back, hsplit, -⟩ := List.lookup_eq_some_iff.mp hlookup
    exact .pure (hf.sound a d (by simp [hsplit]))
  | none =>
    refine .bind (notes_declared hname) ?_
    intro names _
    refine .bind notes_engine ?_
    intro f hf
    exact .bind (notes_setEngine (hf.cache a names)) fun _ _ => .pure ⟨names, rfl⟩

/-- A look-up finds nothing but the archetype that its hint names. -/
theorem notes_lookup (hint : String) (selection : Option Selection) :
    Notes e (e.Noted hint selection) (fun found => ∀ entry ∈ found,
        entry.1.name = Text.lowered (Text.trimmed hint) ∧
          e.store.has entry.1.mainPath = .ok true ∧ ∃ names, entry.2 = entry.1.describe names)
      (Registry.lookup hint) := by
  unfold Registry.lookup
  cases hhint : Archetype.ofHint? hint with
  | none => exact .pure nofun
  | some a =>
    have hname := Archetype.ofHint?_eq_some_iff.mp hhint
    refine .bind (notes_has a.mainPath) ?_
    intro there hthere
    cases there with
    | false => exact .pure nofun
    | true =>
      refine .bind (notes_descriptor hname) ?_
      rintro d ⟨names, rfl⟩
      refine .pure ?_
      rintro _ ⟨⟩
      exact ⟨hname, hthere, names, rfl⟩

theorem notes_learn {s : Selection} (hselection : selection = some s) :
    Notes e (e.Noted hint selection) Any (learn s.feedback) := by
  refine .forM ?_
  intro f hf
  refine .bind notes_engine ?_
  intro g hg
  refine .bind (notes_setEngine (hg.learn [f])) ?_
  intro _ _
  split
  · exact notes_note (.ignored hselection hf)
  · exact .pure trivial

theorem notes_resolveBody (hname : a.name = Text.lowered (Text.trimmed hint))
    (hmain : e.store.has a.mainPath = .ok true) (names : List String) :
    Notes e (e.Noted hint selection)
      (fun chosen => e.AnsweredFrom hint selection a chosen.1 chosen.2)
      (resolveBody (a.describe names) selection) := by
  cases selection with
  | none => exact .pure ⟨hname, hmain, .main⟩
  | some s =>
    refine .bind (notes_learn rfl) ?_
    intro _ _
    refine .bind notes_engine ?_
    intro f hf
    have hid := Variant.id_of_unweighted (hf.variantFor a s)
    have hpath := Variant.bodyPath_of_unweighted (hf.variantFor a s)
    unfold variantFor at hid hpath
    dsimp only [Archetype.describe]
    rw [hid, hpath]
    refine .bind (notes_has _) ?_
    intro there hthere
    cases there with
    | true => exact .pure ⟨hname, hmain, .variant hthere⟩
    | false =>
      refine .bind (notes_note (.missing hname rfl hthere)) ?_
      exact fun _ _ => .pure ⟨hname, hmain, .fallback hthere⟩

omit [Console] in
theorem notes_failed {P : String → Prop} (archetype message templateId : String) :
    Notes e P Any (failed archetype message templateId) :=
  .bind notes_engine fun _ _ => .pure trivial

theorem notes_baseSections {paths : List String}
    (hpaths : ∀ path ∈ paths, path ∈ e.settings.baseFiles) :
    Notes e (e.Noted hint selection) Any (baseSections paths) := by
  induction paths with
  | nil => exact .pure trivial
  | cons path paths ih =>
    rw [List.forall_mem_cons] at hpaths
    have hrest := ih hpaths.2
    refine .bind (notes_has path) ?_
    intro there _
    cases there with
    | false => exact hrest
    | true =>
      refine .bind (notes_readBody path) ?_
      intro body hbody
      cases body with
      | ok body => exact .bind hrest fun _ _ => .pure trivial
      | error message =>
        have hread := fetch_eq_reason_iff.mp hbody
        exact .bind (notes_note (.skipped hpaths.1 hread)) fun _ _ => hrest

theorem notes_withBase (body : String) (values : Fields) :
    Notes e (e.Noted hint selection) Any (withBase body values) := by
  have hcontent : Notes e (e.Noted hint selection) Any baseContent := by
    refine .bind notes_engine ?_
    intro f hf
    refine .bind (notes_baseSections ?_) fun _ _ => .pure trivial
    rw [hf.settings]
    exact fun _ h => h
  unfold withBase
  split
  · exact .bind hcontent fun _ _ => .pure trivial
  · exact .pure trivial

variable [Host]

theorem notes_renderBody {templateId path : String}
    (hfrom : e.AnsweredFrom hint selection a templateId path) (names : List String)
    (values : Fields) :
    Notes e (e.Noted hint selection) Any
      (renderBody (a.describe names) templateId path values) := by
  refine .bind (notes_readBody path) ?_
  intro body hbody
  cases body with
  | error message =>
    have hflaw : e.Flawed path message := .unread (fetch_eq_reason_iff.mp hbody)
    exact .bind (notes_note (.failed hfrom hflaw)) fun _ _ => notes_failed _ _ _
  | ok body =>
    have hread := Store.fetch_eq_body_iff.mp hbody
    refine .bind (notes_withBase body values) ?_
    intro values _
    cases hrender : Template.render body values with
    | error fault =>
      have hflaw : e.Flawed path fault.message :=
        .unparsed hread (Template.render_eq_error_iff.mp hrender)
      exact .bind (notes_note (.failed hfrom hflaw)) fun _ _ => notes_failed _ _ _
    | ok prompt =>
      obtain ⟨nodes, hnodes, -⟩ := Template.render_eq_ok_iff.mp hrender
      refine .bind (notes_ofExcept _) fun _ _ => ?_
      refine .bind (notes_note (.succeeded _ hfrom ⟨body, nodes, hread, hnodes⟩)) fun _ _ => ?_
      refine .bind (notes_ofExcept _) fun _ _ => ?_
      refine .bind (notes_ofExcept _) fun _ _ => ?_
      exact .bind notes_engine fun _ _ => .pure trivial

theorem notes_generate (hint : String) (values : Fields) (selection : Option Selection) :
    Notes e (e.Noted hint selection) Any (generate hint values selection) := by
  refine .bind (notes_lookup hint selection) ?_
  intro found hfound
  cases found with
  | none => exact notes_failed _ _ _
  | some entry =>
    obtain ⟨hname, hmain, names, hdescribe⟩ := hfound entry rfl
    dsimp only
    rw [hdescribe]
    refine .bind (notes_resolveBody hname hmain names) ?_
    intro chosen hfrom
    exact notes_renderBody hfrom names values

/-- A console that takes what a generation may note takes all of it. -/
theorem heard_generate (he : e.Sound) {values : Fields}
    (h : ∀ text, e.Noted hint selection text → Console.refusal? text = none) :
    Heard ((generate hint values selection).start e).2 := by
  intro text htext
  exact h text ((notes_generate hint values selection).start he text htext)

end Engine

end Promptsmith
