import Promptsmith.Proofs.Engine.Keeping

/-!
# Notes and the console

Engines hand notes to a console. Every operation of an engine runs on any console as it does on a
quiet one, or is broken off at a note that is refused. Learning fails in no other way.
-/
namespace Promptsmith

instance : Handing Session := ⟨Session.notes⟩

variable {α β : Type} [Console]

theorem heard_start (e : Engine) : Heard (Session.start e) := nofun

namespace Act

theorem note_run (text : String) (s : Session) :
    note text s =
      match Console.refusal? text with
      | some message => .error (.markup message) { s with notes := s.notes ++ [text] }
      | none => .ok () { s with notes := s.notes ++ [text] } := by
  have hlog : (modify fun s => { s with notes := s.notes ++ [text] } : Act Unit) s =
      .ok () { s with notes := s.notes ++ [text] } := rfl
  have hrun : note text s = _ := EStateM.bind_ok hlog
  rw [hrun]
  cases Console.refusal? text <;> rfl

theorem heeds_note (text : String) : Heeds (note text) (@note .quiet text) := by
  constructor
  intro s hs
  rw [note_run]
  cases hrefusal : Console.refusal? text with
  | some message => exact .refused ⟨text, List.mem_append_right _ List.mem_cons_self, hrefusal⟩
  | none =>
    refine .ok ?_
    intro t ht
    rcases List.mem_append.mp ht with ht | ht
    · exact hs t ht
    · rwa [List.mem_singleton.mp ht]

theorem heeds_engine : Heeds engine engine := .of_silent fun _ => rfl

theorem heeds_setEngine (e : Engine) : Heeds (setEngine e) (setEngine e) := .of_silent fun _ => rfl

theorem heeds_ofExcept (x : Except Failure α) : Heeds (ofExcept x) (ofExcept x) := by
  cases x with
  | ok a => exact .pure a
  | error f => exact .throw f

theorem heeds_has (path : String) : Heeds (has path) (has path) := by
  refine .bind heeds_engine ?_
  intro e
  cases e.store.has path with
  | ok there => exact .pure there
  | error fault => exact .throw _

theorem heeds_readBody (path : String) : Heeds (readBody path) (readBody path) := by
  refine .bind (.of_silent fun _ => rfl) ?_
  intro _
  refine .bind heeds_engine ?_
  intro e
  match e.store.read path with
  | .ok body => exact .pure _
  | .error (.reason message) => exact .pure _
  | .error (.fatal f) => exact .throw f

/-- An operation ends on any console as on a quiet one, or a note is refused. -/
theorem start_cases {act quiet : Act α} (h : Heeds act quiet) (e : Engine) :
    act.start e = quiet.start e ∧ Heard (act.start e).2 ∨
      ∃ message, (act.start e).1 = .error (.markup message) ∧
        Refused (act.start e).2 message := by
  have hrun := h.run _ (heard_start e)
  unfold start
  generalize act (.start e) = result at hrun
  generalize quiet (.start e) = result' at hrun
  cases hrun with
  | ok ht => exact .inl ⟨rfl, ht⟩
  | error ht => exact .inl ⟨rfl, ht⟩
  | refused ht => exact .inr ⟨_, rfl, ht⟩

theorem start_eq_of_heard {act quiet : Act α} (h : Heeds act quiet) {e : Engine}
    (hheard : Heard (act.start e).2) : act.start e = quiet.start e := by
  rcases start_cases h e with ⟨heq, -⟩ | ⟨message, -, hrefused⟩
  · exact heq
  · exact absurd hheard hrefused.not_heard

/-- A result is the same on a quiet console. -/
theorem start_ok {act quiet : Act α} (h : Heeds act quiet) {e : Engine} {a : α}
    (hgives : (act.start e).1 = .ok a) : (quiet.start e).1 = .ok a := by
  rcases start_cases h e with ⟨heq, -⟩ | ⟨message, hmarkup, -⟩
  · exact heq ▸ hgives
  · rw [hmarkup] at hgives
    cases hgives

/-- An operation fails as it does on a quiet console, or for a note that is refused. -/
theorem start_error {act quiet : Act α} (h : Heeds act quiet) {e : Engine} {f : Failure}
    (hfails : (act.start e).1 = .error f) :
    (quiet.start e).1 = .error f ∨
      ∃ message, f = .markup message ∧ Refused (act.start e).2 message := by
  rcases start_cases h e with ⟨heq, -⟩ | ⟨message, hmarkup, hrefused⟩
  · exact .inl (heq ▸ hfails)
  · rw [hfails] at hmarkup
    exact .inr ⟨message, Except.error.inj hmarkup, hrefused⟩

/-- An operation that gives a result on a quiet console gives it wherever its notes are taken. -/
theorem run_eq_of_heard {act quiet : Act α} (h : Heeds act quiet) {e : Engine}
    (hheard : Heard (act.start e).2) {a : α} {t : Session} (hquiet : quiet (.start e) = .ok a t) :
    act (.start e) = .ok a t := by
  have hstart := start_eq_of_heard h hheard
  unfold start at hstart
  rw [hquiet] at hstart
  cases hact : act (.start e) with
  | ok b u =>
    rw [hact] at hstart
    cases hstart
    rfl
  | error f u =>
    rw [hact] at hstart
    cases hstart

end Act

open Act

namespace Registry

theorem heeds_declared (a : Archetype) : Heeds (declared a) (@declared .quiet a) := by
  refine .bind (heeds_has a.mainPath) ?_
  intro there
  cases there with
  | false => exact .pure _
  | true =>
    refine .bind (heeds_readBody a.mainPath) ?_
    intro body
    cases body with
    | ok body => exact .pure _
    | error message => exact .bind (heeds_note _) fun _ => .pure _

theorem heeds_descriptor (a : Archetype) : Heeds (descriptor a) (@descriptor .quiet a) := by
  refine .bind heeds_engine ?_
  intro e
  cases e.cache.lookup a with
  | some d => exact .pure d
  | none =>
    refine .bind (heeds_declared a) ?_
    intro names
    refine .bind heeds_engine ?_
    intro e
    exact .bind (heeds_setEngine _) fun _ => .pure _

theorem heeds_lookup (hint : String) : Heeds (lookup hint) (@lookup .quiet hint) := by
  unfold lookup
  cases Archetype.ofHint? hint with
  | none => exact .pure none
  | some a =>
    refine .bind (heeds_has a.mainPath) ?_
    intro there
    cases there with
    | false => exact .pure none
    | true => exact .bind (heeds_descriptor a) fun _ => .pure _

theorem heeds_list : Heeds list (@list .quiet) := .mapM heeds_descriptor _

end Registry

namespace Engine

theorem heeds_learnOne (f : Feedback) : Heeds (learnOne f) (@learnOne .quiet f) := by
  refine .bind heeds_engine ?_
  intro e
  refine .bind (heeds_setEngine _) ?_
  intro _
  split
  · exact heeds_note _
  · exact .pure _

theorem heeds_learn (fs : List Feedback) : Heeds (learn fs) (@learn .quiet fs) :=
  .forM heeds_learnOne fs

theorem heeds_resolveBody (d : Descriptor) (selection : Option Selection) :
    Heeds (resolveBody d selection) (@resolveBody .quiet d selection) := by
  cases selection with
  | none => exact .pure _
  | some s =>
    refine .bind (heeds_learn s.feedback) ?_
    intro _
    refine .bind heeds_engine ?_
    intro e
    refine .bind (heeds_has _) ?_
    intro there
    cases there with
    | true => exact .pure _
    | false => exact .bind (heeds_note _) fun _ => .pure _

theorem heeds_failed (archetype message templateId : String) :
    Heeds (failed archetype message templateId) (failed archetype message templateId) :=
  .bind heeds_engine fun _ => .pure _

theorem heeds_baseSections (paths : List String) :
    Heeds (baseSections paths) (@baseSections .quiet paths) := by
  induction paths with
  | nil => exact .pure []
  | cons path paths ih =>
    refine .bind (heeds_has path) ?_
    intro there
    cases there with
    | false => exact ih
    | true =>
      refine .bind (heeds_readBody path) ?_
      intro body
      cases body with
      | ok body => exact .bind ih fun _ => .pure _
      | error message => exact .bind (heeds_note _) fun _ => ih

theorem heeds_withBase (body : String) (values : Fields) :
    Heeds (withBase body values) (@withBase .quiet body values) := by
  unfold withBase
  split
  · have hcontent : Heeds baseContent (@baseContent .quiet) :=
      .bind heeds_engine fun _ => .bind (heeds_baseSections _) fun _ => .pure _
    exact .bind hcontent fun _ => .pure _
  · exact .pure values

theorem heeds_preview (hint : String) : Heeds (preview hint) (@preview .quiet hint) := by
  refine .bind (Registry.heeds_lookup hint) ?_
  intro found
  cases found with
  | none => exact .pure none
  | some found =>
    refine .bind (heeds_readBody _) ?_
    intro body
    cases body with
    | ok body => exact .bind heeds_engine fun _ => .pure _
    | error message => exact .pure none

variable [Host]

theorem heeds_succeeded (d : Descriptor) (templateId prompt : String) (values : Fields) :
    Heeds (succeeded d templateId prompt values)
      (@succeeded .quiet _ d templateId prompt values) := by
  refine .bind (heeds_note _) ?_
  intro _
  refine .bind (heeds_ofExcept _) ?_
  intro confidence
  refine .bind (heeds_ofExcept _) ?_
  intro features
  exact .bind heeds_engine fun _ => .pure _

theorem heeds_renderBody (d : Descriptor) (templateId bodyPath : String) (values : Fields) :
    Heeds (renderBody d templateId bodyPath values)
      (@renderBody .quiet _ d templateId bodyPath values) := by
  refine .bind (heeds_readBody bodyPath) ?_
  intro body
  cases body with
  | error message => exact .bind (heeds_note _) fun _ => heeds_failed _ _ _
  | ok body =>
    refine .bind (heeds_withBase body values) ?_
    intro values
    cases Template.render body values with
    | error fault => exact .bind (heeds_note _) fun _ => heeds_failed _ _ _
    | ok prompt => exact .bind (heeds_ofExcept _) fun _ => heeds_succeeded _ _ _ _

theorem heeds_generate (hint : String) (values : Fields) (selection : Option Selection) :
    Heeds (generate hint values selection) (@generate .quiet _ hint values selection) := by
  refine .bind (Registry.heeds_lookup hint) ?_
  intro found
  cases found with
  | none => exact heeds_failed _ _ _
  | some found =>
    refine .bind (heeds_resolveBody found.2 selection) ?_
    intro chosen
    exact heeds_renderBody _ _ _ _

/-! ### Learning -/

omit [Console] [Host] in
theorem learnOne_run (f : Feedback) (s : Session) :
    ∃ t, @learnOne .quiet f s = .ok () t ∧
      t.engine = { s.engine with catalog := s.engine.catalog.learnOne f } := by
  have hset : setEngine { s.engine with catalog := s.engine.catalog.learnOne f } s =
      .ok () { s with engine.catalog := s.engine.catalog.learnOne f } := rfl
  have hrun : @learnOne .quiet f s = _ := EStateM.bind_ok (engine_run s)
  rw [hrun, EStateM.bind_ok hset]
  split
  · exact ⟨_, rfl, rfl⟩
  · exact ⟨_, rfl, rfl⟩

omit [Console] [Host] in
theorem learn_run (fs : List Feedback) (s : Session) :
    ∃ t, @learn .quiet fs s = .ok () t ∧
      t.engine = { s.engine with catalog := s.engine.catalog.learn fs } := by
  induction fs generalizing s with
  | nil => exact ⟨s, rfl, rfl⟩
  | cons f fs ih =>
    obtain ⟨t, hone, ht⟩ := learnOne_run f s
    obtain ⟨u, hrest, hu⟩ := ih t
    have hrun : @learn .quiet (f :: fs) s = _ := EStateM.bind_ok hone
    rw [ht] at hu
    exact ⟨u, hrun.trans hrest, hu⟩

end Engine

end Promptsmith
