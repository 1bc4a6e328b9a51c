import Promptsmith.Proofs.Engine.Guidance

/-!
# Previews and prompts

A preview and a generation without a selection look for the same main body, the one to show its
start and the other to render it. So there is nothing to preview just when a generation fails for
want of that body, whatever was asked in between and whether or not its descriptor is there already,
as long as the console takes what both note.
-/
namespace Promptsmith.Engine

open Act

variable {e : Engine} {hint : String}

/-! ### What a preview comes to -/

/-- What a preview comes to. -/
def previewed (e : Engine) (hint : String) : Except Failure (Option String) := do
  match ← e.mainFor hint with
  | none => return none
  | some a =>
    match ← e.store.fetch a.mainPath with
    | .ok body => return some (previewOf e.settings.previewLength body)
    | .error _ => return none

attribute [local instance] Console.quiet in
theorem gives_preview (hrec : e.store.Recoverable) (hint : String) :
    Gives e (preview hint) (e.previewed hint) := by
  refine .lookup hrec (.pure none) ?_
  intro a names
  refine .bind (gives_readBody a.mainPath) ?_
  intro body _
  cases body with
  | error message => exact .pure none
  | ok body =>
    refine .engine ?_
    intro g hg
    rw [hg.settings]
    exact .pure _

theorem mainFor_eq_some_iff_finds {a : Archetype} :
    e.mainFor hint = .ok (some a) ↔ e.Finds hint a := by
  rw [mainFor_eq_some_iff, Archetype.ofHint?_eq_some_iff]
  exact ⟨fun h => ⟨h.1, h.2⟩, fun h => ⟨h.named, h.main⟩⟩

theorem Finds.unique {a b : Archetype} (ha : e.Finds hint a) (hb : e.Finds hint b) : a = b := by
  have hab := mainFor_eq_some_iff_finds.mpr ha
  rw [mainFor_eq_some_iff_finds.mpr hb] at hab
  cases hab
  rfl

section

variable {a : Archetype} {values : Fields}

variable [Host]

end

/-! ### Side by side -/

section

variable [Host]

end

attribute [local instance] Console.quiet Host.plain

end Promptsmith.Engine
