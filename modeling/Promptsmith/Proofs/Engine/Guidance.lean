import Promptsmith.Proofs.Engine.Learning
import Promptsmith.Proofs.Template.Substitution

/-!
# Base guidance

A body that asks for the base guidance is rendered with the base files that are there and can be
read. They are read after the body, in their order, and only if the body asks and the values do not
have the guidance already. What they hold is text like that of any value, and none of them is needed
for a prompt.
-/
namespace Promptsmith

namespace Act

variable {α β : Type} {act : Act α} {next : α → Act β} {s t : Session}

/-- The operation reads nothing. -/
def Unread (act : Act α) : Prop :=
  ∀ s, (act.leaves s).reads = s.reads

theorem Unread.bind (h : Unread act) (hnext : ∀ a, Unread (next a)) : Unread (act >>= next) := by
  intro s
  cases hact : act s with
  | ok a t => rw [leaves_bind_ok hact, hnext a t, ← leaves_ok hact, h s]
  | error f t => rw [leaves_error (EStateM.bind_error hact), ← leaves_error hact, h s]

end Act

namespace Store

/-- The paths at which there are bodies, in order. -/
def there (s : Store) (paths : List String) : List String :=
  paths.filter fun path => s.has path = .ok true

/-- The bodies at some paths that can be read, in order. -/
def texts (s : Store) (paths : List String) : List String :=
  paths.filterMap fun path => (s.read path).toOption

end Store

namespace Engine

open Act

/-- The body asks for the base guidance, and the values do not have it. -/
def Asks (body : String) (values : Fields) : Prop :=
  "base_content" ∈ Template.scanNames body ∧ !values.has "base_content"

instance (body : String) (values : Fields) : Decidable (Asks body values) :=
  inferInstanceAs (Decidable (_ ∧ _))

/-- The base files that are there. -/
def baseThere (e : Engine) : List String :=
  e.store.there e.settings.baseFiles

/-- The base files that are there and can be read, in one text. -/
def baseText (e : Engine) : String :=
  baseSeparator.intercalate (e.store.texts e.baseThere)

/-- The values with the base guidance, if it is asked for. -/
def given (e : Engine) (body : String) (values : Fields) : Fields :=
  if Asks body values then values.put "base_content" (.text e.baseText) else values

variable {e : Engine} {hint : String} {selection : Option Selection} {a : Archetype}
  {templateId path body : String} {values : Fields}

/-! ### What is read -/

section

attribute [local instance] Console.quiet

end

section

variable [Host]

/-- What a body comes to with the values that it is rendered with. -/
def finish (e : Engine) (a : Archetype) (templateId body : String) (values : Fields) :
    Except Failure Rendering :=
  match Template.render body values with
  | .error fault => .ok (e.refusal a.name fault.message "error")
  | .ok prompt => do
    Host.write (Template.shown body values)
    e.described a templateId prompt values

end

theorem Since.chosen {f : Engine} (h : e.Since f) (hchosen : e.Chosen a selection templateId path) :
    f.Chosen a selection templateId path := by
  refine chosenBody_eq_ok_iff.mp ?_
  rw [← chosenBody_eq_ok_iff.mpr hchosen]
  cases selection with
  | none => rfl
  | some s =>
    rw [chosenBody, chosenBody, h.store, Variant.id_of_unweighted (h.variantFor a s),
      Variant.bodyPath_of_unweighted (h.variantFor a s)]

attribute [local instance] Console.quiet Host.plain

end Engine

end Promptsmith
