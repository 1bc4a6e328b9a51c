import Promptsmith.Catalog.Basic

/-!
# Choosing a variant

The variants for the reader's experience come first; beginners and experts may take those written
for intermediate readers instead, and failing that all are eligible. Among the eligible ones the
phase decides which focus is wanted most; of equals the first registered is chosen. Weights have no
say.
-/
namespace Promptsmith

/-- The focuses in the order a phase wants them. -/
def Phase.focuses : Phase → List Focus
  | .planning => [.architecture, .implementation, .bestPractices, .troubleshooting]
  | .development => [.implementation, .bestPractices, .troubleshooting, .architecture]
  | .optimization => [.bestPractices, .troubleshooting, .architecture, .implementation]

theorem Phase.mem_focuses (p : Phase) (f : Focus) : f ∈ p.focuses := by
  cases p <;> cases f <;> decide

def writtenFor (e : Experience) (vs : List Variant) : List Variant :=
  vs.filter fun v => v.audience = e

/-- The variants that a reader may be given. -/
def eligible (e : Experience) (vs : List Variant) : List Variant :=
  match writtenFor e vs with
  | [] =>
    match if e = .intermediate then [] else writtenFor .intermediate vs with
    | [] => vs
    | fallback => fallback
  | own => own

/-- The first variant with the first focus that any variant has. -/
def firstWithFocus (vs : List Variant) (focuses : List Focus) : Option Variant :=
  focuses.findSome? fun f => vs.find? fun v => v.focus = f

/-- The rule for several candidates. -/
def byRule (s : Selection) (vs : List Variant) : Option Variant :=
  let candidates := eligible s.experience vs
  (firstWithFocus candidates s.phase.focuses).or candidates.head?

/-- The variant of a catalog that suits a selection best. -/
def Catalog.select (c : Catalog) (s : Selection) : Variant :=
  let archetype := Text.lowered s.intent.archetype
  match c.variants archetype with
  | [] => Variant.default archetype
  | [v] => v
  | v :: w :: r => (byRule s (v :: w :: r)).getD v

end Promptsmith
