import Mathlib.Logic.Function.Iterate
import Promptsmith.Catalog.Select

/-!
# Weights have no say

Two catalogs that differ in the weights alone choose the same variant for a reader, up to its
weight. Feedback changes nothing but weights.
-/
namespace Promptsmith

/-- A variant with the weight that variants start with. -/
def Variant.unweighted (v : Variant) : Variant :=
  { v with weight := 1.0 }

namespace Variant

variable {v w : Variant} (h : v.unweighted = w.unweighted)
include h

theorem id_of_unweighted : v.id = w.id := by
  have hid := congrArg Variant.id h
  exact hid

theorem audience_of_unweighted : v.audience = w.audience := by
  have haudience := congrArg Variant.audience h
  exact haudience

theorem focus_of_unweighted : v.focus = w.focus := by
  have hfocus := congrArg Variant.focus h
  exact hfocus

theorem bodyPath_of_unweighted : v.bodyPath = w.bodyPath := by
  have hpath := congrArg Variant.bodyPath h
  exact hpath

end Variant

/-- The catalogs list the same variants under every archetype, weights aside. -/
def Catalog.SameButWeights (c d : Catalog) : Prop :=
  ∀ archetype, (c.variants archetype).map Variant.unweighted =
    (d.variants archetype).map Variant.unweighted

theorem Catalog.SameButWeights.refl (c : Catalog) : c.SameButWeights c := fun _ => rfl

theorem Catalog.SameButWeights.symm {c d : Catalog} (h : c.SameButWeights d) :
    d.SameButWeights c := fun archetype => (h archetype).symm

theorem Catalog.SameButWeights.trans {c d e : Catalog} (h : c.SameButWeights d)
    (h' : d.SameButWeights e) : c.SameButWeights e := fun archetype =>
  (h archetype).trans (h' archetype)

theorem writtenFor_unweighted (e : Experience) (vs : List Variant) :
    writtenFor e (vs.map Variant.unweighted) = (writtenFor e vs).map Variant.unweighted := by
  simp only [writtenFor, List.filter_map]
  rfl

theorem eligible_unweighted (e : Experience) (vs : List Variant) :
    eligible e (vs.map Variant.unweighted) = (eligible e vs).map Variant.unweighted := by
  unfold eligible
  rw [writtenFor_unweighted, writtenFor_unweighted]
  cases writtenFor e vs with
  | cons v own => rfl
  | nil =>
    by_cases he : e = .intermediate
    · simp [he]
    · cases hw : writtenFor .intermediate vs <;> simp [he]

theorem firstWithFocus_unweighted (vs : List Variant) (focuses : List Focus) :
    firstWithFocus (vs.map Variant.unweighted) focuses =
      (firstWithFocus vs focuses).map Variant.unweighted := by
  induction focuses with
  | nil => rfl
  | cons f focuses ih =>
    have hfind : (vs.map Variant.unweighted).find? (fun v => v.focus = f) =
        (vs.find? fun v => v.focus = f).map Variant.unweighted := by
      rw [List.find?_map]
      rfl
    unfold firstWithFocus at ih ⊢
    rw [List.findSome?_cons, List.findSome?_cons, hfind]
    cases hv : vs.find? fun v => v.focus = f with
    | some v => rfl
    | none => exact ih

theorem byRule_unweighted (s : Selection) (vs : List Variant) :
    byRule s (vs.map Variant.unweighted) = (byRule s vs).map Variant.unweighted := by
  dsimp only [byRule]
  rw [eligible_unweighted, firstWithFocus_unweighted, List.head?_map]
  cases firstWithFocus (eligible s.experience vs) s.phase.focuses <;> rfl

/-- The choice among the variants listed for an archetype. -/
def chosen (archetype : String) (s : Selection) : List Variant → Variant
  | [] => Variant.default archetype
  | [v] => v
  | v :: w :: r => (byRule s (v :: w :: r)).getD v

theorem Catalog.select_eq_chosen (c : Catalog) (s : Selection) :
    c.select s = chosen (Text.lowered s.intent.archetype) s
      (c.variants (Text.lowered s.intent.archetype)) := by
  unfold select chosen
  rfl

theorem chosen_unweighted (archetype : String) (s : Selection) (vs : List Variant) :
    chosen archetype s (vs.map Variant.unweighted) = (chosen archetype s vs).unweighted := by
  match vs with
  | [] => rfl
  | [v] => rfl
  | v :: w :: r =>
    have h := byRule_unweighted s (v :: w :: r)
    simp only [List.map_cons] at h
    simp only [List.map_cons, chosen, h]
    cases byRule s (v :: w :: r) <;> rfl

/-- Of a selection only the archetype, the reader's experience and the phase matter. -/
theorem chosen_congr {s t : Selection} (he : s.experience = t.experience) (hp : s.phase = t.phase)
    (archetype : String) (vs : List Variant) : chosen archetype s vs = chosen archetype t vs := by
  match vs with
  | [] => rfl
  | [v] => rfl
  | v :: w :: r => simp only [chosen, byRule, he, hp]

/-- Neither weights nor anything of the selection but archetype, experience and phase tell in the
choice. -/
theorem Catalog.SameButWeights.select {c d : Catalog} (h : c.SameButWeights d) {s t : Selection}
    (ha : s.intent.archetype = t.intent.archetype) (he : s.experience = t.experience)
    (hp : s.phase = t.phase) : (c.select s).unweighted = (d.select t).unweighted := by
  rw [select_eq_chosen, select_eq_chosen, ← chosen_unweighted, ← chosen_unweighted, ha, h,
    chosen_congr he hp]

theorem getElem?_foldl_modify {α : Type} (g : α → α) (is : List Nat) (xs : List α) (j : Nat) :
    (is.foldl (fun xs i => xs.modify i g) xs)[j]? = xs[j]?.map g^[is.count j] := by
  induction is generalizing xs with
  | nil => simp
  | cons i is ih =>
    rw [List.foldl_cons, ih, List.getElem?_modify]
    by_cases hij : i = j
    · simp [hij, Function.comp_def]
    · simp [hij]

/-- A variant that stands in several places is changed once in each. -/
theorem Catalog.pick_mapPlaces (c : Catalog) (g : Variant → Variant) (is : List Nat) :
    (c.mapPlaces g).pick is = is.filterMap fun i => c.objects[i]?.map g^[c.places.count i] := by
  unfold pick mapPlaces
  simp only [getElem?_foldl_modify]

theorem Variant.unweighted_iterate {g : Variant → Variant}
    (hg : ∀ v, (g v).unweighted = v.unweighted) (n : Nat) (v : Variant) :
    (g^[n] v).unweighted = v.unweighted := by
  induction n generalizing v with
  | zero => rfl
  | succ n ih => exact (ih (g v)).trans (hg v)

theorem Catalog.sameButWeights_mapPlaces (c : Catalog) {g : Variant → Variant}
    (hg : ∀ v, (g v).unweighted = v.unweighted) : (c.mapPlaces g).SameButWeights c := by
  intro archetype
  have hone (i : Nat) : (c.objects[i]?.map g^[c.places.count i]).map Variant.unweighted =
      c.objects[i]?.map Variant.unweighted := by
    cases c.objects[i]? with
    | none => rfl
    | some v => exact congrArg some (Variant.unweighted_iterate hg _ v)
  rw [variants, variants, pick_mapPlaces, pick, List.map_filterMap, List.map_filterMap]
  simp only [hone]
  rfl

theorem Variant.unweighted_reweighed (id : String) (f : Float → Float) (v : Variant) :
    (if v.id = id then { v with weight := f v.weight } else v).unweighted = v.unweighted := by
  split <;> rfl

theorem Catalog.sameButWeights_reweigh (c : Catalog) (id : String) (f : Float → Float) :
    (c.reweigh id f).SameButWeights c :=
  c.sameButWeights_mapPlaces (Variant.unweighted_reweighed id f)

/-- Feedback changes nothing but weights. -/
theorem Catalog.sameButWeights_learn (c : Catalog) (fs : List Feedback) :
    (c.learn fs).SameButWeights c := by
  induction fs generalizing c with
  | nil => exact .refl c
  | cons f fs ih =>
    have hone : (c.learnOne f).SameButWeights c := by
      unfold learnOne
      cases f.nudge? with
      | none => exact .refl c
      | some n => exact c.sameButWeights_reweigh f.variantId n.apply
    rw [learn_cons]
    exact (ih (c.learnOne f)).trans hone

end Promptsmith
