import Mathlib
import Promptsmith.Proofs.Catalog.Bounds
import Promptsmith.Proofs.Catalog.Weights

/-!
# The catalog as a log

What a selector did to its catalog can be read off a log of what was registered and which feedback
came after it. Each feedback item changes a variant with its id once for every place in which the
variant stands. While weights are whole numbers of tenths and no variant stands in two places, each
item moves the number of its variants by one between the bounds, so each variant's number is the
tally of the items with its id.
-/
namespace Promptsmith

open Decimal

/-! ### Numbers of tenths -/

/-- The number of tenths nearest to the weight. -/
def Variant.rank (v : Variant) : Nat :=
  match Binary.ofFloat v.weight with
  | .finite _ m e => (Ratio.ofBinary m e).round 10
  | _ => 0

/-- The variant with another number of tenths. -/
def Variant.ranked (v : Variant) (k : Nat) : Variant :=
  { v with weight := tenths k }

/-- The weight is a whole number of tenths within the bounds. -/
def Variant.InTenths (v : Variant) : Prop :=
  ∃ k, 1 ≤ k ∧ k ≤ 20 ∧ v.weight = tenths k

/-- What feedback does to a number of tenths. -/
def Feedback.move (f : Feedback) (k : Nat) : Nat :=
  if f.usage = .helpful ∧ 4 ≤ f.rating then min 20 (k + 1)
  else if f.usage = .notHelpful ∨ f.rating ≤ 2 then max 1 (k - 1)
  else k

/-- The feedback that names an id, in order. -/
def naming (id : String) (fs : List Feedback) : List Feedback :=
  fs.filter fun f => f.variantId = id

/-- A number of tenths after the feedback that names an id. -/
def tally (id : String) (k : Nat) (fs : List Feedback) : Nat :=
  (naming id fs).foldl (fun k f => f.move k) k

theorem naming_cons (id : String) (f : Feedback) (fs : List Feedback) :
    naming id (f :: fs) = if f.variantId = id then f :: naming id fs else naming id fs := by
  simp [naming, List.filter_cons]

/-- A weight that is a whole number of tenths has that number. -/
theorem rank_eq {v : Variant} {k : Nat} (hweight : v.weight = tenths k) (h : k ≤ 20) :
    v.rank = k := by
  have hall : ∀ k < 21, (match Binary.ofFloat (tenths k) with
      | .finite _ m e => (Ratio.ofBinary m e).round 10
      | _ => 0) = k := by decide +kernel
  rw [Variant.rank, hweight]
  exact hall k (Nat.lt_succ_of_le h)

namespace Variant.InTenths

variable {v : Variant}

theorem ranked_rank (h : v.InTenths) : v.ranked v.rank = v := by
  obtain ⟨k, -, hhigh, hweight⟩ := h
  rw [rank_eq hweight hhigh, ranked, ← hweight]

theorem rank_bounds (h : v.InTenths) : 1 ≤ v.rank ∧ v.rank ≤ 20 := by
  obtain ⟨k, hlow, hhigh, hweight⟩ := h
  rw [rank_eq hweight hhigh]
  exact ⟨hlow, hhigh⟩

end Variant.InTenths

theorem Feedback.move_eq (f : Feedback) (k : Nat) :
    f.move k =
      match f.nudge? with
      | some .raise => min 20 (k + 1)
      | some .lower => max 1 (k - 1)
      | none => k := by
  unfold Feedback.move Feedback.nudge?
  split
  · rfl
  · split <;> rfl

theorem Feedback.move_bounds (f : Feedback) {k : Nat} (h : 1 ≤ k ∧ k ≤ 20) :
    1 ≤ f.move k ∧ f.move k ≤ 20 := by
  unfold Feedback.move
  split
  · omega
  · split
    · omega
    · exact h

/-- A nudge of a whole number of tenths goes to the next, but not beyond the bounds. -/
theorem Nudge.apply_tenths {k : Nat} (h : 1 ≤ k ∧ k ≤ 20) :
    Nudge.raise.apply (tenths k) = tenths (min 20 (k + 1)) ∧
      Nudge.lower.apply (tenths k) = tenths (max 1 (k - 1)) := by
  have hall : ∀ k < 21, 1 ≤ k → Nudge.raise.apply (tenths k) = tenths (min 20 (k + 1)) ∧
      Nudge.lower.apply (tenths k) = tenths (max 1 (k - 1)) := by decide +kernel
  exact hall k (Nat.lt_succ_of_le h.2) h.1

/-! ### Feedback variant by variant -/

/-- What one item of feedback does to a variant. -/
def Feedback.teach (f : Feedback) (v : Variant) : Variant :=
  match f.nudge? with
  | some n => if v.id = f.variantId then { v with weight := n.apply v.weight } else v
  | none => v

/-- What feedback does to a variant, item by item. -/
def Variant.taught (v : Variant) (fs : List Feedback) : Variant :=
  fs.foldl (fun v f => f.teach v) v

theorem Feedback.teach_of_ne {f : Feedback} {v : Variant} (h : f.variantId ≠ v.id) :
    f.teach v = v := by
  unfold Feedback.teach
  split
  · exact if_neg (Ne.symm h)
  · rfl

theorem Feedback.teach_of_nudge?_eq_none {f : Feedback} (h : f.nudge? = none) (v : Variant) :
    f.teach v = v := by
  rw [Feedback.teach, h]

@[simp] theorem Variant.taught_cons (v : Variant) (f : Feedback) (fs : List Feedback) :
    v.taught (f :: fs) = (f.teach v).taught fs := rfl

theorem Variant.taught_append (v : Variant) (fs gs : List Feedback) :
    v.taught (fs ++ gs) = (v.taught fs).taught gs := List.foldl_append

theorem Variant.taught_replicate (v : Variant) (n : Nat) (f : Feedback) :
    v.taught (List.replicate n f) = f.teach^[n] v := by
  induction n generalizing v with
  | zero => rfl
  | succ n ih => exact ih (f.teach v)

theorem Feedback.teach_ranked (f : Feedback) (v : Variant) {k : Nat} (h : 1 ≤ k ∧ k ≤ 20)
    (hid : f.variantId = v.id) : f.teach (v.ranked k) = v.ranked (f.move k) := by
  obtain ⟨hraise, hlower⟩ := Nudge.apply_tenths h
  rw [Feedback.move_eq, Feedback.teach]
  match f.nudge? with
  | none => rfl
  | some .raise => simp only [Variant.ranked, hid, if_true, hraise]
  | some .lower => simp only [Variant.ranked, hid, if_true, hlower]

/-- A variant's number of tenths is the tally of the feedback it was taught. -/
theorem Variant.taught_ranked (v : Variant) {k : Nat} (h : 1 ≤ k ∧ k ≤ 20)
    (fs : List Feedback) : (v.ranked k).taught fs = v.ranked (tally v.id k fs) := by
  induction fs generalizing k with
  | nil => rfl
  | cons f fs ih =>
    rw [taught_cons, tally, naming_cons]
    by_cases hid : f.variantId = v.id
    · rw [f.teach_ranked v h hid, ih (f.move_bounds h), if_pos hid]
      rfl
    · have hne : f.variantId ≠ (v.ranked k).id := hid
      rw [Feedback.teach_of_ne hne, ih h, if_neg hid]
      rfl

theorem tally_bounds (id : String) {k : Nat} (h : 1 ≤ k ∧ k ≤ 20) (fs : List Feedback) :
    1 ≤ tally id k fs ∧ tally id k fs ≤ 20 := by
  unfold tally
  induction naming id fs generalizing k with
  | nil => exact h
  | cons f fs ih => exact ih (f.move_bounds h)

theorem Variant.InTenths.taught_eq {v : Variant} (h : v.InTenths) (fs : List Feedback) :
    v.taught fs = v.ranked (tally v.id v.rank fs) := by
  rw [← v.taught_ranked h.rank_bounds fs, h.ranked_rank]

theorem Variant.InTenths.taught {v : Variant} (h : v.InTenths) (fs : List Feedback) :
    (v.taught fs).InTenths := by
  obtain ⟨hlow, hhigh⟩ := tally_bounds v.id h.rank_bounds fs
  rw [h.taught_eq]
  exact ⟨_, hlow, hhigh, rfl⟩

/-- Feedback, each item as often as told. -/
def repeated (n : Nat) (fs : List Feedback) : List Feedback :=
  fs.flatMap (List.replicate n)

@[simp] theorem repeated_zero (fs : List Feedback) : repeated 0 fs = [] := by
  simp [repeated]

namespace Catalog

theorem getElem?_mapPlaces (c : Catalog) (g : Variant → Variant) (i : Nat) :
    (c.mapPlaces g).objects[i]? = c.objects[i]?.map g^[c.places.count i] :=
  getElem?_foldl_modify g c.places c.objects i

theorem mem_all_of_mem_places {c : Catalog} {i : Nat} {v : Variant} (hi : i ∈ c.places)
    (hv : c.objects[i]? = some v) : v ∈ c.all :=
  List.mem_filterMap.mpr ⟨i, hi, hv⟩

theorem mapPlaces_eq_self {c : Catalog} {g : Variant → Variant} (h : ∀ v ∈ c.all, g v = v) :
    c.mapPlaces g = c := by
  refine Catalog.ext (List.ext_getElem? fun i => ?_) rfl
  rw [getElem?_mapPlaces]
  cases hv : c.objects[i]? with
  | none => rfl
  | some v =>
    by_cases hi : i ∈ c.places
    · exact congrArg some (Function.iterate_fixed (h v (mem_all_of_mem_places hi hv)) _)
    · rw [List.count_eq_zero_of_not_mem hi]
      rfl

theorem learnOne_eq_mapPlaces (c : Catalog) (f : Feedback) :
    c.learnOne f = c.mapPlaces f.teach := by
  unfold learnOne
  cases hf : f.nudge? with
  | none => exact (mapPlaces_eq_self fun v _ => f.teach_of_nudge?_eq_none hf v).symm
  | some n =>
    have hteach : f.teach =
        fun v => if v.id = f.variantId then { v with weight := n.apply v.weight } else v := by
      funext v
      rw [Feedback.teach, hf]
    rw [hteach]
    rfl

theorem groups_learn (c : Catalog) (fs : List Feedback) : (c.learn fs).groups = c.groups := by
  induction fs generalizing c with
  | nil => rfl
  | cons f fs ih => rw [learn_cons, ih, learnOne_eq_mapPlaces, mapPlaces]

theorem places_learn (c : Catalog) (fs : List Feedback) : (c.learn fs).places = c.places := by
  rw [places, groups_learn, places]

/-- Feedback teaches each variant by itself, each item once for every place in which it stands. -/
theorem getElem?_learn (c : Catalog) (fs : List Feedback) (i : Nat) :
    (c.learn fs).objects[i]? =
      c.objects[i]?.map fun v => v.taught (repeated (c.places.count i) fs) := by
  induction fs generalizing c with
  | nil =>
    change c.objects[i]? = c.objects[i]?.map id
    rw [Option.map_id_fun, id]
  | cons f fs ih =>
    have hplaces : (c.learnOne f).places = c.places := c.places_learn [f]
    have hone (v : Variant) : (f.teach^[c.places.count i] v).taught
        (repeated (c.places.count i) fs) = v.taught (repeated (c.places.count i) (f :: fs)) := by
      rw [repeated, repeated, List.flatMap_cons, Variant.taught_append, Variant.taught_replicate]
    rw [learn_cons, ih, hplaces, learnOne_eq_mapPlaces, getElem?_mapPlaces, Option.map_map]
    exact congrArg (c.objects[i]?.map ·) (funext hone)

/-- A variant that stands in two places is moved twice by one item. -/
example :
    let v : Variant := ⟨"a", "A", "", .expert, .implementation, "a.md", tenths 10⟩
    let c := (empty.register "blog" v).share "saas" 0
    (c.learn [⟨"a", 5, .helpful, ""⟩]).variants "blog" = [v.ranked 12] := by
  decide +kernel

end Catalog

/-! ### Runs of a selector -/

/-- What may be asked of a selector. -/
inductive SelectorStep where
  | register (archetype : String) (v : Variant)
  | share (archetype : String) (i : Nat)
  | learn (fs : List Feedback)
  | select (s : Selection)
  | available (archetype : String)

namespace SelectorStep

/-- The catalog after a step; choosing and listing only look at it. -/
def next (c : Catalog) : SelectorStep → Catalog
  | .register archetype v => c.register archetype v
  | .share archetype i => c.share archetype i
  | .learn fs => c.learn fs
  | .select _ => c
  | .available _ => c

def feedback : SelectorStep → List Feedback
  | .learn fs => fs
  | _ => []

/-- The variant is registered by the step. -/
def Registers (v : Variant) : SelectorStep → Prop
  | .register _ w => w = v
  | _ => False

/-- A variant that there is already is registered once more by the step. -/
def Shares : SelectorStep → Prop
  | .share _ _ => True
  | _ => False

end SelectorStep

namespace Catalog

def run (c : Catalog) (steps : List SelectorStep) : Catalog :=
  steps.foldl SelectorStep.next c

@[simp] theorem run_nil (c : Catalog) : c.run [] = c := rfl
end Catalog

/-! ### Steps -/

namespace SelectorStep

/-- The numbers of the variants that a step registers under an archetype. -/
def adds (c : Catalog) (archetype : String) : SelectorStep → List Nat
  | .register a _ => if Text.lowered a = Text.lowered archetype then [c.objects.length] else []
  | .share a i =>
    if i < c.objects.length ∧ Text.lowered a = Text.lowered archetype then [i] else []
  | _ => []

variable {c : Catalog} {step : SelectorStep}

end SelectorStep

/-! ### Runs -/

/-- The feedback of some steps as it comes to the variant of a number: each item once for every
place in which the variant stands by then. -/
def lessonsFor (i : Nat) (c : Catalog) : List SelectorStep → List Feedback
  | [] => []
  | step :: steps =>
    repeated (c.places.count i) step.feedback ++ lessonsFor i (step.next c) steps

namespace Catalog

/-- The variant of a number with the feedback of some steps that comes to it. -/
def entry (c : Catalog) (steps : List SelectorStep) (i : Nat) : Option (Variant × List Feedback) :=
  c.objects[i]?.map (·, lessonsFor i c steps)

/-- The variants that the steps register under an archetype, each as it is by then and with the
feedback that comes to it from then on. -/
def added (c : Catalog) (archetype : String) : List SelectorStep → List (Variant × List Feedback)
  | [] => []
  | step :: steps =>
    (step.adds c archetype).filterMap ((step.next c).entry steps) ++
      (step.next c).added archetype steps

/-- The variants of an archetype and those that the steps register under it, with their feedback. -/
def log (c : Catalog) (archetype : String) (steps : List SelectorStep) :
    List (Variant × List Feedback) :=
  (c.placesOf archetype).filterMap (c.entry steps) ++ c.added archetype steps

/-- Every weight is a whole number of tenths within the bounds. -/
def InTenths (c : Catalog) : Prop :=
  ∀ v ∈ c.objects, v.InTenths

theorem InTenths.next {c : Catalog} (h : c.InTenths) {step : SelectorStep}
    (hstep : ∀ v, step.Registers v → v.InTenths) : (step.next c).InTenths := by
  cases step with
  | register a v =>
    intro w hw
    rw [SelectorStep.next, objects_register] at hw
    rcases List.mem_append.mp hw with hw | hw
    · exact h w hw
    · exact hstep w (List.mem_singleton.mp hw).symm
  | share a i => rwa [SelectorStep.next, InTenths, objects_share]
  | learn fs =>
    intro w hw
    obtain ⟨i, hi⟩ := List.mem_iff_getElem?.mp hw
    rw [SelectorStep.next, getElem?_learn] at hi
    obtain ⟨v, hv, rfl⟩ := Option.map_eq_some_iff.mp hi
    exact (h v (List.mem_of_getElem? hv)).taught _
  | select s => exact h
  | available a => exact h

/-- No variant stands in two places. -/
def Distinct (c : Catalog) : Prop :=
  c.places.Nodup

instance (c : Catalog) : Decidable c.Distinct :=
  inferInstanceAs (Decidable c.places.Nodup)

theorem Distinct.next {c : Catalog} (h : c.Distinct) {step : SelectorStep}
    (hstep : ¬step.Shares) : (step.next c).Distinct := by
  cases step with
  | register a v =>
    have hperm := flatMap_addTo_perm (Text.lowered a) c.objects.length c.groups
    have hplaces : ((SelectorStep.register a v).next c).places =
        (addTo (Text.lowered a) c.objects.length c.groups).flatMap (·.2) := by
      simp [SelectorStep.next, register, share, places]
    rw [Distinct, hplaces, hperm.nodup_iff, List.nodup_append]
    refine ⟨h, List.nodup_singleton _, ?_⟩
    rintro i hi j hj rfl
    exact absurd (c.listed i hi) (Nat.not_lt.mpr (List.mem_singleton.mp hj).ge)
  | share a i => exact absurd trivial hstep
  | learn fs => rwa [SelectorStep.next, Distinct, places_learn]
  | select s => exact h
  | available a => exact h

variable {c : Catalog} {steps : List SelectorStep}

end Catalog

end Promptsmith
