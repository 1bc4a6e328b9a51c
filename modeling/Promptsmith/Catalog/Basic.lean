import Promptsmith.Catalog.Feedback
import Promptsmith.Failure
import Promptsmith.Text.Case

/-!
# The catalog of variants

Variants are registered under archetypes, whose case does not matter, and keep the order in which
they came. A variant that is registered is an object, which can be registered once more and then
stands in two places. Feedback moves the weights of all variants with the id it names, place by
place, and changes nothing else.
-/
namespace Promptsmith

/-- Adds an item at the end of its group. -/
def addTo {α : Type} (key : String) (x : α) : List (String × List α) → List (String × List α)
  | [] => [(key, [x])]
  | (k, xs) :: r => if k = key then (k, xs ++ [x]) :: r else (k, xs) :: addTo key x r

theorem flatMap_addTo_perm {α : Type} (key : String) (x : α) (groups : List (String × List α)) :
    ((addTo key x groups).flatMap (·.2)).Perm (groups.flatMap (·.2) ++ [x]) := by
  induction groups with
  | nil => simp [addTo]
  | cons g groups ih =>
    obtain ⟨k, xs⟩ := g
    rw [addTo]
    split
    · simp only [List.flatMap_cons, List.append_assoc]
      exact List.Perm.append_left xs List.perm_append_comm
    · simp only [List.flatMap_cons, List.append_assoc]
      exact List.Perm.append_left xs ih

/-- The variants, and for each archetype the numbers of those that are registered under it. -/
@[ext]
structure Catalog where
  objects : List Variant
  groups : List (String × List Nat)
  listed : ∀ i ∈ groups.flatMap (·.2), i < objects.length
  deriving DecidableEq, Repr

namespace Catalog

def empty : Catalog := ⟨[], [], nofun⟩

/-- The numbers of the variants place by place, group by group. -/
def places (c : Catalog) : List Nat :=
  c.groups.flatMap (·.2)

/-- The variants of some numbers. -/
def pick (c : Catalog) (is : List Nat) : List Variant :=
  is.filterMap (c.objects[·]?)

/-- The numbers of an archetype's variants in order of registration. -/
def placesOf (c : Catalog) (archetype : String) : List Nat :=
  (List.lookup (Text.lowered archetype) c.groups).getD []

/-- The variants of an archetype in order of registration. -/
def variants (c : Catalog) (archetype : String) : List Variant :=
  c.pick (c.placesOf archetype)

/-- All variants, group by group. -/
def all (c : Catalog) : List Variant :=
  c.pick c.places

/-- Registers a variant that there is already. -/
def share (c : Catalog) (archetype : String) (i : Nat) : Catalog :=
  if h : i < c.objects.length then
    ⟨c.objects, addTo (Text.lowered archetype) i c.groups, fun j hj => by
      have hmem := (flatMap_addTo_perm _ i c.groups).mem_iff.mp hj
      rcases List.mem_append.mp hmem with hmem | hmem
      · exact c.listed j hmem
      · rwa [List.mem_singleton.mp hmem]⟩
  else c

/-- Registers a new variant. -/
def register (c : Catalog) (archetype : String) (v : Variant) : Catalog :=
  share ⟨c.objects ++ [v], c.groups, fun i hi => by simp [Nat.lt_succ_of_lt (c.listed i hi)]⟩
    archetype c.objects.length

@[simp] theorem objects_share (c : Catalog) (archetype : String) (i : Nat) :
    (c.share archetype i).objects = c.objects := by
  unfold share
  split <;> rfl

@[simp] theorem objects_register (c : Catalog) (archetype : String) (v : Variant) :
    (c.register archetype v).objects = c.objects ++ [v] := by
  rw [register, objects_share]

theorem length_foldl_modify {α : Type} (g : α → α) (is : List Nat) (xs : List α) :
    (is.foldl (fun xs i => xs.modify i g) xs).length = xs.length := by
  induction is generalizing xs with
  | nil => rfl
  | cons i is ih => rw [List.foldl_cons, ih, List.length_modify]

/-- Changes the variants place by place. -/
def mapPlaces (c : Catalog) (g : Variant → Variant) : Catalog where
  objects := c.places.foldl (fun vs i => vs.modify i g) c.objects
  groups := c.groups
  listed i hi := by
    rw [length_foldl_modify]
    exact c.listed i hi

/-- Changes the weights of the variants with an id. -/
def reweigh (c : Catalog) (id : String) (f : Float → Float) : Catalog :=
  c.mapPlaces fun v => if v.id = id then { v with weight := f v.weight } else v

def hasId (c : Catalog) (id : String) : Bool :=
  c.all.any (·.id == id)

def learnOne (c : Catalog) (f : Feedback) : Catalog :=
  match f.nudge? with
  | some n => c.reweigh f.variantId n.apply
  | none => c

/-- Applies feedback item by item. -/
def learn (c : Catalog) (fs : List Feedback) : Catalog :=
  fs.foldl learnOne c

@[simp] theorem learn_nil (c : Catalog) : c.learn [] = c := rfl
@[simp] theorem learn_cons (c : Catalog) (f : Feedback) (fs : List Feedback) :
    c.learn (f :: fs) = (c.learnOne f).learn fs := rfl

def ignoredNote (id : String) : String :=
  "[dim]Feedback for unknown variant '" ++ id ++ "' ignored[/dim]"

/-- Feedback that would move a weight and names no variant. -/
def ignores (c : Catalog) (f : Feedback) : Bool :=
  f.nudge?.isSome && !c.hasId f.variantId

/-- Gives the variants with an id a weight, if it is one. -/
def setWeight (c : Catalog) (id : String) (weight : Value) : Except Failure Catalog :=
  if c.hasId id then
    match (Variant.checkWeight weight).under "weight" with
    | .valid w => .ok (c.reweigh id fun _ => w)
    | .invalid ps => .error (.invalid "TemplateVariant" ps)
  else .ok c

/-- A catalog of new variants. -/
def ofGroups (groups : List (String × List Variant)) : Catalog :=
  groups.foldl (fun c g => g.2.foldl (fun c v => c.register g.1 v) c) empty

/-- Registers the variants of one archetype as they are written. -/
def registerAll (c : Catalog) (archetype : String) : List Value → Except Failure Catalog
  | [] => .ok c
  | v :: r =>
    match v.makeRecord "TemplateVariant" Variant.check with
    | .ok variant => (c.register archetype variant).registerAll archetype r
    | .error e => .error e

/-- A catalog as it is written: lists of variants under archetypes. -/
def ofFields (c : Catalog) : Fields → Except Failure Catalog
  | [] => .ok c
  | (archetype, v) :: r =>
    match v.iterate with
    | .error e => .error e
    | .ok vs =>
      match c.registerAll archetype vs with
      | .error e => .error e
      | .ok c => c.ofFields r

end Catalog

/-- The variants that come with the library. -/
def bundledVariants : List (Archetype × List Variant) := [
  (.ecommerce, [
    { id := "ecommerce-beginner"
      name := "E-commerce beginner guide"
      description := "Step-by-step guidance for first-time store builders"
      audience := .beginner
      focus := .implementation
      bodyPath := "ecommerce/beginner-guide.md"
      weight := 1.0 },
    { id := "ecommerce-architecture"
      name := "E-commerce architecture deep dive"
      description := "System architecture and scalability of a store"
      audience := .expert
      focus := .architecture
      bodyPath := "ecommerce/architecture-focused.md"
      weight := 1.0 },
    { id := "ecommerce-practices"
      name := "E-commerce best practices"
      description := "Security and performance for production stores"
      audience := .intermediate
      focus := .bestPractices
      bodyPath := "ecommerce/best-practices.md"
      weight := 1.0 }]),
  (.saas, [
    { id := "saas-mvp"
      name := "SaaS MVP"
      description := "Ship a minimum viable product quickly"
      audience := .beginner
      focus := .implementation
      bodyPath := "saas/mvp-focused.md"
      weight := 1.0 },
    { id := "saas-enterprise"
      name := "SaaS enterprise grade"
      description := "Enterprise SaaS architecture and security"
      audience := .expert
      focus := .architecture
      bodyPath := "saas/enterprise-grade.md"
      weight := 1.0 }]),
  (.blog, [
    { id := "blog-simple"
      name := "Simple blog"
      description := "Streamlined guidance for a personal blog"
      audience := .beginner
      focus := .implementation
      bodyPath := "blog/simple-blog.md"
      weight := 1.0 }]),
  (.portfolio, [
    { id := "portfolio-creative"
      name := "Creative portfolio"
      description := "Visual impact and creative presentation"
      audience := .intermediate
      focus := .implementation
      bodyPath := "portfolio/creative-focused.md"
      weight := 1.0 }]),
  (.dashboard, [
    { id := "dashboard-analytics"
      name := "Analytics dashboard"
      description := "Data visualisation and analysis"
      audience := .intermediate
      focus := .implementation
      bodyPath := "dashboard/analytics-focused.md"
      weight := 1.0 }])]

/-- The catalog that an engine starts with. -/
def Catalog.bundled : Catalog :=
  .ofGroups (bundledVariants.map fun (a, vs) => (a.name, vs))

end Promptsmith
