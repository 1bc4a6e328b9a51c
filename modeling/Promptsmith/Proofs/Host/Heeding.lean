import Promptsmith.Host

/-!
# What a console takes

An operation that hands texts to a console runs as it does on a quiet one as long as every text is
taken. The first text that is refused ends it, with the console's complaint. So what is proved of
runs on a quiet console holds on any console of the runs whose texts are all taken.
-/
namespace EStateM

variable {ε σ α β : Type} {x : EStateM ε σ α} {next : α → EStateM ε σ β} {s t : σ}

theorem bind_ok {a : α} (h : x s = .ok a t) : (x >>= next) s = next a t := by
  change EStateM.bind x next s = next a t
  unfold EStateM.bind
  rw [h]

theorem bind_error {e : ε} (h : x s = .error e t) : (x >>= next) s = .error e t := by
  change EStateM.bind x next s = .error e t
  unfold EStateM.bind
  rw [h]

end EStateM

namespace Promptsmith

/-- States that tell which texts were handed to a console so far. -/
class Handing (σ : Type) where
  handed : σ → List String

variable {σ α β : Type} [Handing σ] [Console]

/-- Every text was taken. -/
def Heard (s : σ) : Prop :=
  ∀ text ∈ Handing.handed s, Console.refusal? text = none

omit [Console] in
theorem heard_quiet (s : σ) : @Heard σ _ .quiet s := fun _ _ => rfl

/-- A text was refused with the complaint. -/
def Refused (s : σ) (message : String) : Prop :=
  ∃ text ∈ Handing.handed s, Console.refusal? text = some message

theorem Refused.not_heard {s : σ} {message : String} (h : Refused s message) : ¬Heard s := by
  obtain ⟨text, htext, hrefused⟩ := h
  intro hheard
  rw [hheard text htext] at hrefused
  cases hrefused

/-- The first run ends like the second with every text taken, or is broken off at a text that is
refused. -/
inductive Heeded : EStateM.Result Failure σ α → EStateM.Result Failure σ α → Prop
  | ok {a : α} {t : σ} (h : Heard t) : Heeded (.ok a t) (.ok a t)
  | error {f : Failure} {t : σ} (h : Heard t) : Heeded (.error f t) (.error f t)
  | refused {message : String} {t : σ} {r : EStateM.Result Failure σ α} (h : Refused t message) :
      Heeded (.error (.markup message) t) r

/-- Where every text was taken so far, the operation runs like the second or is broken off. -/
structure Heeds (act quiet : EStateM Failure σ α) : Prop where
  run : ∀ s : σ, Heard s → Heeded (act s) (quiet s)

theorem Heeds.pure (a : α) : Heeds (pure a : EStateM Failure σ α) (pure a) :=
  ⟨fun _ hs => .ok hs⟩

theorem Heeds.throw (f : Failure) : Heeds (throw f : EStateM Failure σ α) (throw f) :=
  ⟨fun _ hs => .error hs⟩

theorem Heeds.bind {act quiet : EStateM Failure σ α} {next nextQuiet : α → EStateM Failure σ β}
    (h : Heeds act quiet) (hnext : ∀ a, Heeds (next a) (nextQuiet a)) :
    Heeds (act >>= next) (quiet >>= nextQuiet) := by
  constructor
  intro s hs
  have hrun := h.run s hs
  generalize hact : act s = result at hrun
  generalize hquiet : quiet s = result' at hrun
  cases hrun with
  | ok ht =>
    rw [EStateM.bind_ok hact, EStateM.bind_ok hquiet]
    exact (hnext _).run _ ht
  | error ht =>
    rw [EStateM.bind_error hact, EStateM.bind_error hquiet]
    exact .error ht
  | refused ht =>
    rw [EStateM.bind_error hact]
    exact .refused ht

theorem Heeds.forM {f g : β → EStateM Failure σ PUnit} (h : ∀ b, Heeds (f b) (g b))
    (xs : List β) : Heeds (xs.forM f) (xs.forM g) := by
  induction xs with
  | nil => exact .pure _
  | cons x xs ih => exact .bind (h x) fun _ => ih

theorem Heeds.mapM {f g : β → EStateM Failure σ α} (h : ∀ b, Heeds (f b) (g b)) (xs : List β) :
    Heeds (xs.mapM f) (xs.mapM g) := by
  induction xs with
  | nil => exact .pure _
  | cons x xs ih =>
    rw [List.mapM_cons, List.mapM_cons]
    exact .bind (h x) fun _ => .bind ih fun _ => .pure _

/-- An operation that hands over nothing runs the same everywhere. -/
theorem Heeds.of_silent {act : EStateM Failure σ α}
    (h : ∀ s, match act s with
      | .ok _ t => Handing.handed t = Handing.handed s
      | .error _ t => Handing.handed t = Handing.handed s) : Heeds act act := by
  constructor
  intro s hs
  have hrun := h s
  unfold Heard at hs
  cases hact : act s with
  | ok a t =>
    rw [hact] at hrun
    rw [← hrun] at hs
    exact .ok hs
  | error f t =>
    rw [hact] at hrun
    rw [← hrun] at hs
    exact .error hs

end Promptsmith
