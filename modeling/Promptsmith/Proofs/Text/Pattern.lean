import Mathlib.Data.List.Forall2

/-!
# Patterns

A pattern takes pieces of a text one after the other: single characters, and runs that are as long
or as short as the rest of the pattern allows. A search goes from left to right and cuts the text at
each place where the pattern matches. No pattern searched for here matches the empty text.
-/
namespace Promptsmith.Text

/-- One part of a pattern: a character of a class, or a run of them. -/
inductive Pattern.Step where
  | one (p : Char → Bool)
  | longest (p : Char → Bool)
  | shortest (p : Char → Bool)

abbrev Pattern := List Pattern.Step

namespace Pattern

/-! ### Matches at the start of a text -/

section

variable {α : Type}

/-- The ways to take a run in front and to go on behind it, the shorter runs first. -/
def ways (p : Char → Bool) (next : List Char → Option α) : List Char → List (List Char × α)
  | [] => (next []).toList.map ([], ·)
  | c :: r =>
    (next (c :: r)).toList.map ([], ·) ++
      if p c then (ways p next r).map fun (u, x) => (c :: u, x) else []

end

/-- The match at the start of a text: its pieces, and what follows them. -/
def read? : Pattern → List Char → Option (List (List Char) × List Char)
  | [], s => some ([], s)
  | .one _ :: _, [] => none
  | .one p :: steps, c :: r =>
    if p c then (read? steps r).map fun (pieces, after) => ([c] :: pieces, after) else none
  | .longest p :: steps, s =>
    (ways p (read? steps) s).getLast?.map fun (u, pieces, after) => (u :: pieces, after)
  | .shortest p :: steps, s =>
    (ways p (read? steps) s).head?.map fun (u, pieces, after) => (u :: pieces, after)

section

variable {α : Type} {p : Char → Bool} {next : List Char → Option α}

theorem cons_mem_ways_iff {c d : Char} {r u : List Char} {x : α} :
    (d :: u, x) ∈ ways p next (c :: r) ↔ d = c ∧ p c ∧ (u, x) ∈ ways p next r := by
  rw [ways]
  cases p c with
  | true => simp [eq_comm, and_comm]
  | false => simp

theorem mem_ways_iff {s u : List Char} {x : α} :
    (u, x) ∈ ways p next s ↔ ∃ t, s = u ++ t ∧ (∀ c ∈ u, p c) ∧ next t = some x := by
  induction s generalizing u with
  | nil => cases u <;> simp [ways]
  | cons c r ih =>
    cases u with
    | nil => cases hc : p c <;> simp [ways, hc]
    | cons d u =>
      rw [cons_mem_ways_iff, ih]
      constructor
      · rintro ⟨rfl, hc, t, rfl, hu, hx⟩
        exact ⟨t, rfl, List.forall_mem_cons.mpr ⟨hc, hu⟩, hx⟩
      · rintro ⟨t, heq, hu, hx⟩
        obtain ⟨rfl, rfl⟩ := List.cons.inj heq
        rw [List.forall_mem_cons] at hu
        exact ⟨rfl, hu.1, t, rfl, hu.2, hx⟩

theorem ways_eq_nil_iff {s : List Char} :
    ways p next s = [] ↔ ∀ u t, s = u ++ t → (∀ c ∈ u, p c) → next t = none := by
  rw [List.eq_nil_iff_forall_not_mem]
  constructor
  · intro h u t heq hu
    rw [Option.eq_none_iff_forall_ne_some]
    intro x hx
    exact h (u, x) (mem_ways_iff.mpr ⟨t, heq, hu, hx⟩)
  · rintro h ⟨u, x⟩ hmem
    obtain ⟨t, heq, hu, hx⟩ := mem_ways_iff.mp hmem
    rw [h u t heq hu] at hx
    cases hx

/-- The whole run in front is taken if one can go on behind it. -/
theorem getLast?_ways {s : List Char} {x : α} (h : next (s.dropWhile p) = some x) :
    (ways p next s).getLast? = some (s.takeWhile p, x) := by
  induction s with
  | nil =>
    rw [List.dropWhile_nil] at h
    simp [ways, h]
  | cons c r ih =>
    cases hc : p c with
    | true =>
      rw [List.dropWhile_cons_of_pos hc] at h
      simp [ways, hc, List.getLast?_append, ih h]
    | false =>
      rw [List.dropWhile_cons_of_neg (by simp [hc])] at h
      simp [ways, hc, h]

/-- A run is taken if one can go on behind it and behind no shorter one. -/
theorem head?_ways {u t : List Char} {x : α} (hu : ∀ c ∈ u, p c) (ht : next t = some x)
    (hfirst : ∀ v w, v ++ w = u → w ≠ [] → next (w ++ t) = none) :
    (ways p next (u ++ t)).head? = some (u, x) := by
  induction u with
  | nil => cases t <;> simp [ways, ht]
  | cons c u ih =>
    rw [List.forall_mem_cons] at hu
    have hnone := hfirst [] (c :: u) rfl (List.cons_ne_nil c u)
    have hrest := ih hu.2 fun v w hvw hw => hfirst (c :: v) w (congrArg (c :: ·) hvw) hw
    rw [List.cons_append] at hnone ⊢
    simp [ways, hnone, hu.1, hrest]

end

/-- The piece is one that the step takes. -/
def Step.Takes : Step → List Char → Prop
  | .one p, u => ∃ c, u = [c] ∧ p c
  | .longest p, u => ∀ c ∈ u, p c
  | .shortest p, u => ∀ c ∈ u, p c

/-- The pieces of a match are what the steps take, and they stand in front of the rest. -/
theorem read?_sound {steps : Pattern} {s after : List Char} {pieces : List (List Char)}
    (h : read? steps s = some (pieces, after)) :
    List.Forall₂ Step.Takes steps pieces ∧ s = pieces.flatten ++ after := by
  induction steps generalizing s pieces with
  | nil =>
    cases h
    exact ⟨.nil, rfl⟩
  | cons step steps ih =>
    cases step with
    | one p =>
      cases s with
      | nil => cases h
      | cons c r =>
        rw [read?] at h
        split at h
        · next hc =>
          obtain ⟨⟨rest, more⟩, hrest, heq⟩ := Option.map_eq_some_iff.mp h
          cases heq
          obtain ⟨htakes, rfl⟩ := ih hrest
          exact ⟨.cons ⟨c, rfl, hc⟩ htakes, rfl⟩
        · cases h
    | longest p =>
      obtain ⟨⟨u, rest, more⟩, hu, heq⟩ := Option.map_eq_some_iff.mp h
      cases heq
      obtain ⟨t, rfl, hall, ht⟩ := mem_ways_iff.mp (List.mem_of_getLast? hu)
      obtain ⟨htakes, rfl⟩ := ih ht
      exact ⟨.cons hall htakes, by simp⟩
    | shortest p =>
      obtain ⟨⟨u, rest, more⟩, hu, heq⟩ := Option.map_eq_some_iff.mp h
      cases heq
      obtain ⟨t, rfl, hall, ht⟩ := mem_ways_iff.mp (List.mem_of_head? hu)
      obtain ⟨htakes, rfl⟩ := ih ht
      exact ⟨.cons hall htakes, by simp⟩

end Pattern

/-! ### Search -/

/-- A text cut at the matches of a pattern: the gap before each match, the match in its pieces, and
the rest after the last one. -/
inductive Cutting where
  | rest (text : List Char)
  | found (gap : List Char) (pieces : List (List Char)) (next : Cutting)
  deriving Repr

namespace Cutting

/-- Puts a character in front. -/
def push (c : Char) : Cutting → Cutting
  | .rest text => .rest (c :: text)
  | .found gap pieces next => .found (c :: gap) pieces next

/-- What stands between the matches. -/
def parts : Cutting → List (List Char)
  | .rest text => [text]
  | .found gap _ next => gap :: next.parts

/-- The text with a character in place of each match. -/
def replaced (new : Char) : Cutting → List Char
  | .rest text => text
  | .found gap _ next => gap ++ new :: next.replaced new

@[simp] theorem replaced_push (new c : Char) (t : Cutting) :
    (t.push c).replaced new = c :: t.replaced new := by
  cases t <;> rfl

end Cutting

namespace Pattern

/-- Cuts a text; the first `skip` characters still belong to the last match. -/
def cutFrom (steps : Pattern) : Nat → List Char → Cutting
  | _, [] => .rest []
  | skip + 1, _ :: r => cutFrom steps skip r
  | 0, c :: r =>
    match read? steps (c :: r) with
    | some (pieces, _) => .found [] pieces (cutFrom steps (pieces.flatten.length - 1) r)
    | none => (cutFrom steps 0 r).push c

/-- A text cut at the matches that a search from left to right finds. -/
def cut (steps : Pattern) (s : List Char) : Cutting :=
  cutFrom steps 0 s

theorem cutFrom_append (steps : Pattern) (u t : List Char) :
    cutFrom steps u.length (u ++ t) = cut steps t := by
  induction u with
  | nil => rfl
  | cons c u ih => exact ih

theorem cut_of_none {steps : Pattern} {c : Char} {r : List Char}
    (h : read? steps (c :: r) = none) : cut steps (c :: r) = (cut steps r).push c := by
  rw [cut, cutFrom, h]
  rfl

theorem cut_of_some {steps : Pattern} {pieces : List (List Char)} {after : List Char}
    (h : read? steps (pieces.flatten ++ after) = some (pieces, after)) (hne : pieces.flatten ≠ []) :
    cut steps (pieces.flatten ++ after) = .found [] pieces (cut steps after) := by
  obtain ⟨c, u, hu⟩ := List.exists_cons_of_ne_nil hne
  rw [hu, List.cons_append] at h ⊢
  rw [cut, cutFrom, h]
  dsimp only
  rw [hu]
  exact congrArg (Cutting.found [] pieces) (cutFrom_append steps u after)

/-- A pattern that takes a character somewhere does not match the empty text. -/
theorem flatten_ne_nil {steps : Pattern} {pieces : List (List Char)} {p : Char → Bool}
    (h : List.Forall₂ Step.Takes steps pieces) (hone : .one p ∈ steps) : pieces.flatten ≠ [] := by
  induction h with
  | nil => cases hone
  | cons htakes _ ih =>
    rcases List.mem_cons.mp hone with rfl | hone
    · obtain ⟨c, rfl, -⟩ := htakes
      simp
    · simp [ih hone]

/-- Along a search: a match is left behind whole, and a place without a match by one character. -/
theorem cut_induction {steps : Pattern} {p : Char → Bool} (hone : .one p ∈ steps)
    {motive : List Char → Cutting → Prop} (nil : motive [] (.rest []))
    (found : ∀ pieces after, List.Forall₂ Step.Takes steps pieces →
      read? steps (pieces.flatten ++ after) = some (pieces, after) →
      motive after (cut steps after) →
      motive (pieces.flatten ++ after) (.found [] pieces (cut steps after)))
    (pass : ∀ c r, read? steps (c :: r) = none → motive r (cut steps r) →
      motive (c :: r) ((cut steps r).push c)) (s : List Char) : motive s (cut steps s) := by
  induction hn : s.length using Nat.strongRecOn generalizing s with
  | _ n ih =>
    subst hn
    match s with
    | [] => exact nil
    | c :: r =>
      cases h : read? steps (c :: r) with
      | none =>
        rw [cut_of_none h]
        exact pass c r h (ih _ (Nat.lt_succ_self r.length) r rfl)
      | some m =>
        obtain ⟨pieces, after⟩ := m
        obtain ⟨htakes, heq⟩ := read?_sound h
        have hne := flatten_ne_nil htakes hone
        have hlt : after.length < (c :: r).length := by
          have hpos := List.length_pos_of_ne_nil hne
          rw [heq, List.length_append]
          omega
        rw [heq] at h ⊢
        rw [cut_of_some h hne]
        exact found pieces after htakes h (ih _ hlt after rfl)

end Pattern

end Promptsmith.Text
