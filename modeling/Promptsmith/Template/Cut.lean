import Promptsmith.Text.Blank

/-!
# Brace pairs

A pair opens with two braces and ends at the first two closing braces after the white space that
follows; what it holds, less the white space before the closing braces, lies on one line. A text is
cut at its pairs from left to right: nothing is lost, and a failed opening is ordinary text.
-/
namespace Promptsmith.Template

open Promptsmith.Text

/-- A text taken apart at its first two closing braces. -/
def splitAtClosing : List Char → Option (List Char × List Char)
  | [] => none
  | '}' :: '}' :: r => some ([], r)
  | c :: r => (splitAtClosing r).map fun (before, after) => (c :: before, after)

theorem eq_of_splitAtClosing {s before after : List Char}
    (h : splitAtClosing s = some (before, after)) : s = before ++ '}' :: '}' :: after := by
  fun_induction splitAtClosing s generalizing before with
  | case1 => simp at h
  | case2 r => simp only [Option.some.injEq, Prod.mk.injEq] at h; simp [← h.1, ← h.2]
  | case3 c r _ ih =>
    simp only [Option.map_eq_some_iff, Prod.mk.injEq, Prod.exists] at h
    obtain ⟨b, a, hr, rfl, rfl⟩ := h
    simp [ih hr]

/-- A pair as it stands in the text, and what it holds. -/
structure Pair where
  source : List Char
  inner : List Char
  deriving DecidableEq, Repr

/-- Reads the rest of a pair after its opening braces: the pair, and what follows it. -/
def Pair.close? (s : List Char) : Option (Pair × List Char) :=
  match splitAtClosing (s.dropWhile isBlank) with
  | none => none
  | some (raw, after) =>
    let inner := trimEnd raw
    if '\n' ∈ inner then none
    else some (⟨'{' :: '{' :: s.takeWhile isBlank ++ raw ++ ['}', '}'], inner⟩, after)

/-- Reads a pair at the start of a text. -/
def Pair.read? : List Char → Option (Pair × List Char)
  | '{' :: '{' :: r => Pair.close? r
  | _ => none

theorem Pair.source_append_of_close? {s after : List Char} {p : Pair}
    (h : Pair.close? s = some (p, after)) : p.source ++ after = '{' :: '{' :: s := by
  unfold Pair.close? at h
  split at h
  · simp at h
  · next raw rest hs =>
    dsimp only at h
    split at h
    · simp at h
    · simp only [Option.some.injEq, Prod.mk.injEq] at h
      obtain ⟨rfl, rfl⟩ := h
      have := eq_of_splitAtClosing hs
      simp only [List.cons_append, List.append_assoc, List.nil_append, ← this,
        List.takeWhile_append_dropWhile]

/-- A pair and what follows it make up the text. -/
theorem Pair.source_append_of_read? {s after : List Char} {p : Pair}
    (h : Pair.read? s = some (p, after)) : p.source ++ after = s := by
  unfold Pair.read? at h
  split at h
  · exact Pair.source_append_of_close? h
  · simp at h

theorem Pair.two_le_of_read? {s after : List Char} {p : Pair}
    (h : Pair.read? s = some (p, after)) : 2 ≤ p.source.length := by
  unfold Pair.read? Pair.close? at h
  split at h
  · split at h
    · simp at h
    · dsimp only at h
      split at h
      · simp at h
      · simp only [Option.some.injEq, Prod.mk.injEq] at h
        rw [← h.1]
        simp
  · simp at h

theorem Pair.length_lt_of_read? {s after : List Char} {p : Pair}
    (h : Pair.read? s = some (p, after)) : after.length < s.length := by
  have := Pair.source_append_of_read? h
  have := Pair.two_le_of_read? h
  simp only [← Pair.source_append_of_read? h, List.length_append]
  omega

/-- A text cut at its pairs: the gap before each pair, the pair, and the rest after the last. -/
inductive Cut where
  | rest (text : List Char)
  | pair (gap : List Char) (pair : Pair) (next : Cut)
  deriving DecidableEq, Repr

namespace Cut

/-- Puts a character in front. -/
def push (c : Char) : Cut → Cut
  | .rest text => .rest (c :: text)
  | .pair gap p next => .pair (c :: gap) p next

/-- The text that was cut. -/
def text : Cut → List Char
  | .rest text => text
  | .pair gap p next => gap ++ p.source ++ next.text

@[simp] theorem text_push (c : Char) (t : Cut) : (t.push c).text = c :: t.text := by
  cases t <;> simp [push, text]

def ofText (s : List Char) : Cut :=
  match s with
  | [] => .rest []
  | c :: r =>
    match h : Pair.read? (c :: r) with
    | some (p, after) =>
      have := Pair.length_lt_of_read? h
      .pair [] p (ofText after)
    | none => (ofText r).push c
termination_by s.length
decreasing_by
  · exact this
  · exact Nat.lt_succ_self r.length

@[simp] theorem ofText_nil : ofText [] = .rest [] := by
  rw [ofText]

/-- Cutting loses nothing. -/
@[simp] theorem text_ofText (s : List Char) : (ofText s).text = s := by
  fun_induction ofText s with
  | case1 => rfl
  | case2 c r p after h _ ih => simpa [text, ih] using Pair.source_append_of_read? h
  | case3 c r h ih => simp [ih]

/-- The text before the first pair. -/
def lead : Cut → List Char
  | .rest text => text
  | .pair gap _ _ => gap

/-- No pair is left. -/
def isLast : Cut → Bool
  | .rest _ => true
  | .pair _ _ _ => false

/-- The pairs in order, each with its offset, where the cut starts at `start`. -/
def pairsFrom (start : Nat) : Cut → List (Nat × Pair)
  | .rest _ => []
  | .pair gap p next =>
    (start + gap.length, p) :: next.pairsFrom (start + gap.length + p.source.length)

end Cut

/-- The brace pairs of a text with their offsets. -/
def pairs (s : List Char) : List (Nat × Pair) :=
  (Cut.ofText s).pairsFrom 0

end Promptsmith.Template
