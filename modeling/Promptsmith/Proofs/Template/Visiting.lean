import Mathlib.Order.Bounds.Basic
import Promptsmith.Proofs.Template.Directives
import Promptsmith.Proofs.Template.Matching
import Promptsmith.Proofs.Template.Padding

/-!
# The pairs that a scan visits

Where a pair starts and ends is said by offsets alone: opening braces, the first place behind them
without white space, and the first closing braces from there on. A scan that goes from the first
such pair to the next one behind it visits just the pairs that a text is cut at.
-/
namespace Promptsmith.Template

open Promptsmith.Text

/-! ### Offsets -/

/-- The first offset from `n` on with a property. -/
def FirstFrom (n : Nat) (P : Nat → Prop) (i : Nat) : Prop :=
  IsLeast {k | n ≤ k ∧ P k} i

def StandsAt (text word : List Char) (i : Nat) : Prop :=
  word <+: text.drop i

/-- No white space stands at the offset; the text may end there. -/
def SolidAt (text : List Char) (i : Nat) : Prop :=
  ∀ c, text[i]? = some c → isBlank c = false

/-- A pair starts at the offset `i`: white space follows its opening braces up to the offset `p`,
and the first closing braces from there on stand at `q`. -/
structure PairAt (text : List Char) (i p q : Nat) (pair : Pair) : Prop where
  opening : StandsAt text ['{', '{'] i
  solid : FirstFrom (i + 2) (SolidAt text) p
  closing : FirstFrom p (StandsAt text ['}', '}']) q
  inner : pair.inner = trimEnd (text.extract p q)
  oneLine : '\n' ∉ pair.inner
  source : pair.source = text.extract i (q + 2)

def StartsAt (text : List Char) (i : Nat) : Prop :=
  ∃ p q pair, PairAt text i p q pair

/-- A scan from the offset `n` on visits these pairs: each starts at the first offset where one
does, and the scan goes on behind its closing braces. -/
inductive Visits (text : List Char) : Nat → List (Nat × Pair) → Prop
  | done {n : Nat} (h : ∀ i, n ≤ i → ¬ StartsAt text i) : Visits text n []
  | next {n i p q : Nat} {pair : Pair} {found : List (Nat × Pair)}
      (hfirst : FirstFrom n (StartsAt text) i) (hpair : PairAt text i p q pair)
      (h : Visits text (q + 2) found) : Visits text n ((i, pair) :: found)

section

variable {text : List Char} {n i p q : Nat} {pair : Pair}

theorem firstFrom_solid {blanks rest : List Char} (htext : text.drop n = blanks ++ rest)
    (hblanks : ∀ c ∈ blanks, isBlank c) (hrest : ∀ c ∈ rest.head?, isBlank c = false) :
    FirstFrom n (SolidAt text) (n + blanks.length) := by
  constructor
  · refine ⟨Nat.le_add_right _ _, ?_⟩
    intro c hc
    rw [← List.getElem?_drop, htext, List.getElem?_append_right (Nat.le_refl _), Nat.sub_self,
      ← List.head?_eq_getElem?] at hc
    exact hrest c hc
  · rintro m ⟨hm, hsolid⟩
    by_contra hlt
    have hbound : m - n < blanks.length := by omega
    have hat : text[n + (m - n)]? = some blanks[m - n] := by
      rw [← List.getElem?_drop, htext, List.getElem?_append_left hbound,
        List.getElem?_eq_getElem hbound]
    rw [Nat.add_sub_cancel' hm] at hat
    have hblank := hblanks _ (List.getElem_mem hbound)
    rw [hsolid _ hat] at hblank
    cases hblank

theorem firstFrom_closing {raw after : List Char}
    (h : splitAtClosing (text.drop n) = some (raw, after)) :
    FirstFrom n (StandsAt text ['}', '}']) (n + raw.length) := by
  have htext := eq_of_splitAtClosing h
  constructor
  · refine ⟨Nat.le_add_right _ _, after, ?_⟩
    rw [← List.drop_drop, htext, List.drop_left]
    rfl
  · rintro m ⟨hm, r, hr⟩
    have hdrop : text.drop n = (text.drop n).take (m - n) ++ '}' :: '}' :: r := by
      have hsplit := List.take_append_drop (m - n) (text.drop n)
      rw [List.drop_drop, Nat.add_sub_cancel' hm, ← hr] at hsplit
      exact hsplit.symm
    rw [hdrop] at h
    have hle := (prefix_of_splitAtClosing h).length_le
    rw [List.length_take] at hle
    omega

theorem exists_splitAtClosing_drop (hn : n ≤ q) (h : StandsAt text ['}', '}'] q) :
    ∃ raw after, splitAtClosing (text.drop n) = some (raw, after) := by
  refine exists_splitAtClosing (h.isInfix.trans ?_)
  rw [← Nat.add_sub_cancel' hn, ← List.drop_drop]
  exact (List.drop_suffix _ _).isInfix

/-! ### One pair -/

theorem drop_opening {r : List Char} (h : text.drop i = '{' :: '{' :: r) : text.drop (i + 2) = r := by
  rw [← List.drop_drop, h]
  rfl

theorem drop_blanks {r : List Char} (h : text.drop i = '{' :: '{' :: r) :
    text.drop (i + 2 + (r.takeWhile isBlank).length) = r.dropWhile isBlank := by
  rw [← List.drop_drop, drop_opening h]
  exact (congrArg (List.drop _) List.takeWhile_append_dropWhile.symm).trans List.drop_left

theorem firstFrom_blanks {r : List Char} (h : text.drop i = '{' :: '{' :: r) :
    FirstFrom (i + 2) (SolidAt text) (i + 2 + (r.takeWhile isBlank).length) := by
  have htext : text.drop (i + 2) = r.takeWhile isBlank ++ r.dropWhile isBlank :=
    (drop_opening h).trans List.takeWhile_append_dropWhile.symm
  refine firstFrom_solid htext (all_takeWhile isBlank r) ?_
  intro c hc
  have hhead := List.head?_dropWhile_not isBlank r
  rw [Option.mem_def.mp hc] at hhead
  exact hhead

/-- What stands between the offsets of a pair. -/
theorem extract_parts {r raw after : List Char} (h : text.drop i = '{' :: '{' :: r)
    (hsplit : splitAtClosing (r.dropWhile isBlank) = some (raw, after))
    (hp : p = i + 2 + (r.takeWhile isBlank).length) (hq : q = p + raw.length) :
    text.extract p q = raw ∧
      text.extract i (q + 2) = '{' :: '{' :: r.takeWhile isBlank ++ raw ++ ['}', '}'] := by
  have hrest := eq_of_splitAtClosing hsplit
  constructor
  · rw [List.extract_eq_take_drop, hp, drop_blanks h, hrest]
    exact List.take_left' (by omega)
  · have htext : text.drop i =
        ('{' :: '{' :: r.takeWhile isBlank ++ raw ++ ['}', '}']) ++ after := by
      have hr := List.takeWhile_append_dropWhile (p := isBlank) (l := r)
      rw [hrest] at hr
      simp [h, hr]
    rw [List.extract_eq_take_drop, htext]
    refine List.take_left' ?_
    simp only [List.length_append, List.length_cons, List.length_nil]
    omega

/-- A pair that is read at an offset is one by its offsets. -/
theorem exists_pairAt {after : List Char} (h : Pair.read? (text.drop i) = some (pair, after)) :
    ∃ p q, PairAt text i p q pair ∧ q + 2 = i + pair.source.length := by
  unfold Pair.read? at h
  split at h
  · next r hopening =>
    obtain ⟨raw, hsplit, hline, rfl⟩ := Pair.close?_eq_some_iff.mp h
    obtain ⟨hinner, hsource⟩ := extract_parts hopening hsplit rfl rfl
    have hclosing := hsplit
    rw [← drop_blanks hopening] at hclosing
    refine ⟨_, _, ⟨⟨r, hopening.symm⟩, firstFrom_blanks hopening, firstFrom_closing hclosing,
      congrArg trimEnd hinner.symm, hline, hsource.symm⟩, ?_⟩
    simp only [List.length_append, List.length_cons, List.length_nil]
    omega
  · cases h

/-- The offsets of a pair say how it is read. -/
theorem PairAt.exists_read? (h : PairAt text i p q pair) :
    ∃ after, Pair.read? (text.drop i) = some (pair, after) ∧ q + 2 = i + pair.source.length := by
  obtain ⟨r, hr⟩ := h.opening
  have hopening : text.drop i = '{' :: '{' :: r := hr.symm
  have hp := h.solid.unique (firstFrom_blanks hopening)
  obtain ⟨raw, after, hsplit⟩ := exists_splitAtClosing_drop h.closing.1.1 h.closing.1.2
  have hq := h.closing.unique (firstFrom_closing hsplit)
  rw [hp, drop_blanks hopening] at hsplit
  obtain ⟨hinner, hsource⟩ := extract_parts hopening hsplit hp hq
  have hpair : pair = ⟨'{' :: '{' :: r.takeWhile isBlank ++ raw ++ ['}', '}'], trimEnd raw⟩ := by
    rw [← hsource, ← h.source, ← hinner, ← h.inner]
  have hline := h.oneLine
  rw [hpair] at hline ⊢
  refine ⟨after, ?_, ?_⟩
  · rw [hopening]
    exact Pair.close?_eq_some_iff.mpr ⟨raw, hsplit, hline, rfl⟩
  · simp only [List.length_append, List.length_cons, List.length_nil]
    omega

theorem PairAt.unique {p' q' : Nat} {pair' : Pair} (h : PairAt text i p q pair)
    (h' : PairAt text i p' q' pair') : q = q' ∧ pair = pair' := by
  obtain ⟨after, hread, hstop⟩ := h.exists_read?
  obtain ⟨after', hread', hstop'⟩ := h'.exists_read?
  rw [hread] at hread'
  cases hread'
  exact ⟨by omega, rfl⟩

theorem startsAt_iff : StartsAt text i ↔ Pair.read? (text.drop i) ≠ none := by
  constructor
  · rintro ⟨p, q, pair, h⟩
    obtain ⟨after, hread, -⟩ := h.exists_read?
    rw [hread]
    exact Option.some_ne_none _
  · intro h
    obtain ⟨⟨pair, after⟩, hread⟩ := Option.ne_none_iff_exists'.mp h
    obtain ⟨p, q, hpair, -⟩ := exists_pairAt hread
    exact ⟨p, q, pair, hpair⟩

/-! ### The scan -/

theorem Visits.unique {found found' : List (Nat × Pair)} (h : Visits text n found)
    (h' : Visits text n found') : found = found' := by
  induction h generalizing found' with
  | done hnone =>
    cases h' with
    | done => rfl
    | next hfirst _ _ => exact absurd hfirst.1.2 (hnone _ hfirst.1.1)
  | next hfirst hpair _ ih =>
    cases h' with
    | done hnone => exact absurd hfirst.1.2 (hnone _ hfirst.1.1)
    | next hfirst' hpair' hrest =>
      obtain rfl := hfirst.unique hfirst'
      obtain ⟨rfl, rfl⟩ := hpair.unique hpair'
      rw [ih hrest]

theorem not_startsAt_of_quiet {left : List Char} {t : Cut} (hquiet : t.Quiet)
    (hi : left.length ≤ i) (hlt : i < left.length + t.lead.length) :
    ¬ StartsAt (left ++ t.text) i := by
  have hsplit : t.text = t.text.take (i - left.length) ++ t.text.drop (i - left.length) :=
    (List.take_append_drop _ _).symm
  have hdrop : (left ++ t.text).drop i = t.text.drop (i - left.length) := by
    rw [List.drop_append, List.drop_eq_nil_of_le hi, List.nil_append]
  rw [startsAt_iff, not_not, hdrop]
  refine hquiet _ _ hsplit ?_
  rw [List.length_take]
  omega

/-- The pairs of a cut are those that a scan visits, where it goes on behind `left`. -/
theorem visits_of_leftmost {left : List Char} {cut : Cut} (hsound : cut.Sound)
    (hleftmost : cut.Leftmost) :
    Visits (left ++ cut.text) left.length (cut.pairsFrom left.length) := by
  induction cut generalizing left with
  | rest text =>
    refine .done ?_
    intro i hi
    by_cases hlt : i < left.length + text.length
    · exact not_startsAt_of_quiet hleftmost hi hlt
    · rw [startsAt_iff, not_not, List.drop_eq_nil_of_le]
      · rfl
      · rw [List.length_append]
        exact Nat.not_lt.mp hlt
  | pair gap p next ih =>
    have hrest := @ih (left ++ gap ++ p.source) hsound.2 hleftmost.2
    have hdrop : (left ++ (gap ++ p.source ++ next.text)).drop (left.length + gap.length) =
        p.source ++ next.text := by
      rw [← List.length_append, List.append_assoc gap, ← List.append_assoc left, List.drop_left]
    have hread := hsound.1
    rw [← hdrop] at hread
    obtain ⟨_, q, hpair, hstop⟩ := exists_pairAt hread
    refine .next ⟨⟨Nat.le_add_right _ _, _, _, _, hpair⟩, ?_⟩ hpair ?_
    · rintro i ⟨hi, hstarts⟩
      by_contra hlt
      exact not_startsAt_of_quiet hleftmost.1 hi (Nat.not_le.mp hlt) hstarts
    · rw [hstop]
      simpa [Cut.text, Nat.add_assoc] using hrest

end

/-! ### What a pair holds -/

/-- A text that can stand in a pair: it lies on one line, no closing braces are in it, and it
neither starts nor ends with white space. -/
structure Holdable (inner : List Char) : Prop where
  oneLine : '\n' ∉ inner
  unclosed : ¬ ['}', '}'] <:+: inner
  starts : ∀ c ∈ inner.head?, isBlank c = false
  ends : ∀ c ∈ inner.getLast?, isBlank c = false

theorem holdable_of_close? {r after : List Char} {p : Pair} (h : Pair.close? r = some (p, after)) :
    Holdable p.inner := by
  obtain ⟨raw, hsplit, hline, rfl⟩ := Pair.close?_eq_some_iff.mp h
  have hprefix : trimEnd raw <+: raw := dropEndWhile_prefix isBlank raw
  have htext := eq_of_splitAtClosing hsplit
  refine ⟨hline, ?_, ?_, ?_⟩
  · intro hinfix
    obtain ⟨a, b, hab⟩ := hinfix.trans hprefix.isInfix
    rw [htext, ← hab, List.append_assoc, List.append_assoc] at hsplit
    have hle := (prefix_of_splitAtClosing hsplit).length_le
    simp at hle
  · intro c hc
    obtain ⟨t, ht⟩ := List.head?_eq_some_iff.mp hc
    have hfront : c :: t <+: r.dropWhile isBlank := by
      rw [← ht, htext]
      exact hprefix.trans (List.prefix_append _ _)
    obtain ⟨d, _, hcons, hd⟩ := exists_cons_of_dropWhile hfront (List.cons_ne_nil c t)
    obtain ⟨rfl, -⟩ := List.cons.inj hcons
    exact hd
  · intro c hc
    dsimp only at hc
    rcases trimEnd_eq_nil_or_ends raw with hnil | ⟨t, d, ht, hd⟩
    · rw [hnil] at hc
      cases hc
    · rw [ht, List.getLast?_concat] at hc
      cases hc
      exact hd

theorem Cut.Sound.holdable {cut : Cut} (h : cut.Sound) (start : Nat) :
    ∀ e ∈ cut.pairsFrom start, Holdable e.2.inner := by
  induction cut generalizing start with
  | rest text => exact nofun
  | pair gap p next ih =>
    rw [pairsFrom, List.forall_mem_cons]
    refine ⟨?_, ih h.2 _⟩
    have hread := h.1
    unfold Pair.read? at hread
    split at hread
    · exact holdable_of_close? hread
    · cases hread

/-- The pairs of a text are those that a direct scan visits, and no others are visited by such a
scan; the text is cut there by a search for the pattern too. What they hold is trimmed and lies on
one line, and each pair starts behind the one before it. -/
theorem pairs_visited (text : List Char) :
    (∀ found, Visits text 0 found ↔ found = pairs text) ∧
      Cut.ofCutting (tagPattern.cut text) = Cut.ofText text ∧
      (∀ e ∈ pairs text, Holdable e.2.inner) ∧
      (pairs text).Pairwise fun e f => e.1 < f.1 ∧ e.1 + e.2.source.length ≤ f.1 := by
  have hsound := Cut.sound_ofText text
  have hvisits : Visits text 0 (pairs text) := by
    have hcut := @visits_of_leftmost [] _ hsound (Cut.leftmost_ofText text)
    rwa [Cut.text_ofText] at hcut
  refine ⟨?_, Cut.ofCutting_tagPattern text, hsound.holdable 0, ?_⟩
  · intro found
    constructor
    · exact fun h => h.unique hvisits
    · rintro rfl
      exact hvisits
  · refine ((Cut.ofText text).pairsFrom_ordered 0).2.imp_of_mem ?_
    intro e f he _ hle
    have hpos := hsound.source_pos 0 e he
    exact ⟨by omega, hle⟩

end Promptsmith.Template
