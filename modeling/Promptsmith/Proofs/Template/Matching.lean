import Promptsmith.Proofs.Template.Hiding
import Promptsmith.Proofs.Template.Prefix
import Promptsmith.Proofs.Text.Pattern
import Promptsmith.Proofs.Text.Splitting

/-!
# Pairs as matches of a pattern

The brace pairs are the matches of a pattern whose runs of white space are as long as possible and
whose middle is as short as possible. Where the pattern takes less white space in front, the middle
would only be longer, so a pair is read without trying that.
-/
namespace Promptsmith.Template

open Promptsmith.Text

/-! ### The pattern -/

def closingPattern : Pattern := [.longest isBlank, .one (· == '}'), .one (· == '}')]

def innerPattern : Pattern := .shortest (· != '\n') :: closingPattern

/-- Two opening braces, white space, what the pair holds on one line, white space, two closing
braces. -/
def tagPattern : Pattern := .one (· == '{') :: .one (· == '{') :: .longest isBlank :: innerPattern

/-- The pair of a match: all its pieces, and what the middle one holds. -/
def Pair.ofPieces (pieces : List (List Char)) : Pair :=
  ⟨pieces.flatten, pieces.getD 3 []⟩

/-! ### White space -/

theorem dropEndWhile_append_of_ne_nil {p : Char → Bool} {t : List Char}
    (h : dropEndWhile p t ≠ []) (s : List Char) :
    dropEndWhile p (s ++ t) = s ++ dropEndWhile p t := by
  induction s with
  | nil => rfl
  | cons c s ih =>
    obtain ⟨d, r, hd⟩ := List.exists_cons_of_ne_nil (List.append_ne_nil_of_right_ne_nil s h)
    rw [List.cons_append, dropEndWhile, ih, hd]
    exact congrArg (List.cons c) hd.symm

theorem brace_not_mem_of_blank {s : List Char} (h : ∀ c ∈ s, isBlank c) : '}' ∉ s :=
  fun hmem => absurd (h _ hmem) (by decide)

/-! ### Closing braces -/

/-- The first closing braces do not stand behind others. -/
theorem prefix_of_splitAtClosing {u r raw after : List Char}
    (h : splitAtClosing (u ++ '}' :: '}' :: r) = some (raw, after)) : raw <+: u := by
  rcases List.append_eq_append_iff.mp (eq_of_splitAtClosing h) with ⟨x, rfl, -⟩ | ⟨x, rfl, -⟩
  · have hx := splitAtClosing_drop h
    rw [splitAtClosing] at hx
    cases hx
    rw [List.append_nil]
  · exact List.prefix_append _ _

theorem trimEnd_prefix_of_splitAtClosing {u blanks r raw after : List Char}
    (h : splitAtClosing (u ++ (blanks ++ '}' :: '}' :: r)) = some (raw, after))
    (hblanks : ∀ c ∈ blanks, isBlank c) : trimEnd raw <+: u := by
  rw [← List.append_assoc] at h
  have hraw := prefix_of_splitAtClosing h
  have htrimmed : trimEnd raw <+: raw := dropEndWhile_prefix isBlank raw
  rcases List.prefix_or_prefix_of_prefix hraw (List.prefix_append u blanks) with hu | ⟨b, rfl⟩
  · exact htrimmed.trans hu
  · have hb : ∀ c ∈ b, isBlank c := fun c hc =>
      hblanks c (((List.prefix_append_right_inj u).mp hraw).subset hc)
    rw [trimEnd, dropEndWhile_append u hb]
    exact dropEndWhile_prefix isBlank u

theorem read?_closingPattern {blanks : List Char} (h : ∀ c ∈ blanks, isBlank c)
    (after : List Char) :
    closingPattern.read? (blanks ++ '}' :: '}' :: after) = some ([blanks, ['}'], ['}']], after) := by
  obtain ⟨htake, hdrop⟩ := span_append h (by decide : isBlank '}' = false) ('}' :: after)
  have hway := @Pattern.getLast?_ways _ isBlank (Pattern.read? [.one (· == '}'), .one (· == '}')])
    (blanks ++ '}' :: '}' :: after) ([['}'], ['}']], after) (by rw [hdrop]; rfl)
  rw [closingPattern, Pattern.read?, hway, htake]
  rfl

theorem exists_of_closingPattern {s : List Char} (h : closingPattern.read? s ≠ none) :
    ∃ blanks after, s = blanks ++ '}' :: '}' :: after ∧ ∀ c ∈ blanks, isBlank c := by
  obtain ⟨⟨pieces, after⟩, hread⟩ := Option.ne_none_iff_exists'.mp h
  obtain ⟨htakes, rfl⟩ := Pattern.read?_sound hread
  rcases htakes with _ | ⟨hblanks, htakes⟩
  rcases htakes with _ | ⟨⟨c, rfl, hc⟩, htakes⟩
  rcases htakes with _ | ⟨⟨d, rfl, hd⟩, htakes⟩
  cases htakes
  obtain rfl := beq_iff_eq.mp hc
  obtain rfl := beq_iff_eq.mp hd
  exact ⟨_, after, by simp, hblanks⟩

/-! ### The middle -/

theorem read?_innerPattern {s raw after : List Char} (h : splitAtClosing s = some (raw, after))
    (hline : '\n' ∉ trimEnd raw) :
    innerPattern.read? s = some ([trimEnd raw, endWhile isBlank raw, ['}'], ['}']], after) := by
  have hblanks : ∀ c ∈ endWhile isBlank raw, isBlank c := by
    intro c hc
    rw [endWhile_eq_rtakeWhile] at hc
    exact List.mem_rtakeWhile_imp hc
  have htext : s = trimEnd raw ++ (endWhile isBlank raw ++ '}' :: '}' :: after) := by
    rw [eq_of_splitAtClosing h, ← List.append_assoc, trimEnd, dropEndWhile_append_endWhile]
  -- A shorter middle would end before the last character of it that is no white space.
  have hfirst : ∀ v w, v ++ w = trimEnd raw → w ≠ [] →
      closingPattern.read? (w ++ (endWhile isBlank raw ++ '}' :: '}' :: after)) = none := by
    intro v w hvw hw
    by_contra hread
    obtain ⟨blanks, r, hr, hblank⟩ := exists_of_closingPattern hread
    rw [htext, ← hvw, List.append_assoc, hr] at h
    have hle := (trimEnd_prefix_of_splitAtClosing h hblank).length_le
    rw [← hvw, List.length_append] at hle
    exact hw (List.length_eq_zero_iff.mp (by omega))
  have hway := Pattern.head?_ways (p := (· != '\n')) (fun c hc => by
    rw [bne_iff_ne]
    rintro rfl
    exact hline hc) (read?_closingPattern hblanks after) hfirst
  rw [innerPattern, Pattern.read?, htext, hway]
  rfl

theorem read?_innerPattern_eq_none {s : List Char}
    (h : ∀ raw after, splitAtClosing s = some (raw, after) → '\n' ∈ trimEnd raw) :
    innerPattern.read? s = none := by
  have hways : Pattern.ways (· != '\n') closingPattern.read? s = [] := by
    rw [Pattern.ways_eq_nil_iff]
    rintro u t rfl hu
    by_contra hread
    obtain ⟨blanks, r, rfl, hblanks⟩ := exists_of_closingPattern hread
    obtain ⟨raw, after, hsplit⟩ := exists_splitAtClosing
      (s := u ++ (blanks ++ '}' :: '}' :: r)) ⟨u ++ blanks, r, by simp⟩
    have hmem := (trimEnd_prefix_of_splitAtClosing hsplit hblanks).subset (h raw after hsplit)
    exact absurd (hu _ hmem) (by decide)
  rw [innerPattern, Pattern.read?, hways]
  rfl

/-- With less white space in front, the middle holds the rest of it as well. -/
theorem read?_innerPattern_of_close? {u t : List Char} (hu : ∀ c ∈ u, isBlank c)
    (h : Pair.close? (u ++ t) = none) : innerPattern.read? t = none := by
  refine read?_innerPattern_eq_none ?_
  intro raw after hsplit
  rw [Pair.close?, List.dropWhile_append_of_pos hu] at h
  have hfront := brace_not_mem_of_blank (all_takeWhile isBlank t)
  rw [← List.takeWhile_append_dropWhile (p := isBlank) (l := t),
    splitAtClosing_append hfront] at hsplit
  obtain ⟨⟨rest, more⟩, hrest, heq⟩ := Option.map_eq_some_iff.mp hsplit
  cases heq
  rw [hrest] at h
  dsimp only at h
  split at h
  · next hline =>
    rw [trimEnd, dropEndWhile_append_of_ne_nil (List.ne_nil_of_mem hline)]
    exact List.mem_append_right _ hline
  · cases h

/-! ### Pairs -/

theorem Pair.close?_eq_some_iff {r after : List Char} {p : Pair} :
    Pair.close? r = some (p, after) ↔ ∃ raw, splitAtClosing (r.dropWhile isBlank) = some (raw, after) ∧
      '\n' ∉ trimEnd raw ∧ p = ⟨'{' :: '{' :: r.takeWhile isBlank ++ raw ++ ['}', '}'], trimEnd raw⟩ := by
  unfold Pair.close?
  constructor
  · intro h
    split at h
    · cases h
    · next raw rest hsplit =>
      dsimp only at h
      split at h
      · cases h
      · next hline =>
        cases h
        exact ⟨raw, hsplit, hline, rfl⟩
  · rintro ⟨raw, hsplit, hline, rfl⟩
    rw [hsplit]
    exact if_neg hline

theorem read?_tagPattern_braces (r : List Char) :
    (tagPattern.read? ('{' :: '{' :: r)).map (fun m => (Pair.ofPieces m.1, m.2)) =
      Pair.close? r := by
  have hbraces : tagPattern.read? ('{' :: '{' :: r) =
      (Pattern.ways isBlank innerPattern.read? r).getLast?.map fun m =>
        (['{'] :: ['{'] :: m.1 :: m.2.1, m.2.2) := by
    simp [tagPattern, Pattern.read?, Function.comp_def]
  rw [hbraces, Option.map_map]
  cases hclose : Pair.close? r with
  | none =>
    have hways : Pattern.ways isBlank innerPattern.read? r = [] := by
      rw [Pattern.ways_eq_nil_iff]
      rintro u t rfl hu
      exact read?_innerPattern_of_close? hu hclose
    rw [hways]
    rfl
  | some m =>
    obtain ⟨p, after⟩ := m
    obtain ⟨raw, hsplit, hline, rfl⟩ := Pair.close?_eq_some_iff.mp hclose
    have hraw := dropEndWhile_append_endWhile isBlank raw
    rw [Pattern.getLast?_ways (read?_innerPattern hsplit hline)]
    simp [Pair.ofPieces, trimEnd, ← List.append_assoc, hraw]

/-- A pair is read as the pattern matches. -/
theorem read?_tagPattern (s : List Char) :
    (tagPattern.read? s).map (fun m => (Pair.ofPieces m.1, m.2)) = Pair.read? s := by
  match s with
  | [] => rfl
  | [c] => cases hc : c == '{' <;> simp [tagPattern, Pattern.read?, Pair.read?, hc]
  | c :: d :: r =>
    by_cases h : c = '{' ∧ d = '{'
    · obtain ⟨rfl, rfl⟩ := h
      exact read?_tagPattern_braces r
    · rw [Pair.read?_eq_none_of_ne h]
      rw [not_and_or] at h
      rcases h with h | h <;> simp [tagPattern, Pattern.read?, h]

/-! ### Texts -/

/-- The cut of a text at the pairs of the matches. -/
def Cut.ofCutting : Cutting → Cut
  | .rest text => .rest text
  | .found gap pieces next => .pair gap (Pair.ofPieces pieces) (ofCutting next)

theorem Cut.ofCutting_push (c : Char) (t : Cutting) :
    Cut.ofCutting (t.push c) = (Cut.ofCutting t).push c := by
  cases t <;> rfl

/-- A search for the pattern cuts a text at its pairs. -/
theorem Cut.ofCutting_tagPattern (s : List Char) :
    Cut.ofCutting (tagPattern.cut s) = Cut.ofText s := by
  have hone : .one (· == '{') ∈ tagPattern := List.mem_cons_self
  refine Pattern.cut_induction hone (motive := fun s t => Cut.ofCutting t = Cut.ofText s)
    ?nil ?found ?pass s
  case nil => simp [ofCutting]
  case found =>
    intro pieces after _ hread ih
    have hpair := read?_tagPattern (pieces.flatten ++ after)
    rw [hread] at hpair
    rw [ofCutting, ih, Cut.ofText_of_read? hpair.symm]
  case pass =>
    intro c r hread ih
    have hpair := read?_tagPattern (c :: r)
    rw [hread] at hpair
    rw [Cut.ofCutting_push, ih, Cut.ofText_cons hpair.symm]

end Promptsmith.Template
